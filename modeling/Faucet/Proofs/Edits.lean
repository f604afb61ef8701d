import Faucet.Proofs.Lifecycle
import Faucet.Proofs.Reaction

/-!
What a question does to the ledger, as its answer tells: nothing, or one edit. A row is added, or
one row moves along an edge of its life.
-/

set_option autoImplicit false

namespace Faucet

inductive Edit where
  | added (row : Row)
  | changed (change : Ledger.Change) (now : Moment)

namespace Edit

def Makes (l l' : Ledger) : Edit → Prop
  | .added row => l' = l ++ [row] ∧ l.byAddress? row.address = none ∧
    ∃ address source sats now, row = Ledger.newRow l.nextId address source sats now
  | .changed c now => Store.permit c = .ok () ∧ l.touches c = true ∧ l' = l.apply c now

def moment : Edit → Moment
  | .added row => row.created
  | .changed _ now => now

variable {l l' : Ledger} {edit : Edit}

theorem Makes.keyed (h : edit.Makes l l') (k : l.Keyed) : l'.Keyed := by
  cases edit with
  | added row =>
    obtain ⟨rfl, new, address, source, sats, now, rfl⟩ := h
    exact k.append_newRow source sats now new
  | changed c now =>
    obtain ⟨_, _, rfl⟩ := h
    exact k.apply

theorem Makes.evolves (h : edit.Makes l l') : l.Evolves Status.Edge l' := by
  cases edit with
  | added row =>
    obtain ⟨rfl, _⟩ := h
    exact Ledger.evolves_append _ l [row]
  | changed c now =>
    obtain ⟨allowed, _, rfl⟩ := h
    exact Ledger.evolves_apply l ((Store.permit_ok_iff c).mp allowed).1 now

theorem Makes.ne (h : edit.Makes l l') (k : l.Keyed) : l' ≠ l := by
  cases edit with
  | added row =>
    obtain ⟨rfl, _⟩ := h
    exact fun same => List.cons_ne_nil row [] (List.append_right_eq_self.mp same)
  | changed c now =>
    obtain ⟨allowed, touched, rfl⟩ := h
    obtain ⟨older, r, younger, eq, _, hs, changed⟩ := k.apply_eq touched now
    rw [changed, eq]
    intro same
    have status := congrArg Row.status (List.cons.inj (List.append_cancel_left same)).1
    have edge := Status.rank_lt_of_edge ((Store.permit_ok_iff c).mp allowed).1
    rw [← hs, ← status] at edge
    exact Nat.lt_irrefl _ edge

def Accounts (l l' : Ledger) : Option Edit → Prop
  | none => l' = l
  | some edit => edit.Makes l l'

variable {told : Option Edit}

theorem Accounts.keyed (h : Accounts l l' told) (k : l.Keyed) : l'.Keyed := by
  cases told with
  | none => exact Eq.symm h ▸ k
  | some edit => exact Makes.keyed h k

theorem Accounts.evolves (h : Accounts l l' told) : l.Evolves Status.Edge l' := by
  cases told with
  | none => exact Eq.symm h ▸ .refl l
  | some edit => exact Makes.evolves h

/-- Where a row comes from: it was there as it is, it is new, or it has been changed. -/
theorem Accounts.mem_cases (h : Accounts l l' told) {t : Row} (ht : t ∈ l') :
    t ∈ l ∨ (told = some (.added t) ∧ (Edit.added t).Makes l l') ∨
      ∃ c now r, told = some (.changed c now) ∧ Store.permit c = .ok () ∧ r ∈ l ∧
        c.applies r = true ∧ t = c.row now r := by
  match told, h with
  | none, same =>
    obtain rfl : l' = l := same
    exact .inl ht
  | some (.added row), makes =>
    have whole := makes
    obtain ⟨rfl, _⟩ := makes
    rcases List.mem_append.mp ht with old | new
    · exact .inl old
    · obtain rfl := List.mem_singleton.mp new
      exact .inr (.inl ⟨rfl, whole⟩)
  | some (.changed c now), makes =>
    obtain ⟨allowed, _, rfl⟩ := makes
    obtain ⟨r, hr, rfl⟩ := (Ledger.mem_apply l c now).mp ht
    by_cases applies : c.applies r = true
    · rw [if_pos applies]
      exact .inr (.inr ⟨c, now, r, rfl, allowed, hr, applies, rfl⟩)
    · rw [if_neg applies]
      exact .inl hr

end Edit

namespace Query

/-- What a question has done to the ledger, as its answer tells. -/
def edit? : (q : Query) → q.Answer → Option Edit
  | .session (.insert ..), .ok (.ok row) => some (.added row)
  | .session (.update c moment), .ok true => some (.changed c moment)
  | _, _ => none

/-- A question that changes rows only as the life of a payout allows, and leaves the store open. -/
def Lawful : Query → Prop
  | .session (.update c _) => Store.permit c = .ok ()
  | .prepare | .closeStore => False
  | _ => True

theorem edit?_error (s : Statement) (e : Failure) : edit? (.session s) (.error e) = none := by
  cases s <;> rfl

end Query

def Edit.IsOf : Edit → Statement → Prop
  | .added row, .insert address source sats now =>
    ∃ id a, address = some a ∧ row = Ledger.newRow id a source sats now
  | .changed c now, .update c' now' => c' = c ∧ now' = now
  | _, _ => False

namespace Database

section
variable {l : Ledger} {address : Text} (source : Text) (sats : Int) (now : Moment)

theorem insert_free (free : l.byAddress? address = none) :
    insert l (some address) source sats now =
      (.ok (Ledger.newRow l.nextId address source sats now),
        l ++ [Ledger.newRow l.nextId address source sats now]) := by
  unfold insert
  dsimp only
  rw [free]
  rfl

theorem insert_taken {r : Row} (taken : l.byAddress? address = some r) :
    insert l (some address) source sats now = (.error .addressTaken, l) := by
  unfold insert
  dsimp only
  rw [taken]
  rfl

end

theorem insert_cases (l : Ledger) (address : Option Text) (source : Text) (sats : Int)
    (now : Moment) : (∃ conflict, insert l address source sats now = (.error conflict, l)) ∨
      ∃ a, address = some a ∧ l.byAddress? a = none ∧ insert l address source sats now =
        (.ok (Ledger.newRow l.nextId a source sats now),
          l ++ [Ledger.newRow l.nextId a source sats now]) := by
  cases address with
  | none => exact .inl ⟨_, rfl⟩
  | some a =>
    cases found : l.byAddress? a with
    | none => exact .inr ⟨a, rfl, found, insert_free source sats now found⟩
    | some r => exact .inl ⟨_, insert_taken source sats now found⟩

theorem perform_accounts (l : Ledger) {s : Statement} (lawful : (Query.session s).Lawful) :
    Edit.Accounts l (perform l s).2 (Query.edit? (.session s) (perform l s).1) := by
  cases s with
  | insert address source sats now =>
    rcases insert_cases l address source sats now with ⟨conflict, eq⟩ | ⟨a, rfl, new, eq⟩
    · simp only [perform, eq]
      rfl
    · simp only [perform, eq]
      exact ⟨rfl, new, a, source, sats, now, rfl⟩
  | update c now =>
    cases touched : l.touches c with
    | true =>
      simp only [perform, touched]
      exact ⟨lawful, touched, rfl⟩
    | false =>
      simp only [perform, touched]
      exact Ledger.apply_of_not_touches touched
  | _ => exact perform_snd_of_reads rfl

theorem perform_isOf (l : Ledger) {s : Statement} {edit : Edit}
    (told : Query.edit? (.session s) (perform l s).1 = some edit) : edit.IsOf s := by
  cases s with
  | insert address source sats now =>
    rcases insert_cases l address source sats now with ⟨conflict, eq⟩ | ⟨a, rfl, new, eq⟩
    · simp only [perform, eq] at told
      cases told
    · simp only [perform, eq] at told
      cases told
      exact ⟨_, a, rfl, rfl⟩
  | update c now =>
    cases touched : l.touches c with
    | true =>
      simp only [perform, touched] at told
      cases told
      exact ⟨rfl, rfl⟩
    | false =>
      simp only [perform, touched] at told
      cases told
  | _ => cases told

end Database

namespace Reaction

variable (ρ : Reaction) {d d' : Database} {l : Ledger} {q : Query} {r : q.Answer}

/-- Whatever a lawful question does to a store in working order, its answer tells. -/
theorem accounts (h : d.Holds l) (lawful : q.Lawful) (done : ρ.answer d q = (r, d')) :
    d'.Holds d'.rows ∧ Edit.Accounts l d'.rows (q.edit? r) := by
  have still : d' = d → q.edit? r = none →
      d'.Holds d'.rows ∧ Edit.Accounts l d'.rows (q.edit? r) := by
    rintro rfl silent
    rw [silent, h.rows_eq]
    exact ⟨h, rfl⟩
  cases q with
  | session s =>
    rcases ρ.session_cases h s with ⟨e, eq⟩ | eq
    · cases eq.symm.trans done
      exact still rfl (Query.edit?_error s e)
    · cases eq.symm.trans done
      exact ⟨⟨h.refusal, h.readOnly, rfl⟩, Database.perform_accounts l lawful⟩
  | enter m =>
    unfold answer at done
    cases hf : ρ.fault with
    | none =>
      rw [hf] at done
      cases done
      exact still rfl rfl
    | some fault =>
      rw [hf] at done
      cases done
      exact still rfl rfl
  | prepare | closeStore => cases lawful
  | _ =>
    cases done
    exact still rfl rfl

theorem edit_isOf (h : d.Holds l) (done : ρ.answer d q = (r, d')) {edit : Edit}
    (told : q.edit? r = some edit) : ∃ s, q = .session s ∧ edit.IsOf s := by
  cases q with
  | session s =>
    rcases ρ.session_cases h s with ⟨e, eq⟩ | eq
    · cases eq.symm.trans done
      rw [Query.edit?_error] at told
      cases told
    · cases eq.symm.trans done
      exact ⟨s, rfl, Database.perform_isOf l told⟩
  | _ => cases told

end Reaction

end Faucet
