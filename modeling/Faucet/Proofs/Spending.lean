import Faucet.Proofs.Course
import Faucet.Proofs.Crowd
import Faucet.Proofs.Manners

/-!
Which turns spend coin and which claim a payout, and how the ledger changes while requests, cycles
and sweeps work on it: rows keep their number and address, and none is ever made pending again.
-/

set_option autoImplicit false

namespace Faucet

namespace Outputs

theorem any_put (outputs : Outputs) (key value a : Text) :
    (Entries.put outputs key value).any (fun o => o.1 = a) =
      (decide (key = a) || outputs.any fun o => o.1 = a) := by
  induction outputs with
  | nil => rfl
  | cons o outputs ih =>
    unfold Entries.put
    split
    · rename_i same
      subst same
      simp only [List.any_cons, ← Bool.or_assoc, Bool.or_self]
    · simp only [List.any_cons, ih, Bool.or_left_comm]

theorem eq_of_any_payment {address : Text} {amount : Decimal} {memo : Text} {outputs : Outputs}
    (h : payment address amount memo = .ok outputs) {a : Text}
    (ha : (outputs.any fun o => o.1 = a) = true) (spare : a ≠ memoKey) : a = address := by
  unfold payment at h
  dsimp only at h
  have other : decide (memoKey = a) = false := decide_eq_false fun e => spare e.symm
  split at h
  · cases h
    simpa [eq_comm] using ha
  · split at h
    · cases h
      rw [any_put, other] at ha
      simpa [eq_comm] using ha
    · cases h

theorem payment_address {a a' : Text} {x x' : Decimal} {memo : Text} {outputs : Outputs}
    (h : payment a x memo = .ok outputs) (h' : payment a' x' memo = .ok outputs) : a = a' := by
  unfold payment at h h'
  dsimp only at h h'
  generalize x.fixed8 = value at h
  generalize x'.fixed8 = value' at h'
  split at h
  · rename_i empty
    rw [if_pos empty] at h'
    cases h
    cases h'
    rfl
  · rename_i full
    rw [if_neg full] at h'
    cases octets : memo.utf8? with
    | none =>
      rw [octets] at h
      cases h
    | some memo =>
      rw [octets] at h h'
      dsimp only at h h'
      generalize Text.ofOctetsHex memo = hex at h h'
      simp only [Entries.put] at h h'
      by_cases ha : a = memoKey
      · by_cases ha' : a' = memoKey
        · exact ha.trans ha'.symm
        · rw [if_pos ha] at h
          rw [if_neg ha'] at h'
          cases h.trans h'.symm
      · by_cases ha' : a' = memoKey
        · rw [if_neg ha] at h
          rw [if_pos ha'] at h'
          cases h.trans h'.symm
        · rw [if_neg ha] at h
          rw [if_neg ha'] at h'
          cases h.trans h'.symm
          rfl

end Outputs

theorem Batch.payment_of_outputs {b : Batch} {r : Row} {outputs : Outputs}
    (h : b.outputs r = .ok outputs) : Outputs.payment r.address r.amount b.memo = .ok outputs := by
  unfold Batch.outputs at h
  split at h
  · cases h
  · cases h
  · exact h

theorem Batch.outputs_address {b : Batch} {r r' : Row} {outputs : Outputs}
    (h : b.outputs r = .ok outputs) (h' : b.outputs r' = .ok outputs) : r.address = r'.address :=
  Outputs.payment_address (payment_of_outputs h) (payment_of_outputs h')

namespace Note

def pays (a : Text) (e : Note) : Bool :=
  match e.turn with
  | .answered (.payment address _) _ => address = a
  | _ => false

def hands (a : Text) (e : Note) : Bool :=
  match e.turn with
  | .called (.broadcast outputs _ _) => outputs.any fun o => o.1 = a
  | _ => false

/-- A payout is announced or handed to the node. The key of the memo is not an address. -/
def Spends (a : Text) (e : Note) : Prop := e.pays a = true ∨ e.hands a = true ∧ a ≠ Outputs.memoKey

def Claims (id : Int) (e : Note) : Prop :=
  match e.turn with
  | .answered (.session (.update c _)) (.ok true) =>
    c.id = id ∧ c.source = .pending ∧ c.target = .processing
  | _ => False

def Quiet (e : Note) : Prop := (∀ a, e.pays a = false ∧ e.hands a = false) ∧ ∀ id, ¬e.Claims id

theorem Quiet.not_spends {e : Note} (h : e.Quiet) (a : Text) : ¬e.Spends a := by
  rintro (pays | ⟨hands, _⟩)
  · rw [(h.1 a).1] at pays
    cases pays
  · rw [(h.1 a).2] at hands
    cases hands

end Note

def Claimed (h : List Note) (i : Nat) (id : Int) : Prop := ∃ e ∈ h, e.process = i ∧ e.Claims id

theorem claimed_cons {e : Note} {h : List Note} {i : Nat} {id : Int} :
    Claimed (e :: h) i id ↔ (e.process = i ∧ e.Claims id) ∨ Claimed h i id := by
  simp only [Claimed, List.exists_mem_cons_iff]

theorem Claimed.append {h : List Note} {i : Nat} {id : Int} (newer : List Note)
    (c : Claimed h i id) : Claimed (newer ++ h) i id := by
  obtain ⟨e, he, hi⟩ := c
  exact ⟨e, List.mem_append_right newer he, hi⟩

namespace Ledger

structure Payable (l : Ledger) : Prop extends Keyed l where
  spare : ∀ r ∈ l, r.address ≠ Outputs.memoKey

def Grows (l l' : Ledger) : Prop :=
  ∀ r ∈ l, ∃ t ∈ l', t.id = r.id ∧ t.address = r.address ∧
    (t.status = .pending → r.status = .pending)

theorem Grows.refl (l : Ledger) : l.Grows l := fun r hr => ⟨r, hr, rfl, rfl, id⟩

theorem grows_apply (l : Ledger) (c : Change) (now : Moment) (h : c.target ≠ .pending) :
    l.Grows (l.apply c now) := by
  intro r hr
  refine ⟨_, (mem_apply l c now).mpr ⟨r, hr, rfl⟩, ?_⟩
  split
  · exact ⟨rfl, rfl, fun hp => absurd hp h⟩
  · exact ⟨rfl, rfl, id⟩

theorem Payable.apply {l : Ledger} (h : l.Payable) (c : Change) (now : Moment) :
    (l.apply c now).Payable := by
  refine ⟨h.toKeyed.apply, fun t ht => ?_⟩
  obtain ⟨r, hr, rfl⟩ := (mem_apply l c now).mp ht
  have spare := h.spare r hr
  split
  · exact spare
  · exact spare

def Knows (l : Ledger) (r : Row) : Prop := ∃ t ∈ l, t.id = r.id ∧ t.address = r.address

theorem Knows.grows {l l' : Ledger} {r : Row} (h : l.Knows r) (g : l.Grows l') : l'.Knows r := by
  obtain ⟨t, ht, hid, haddress⟩ := h
  obtain ⟨t', ht', hid', haddress', _⟩ := g t ht
  exact ⟨t', ht', hid'.trans hid, haddress'.trans haddress⟩

end Ledger

theorem Address.ne_memoKey {a : Text} (h : Address.isSignet a = true) : a ≠ Outputs.memoKey := by
  rintro rfl
  exact absurd h (by decide)

/-- A statement that takes no row back and adds none under the key of the memo. -/
def Statement.Tame : Statement → Prop
  | .insert address _ _ _ => ∀ a, address = some a → a ≠ Outputs.memoKey
  | .update c _ => c.target ≠ .pending
  | _ => True

/-- A question that leaves the database in working order and takes no row back. -/
def Query.Tame : Query → Prop
  | .session s => s.Tame
  | .prepare | .closeStore => False
  | _ => True

theorem Query.tame_of_isIntake {q : Query} (h : q.isIntake) : q.Tame := by
  cases q with
  | session s =>
    cases s with
    | insert address source sats now =>
      obtain ⟨a, rfl, ha⟩ := h
      intro a' ha'
      cases ha'
      exact Address.ne_memoKey ha
    | _ => trivial
  | _ => trivial

theorem Query.tame_of_isSweep {q : Query} (h : q.isSweep) : q.Tame := by
  cases q with
  | session s =>
    cases s with
    | update c now =>
      obtain ⟨r, rfl⟩ := h
      exact nofun
    | insert => cases h
    | _ => trivial
  | _ => trivial

theorem Note.quiet_of_isIntake {i : Nat} {q : Query} {r : q.Answer} (h : q.isIntake) :
    (Note.mk i (.answered q r)).Quiet := by
  cases q with
  | session s =>
    cases s with
    | update => cases h
    | _ => exact ⟨fun _ => ⟨rfl, rfl⟩, fun _ hc => hc⟩
  | payment => cases h
  | _ => exact ⟨fun _ => ⟨rfl, rfl⟩, fun _ hc => hc⟩

theorem Note.quiet_of_isSweep {i : Nat} {q : Query} {r : q.Answer} (h : q.isSweep) :
    (Note.mk i (.answered q r)).Quiet := by
  cases q with
  | session s =>
    cases s with
    | update c now =>
      obtain ⟨x, rfl⟩ := h
      refine ⟨fun _ => ⟨rfl, rfl⟩, fun id hc => ?_⟩
      match r with
      | .ok true => exact nomatch hc.2.1
      | .ok false | .error _ => exact hc
    | _ => exact ⟨fun _ => ⟨rfl, rfl⟩, fun _ hc => hc⟩
  | payment => cases h
  | _ => exact ⟨fun _ => ⟨rfl, rfl⟩, fun _ hc => hc⟩

namespace Batch

theorem endOf_source (r : Row) (payment : Except Failure Text) :
    (endOf r payment).source = .processing := by
  cases payment <;> rfl

theorem endOf_id (r : Row) (payment : Except Failure Text) : (endOf r payment).id = r.id := by
  cases payment <;> rfl

theorem endOf_target_ne (r : Row) (payment : Except Failure Text) :
    (endOf r payment).target ≠ .pending := by
  cases payment <;> exact nofun

theorem Stage.Moves.tame {b : Batch} {s s' : Stage} {q : Query} {r : q.Answer}
    (m : Moves b s q r s') : q.Tame := by
  cases m with
  | claim | claimLate | claimFails => exact nofun
  | close | closeLate | closeFails => exact endOf_target_ne _ _
  | _ => trivial

end Batch

namespace Database

theorem perform_tame {l : Ledger} (h : l.Payable) {s : Statement} (tame : s.Tame) :
    (perform l s).2.Payable ∧ l.Grows (perform l s).2 := by
  cases hw : writes s with
  | false =>
    rw [perform_snd_of_reads hw]
    exact ⟨h, .refl l⟩
  | true =>
    cases s with
    | insert address source sats now =>
      change (insert l address source sats now).2.Payable ∧
        l.Grows (insert l address source sats now).2
      unfold insert
      cases address with
      | none => exact ⟨h, .refl l⟩
      | some a =>
        dsimp only
        split
        · exact ⟨h, .refl l⟩
        · rename_i new
          rw [Bool.not_eq_true, Option.isSome_eq_false_iff, Option.isNone_iff_eq_none] at new
          refine ⟨⟨h.toKeyed.append_newRow source sats now new, fun r hr => ?_⟩, fun r hr => ?_⟩
          · rcases List.mem_append.mp hr with hr | hr
            · exact h.spare r hr
            · cases List.mem_singleton.mp hr
              exact tame a rfl
          · exact ⟨r, List.mem_append_left _ hr, rfl, rfl, id⟩
    | update c now => exact ⟨h.apply c now, Ledger.grows_apply l c now tame⟩
    | _ => cases hw

end Database

namespace Reaction

variable (ρ : Reaction) {d : Database} {l : Ledger}

theorem answer_still {q : Query} (tame : q.Tame) (other : ∀ s, q ≠ .session s) {r : q.Answer}
    {d' : Database} (done : ρ.answer d q = (r, d')) : d' = d := by
  have same : (ρ.answer d q).2 = d := by
    cases q with
    | session s => exact absurd rfl (other s)
    | enter m =>
      unfold answer
      cases ρ.fault with
      | none => rfl
      | some fault => rfl
    | prepare | closeStore => cases tame
    | _ => rfl
  rwa [done] at same

theorem answer_tame (h : d.Holds l) (p : l.Payable) {q : Query} (tame : q.Tame) {r : q.Answer}
    {d' : Database} (done : ρ.answer d q = (r, d')) :
    d'.Holds d'.rows ∧ Ledger.Payable d'.rows ∧ l.Grows d'.rows := by
  have same : d.Holds d.rows ∧ Ledger.Payable d.rows ∧ l.Grows d.rows := by
    rw [h.rows_eq]
    exact ⟨h, p, .refl l⟩
  by_cases other : ∀ s, q ≠ .session s
  · rw [ρ.answer_still tame other done]
    exact same
  · obtain ⟨s, hs⟩ := Classical.not_forall.mp other
    obtain rfl := Classical.not_not.mp hs
    rcases ρ.session_cases h s with ⟨e, he⟩ | hs
    · rw [he] at done
      cases done
      exact same
    · rw [hs] at done
      cases done
      exact ⟨⟨h.refusal, h.readOnly, rfl⟩, Database.perform_tame p tame⟩

end Reaction

end Faucet
