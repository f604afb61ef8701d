import Faucet.Proofs.Manners
import Faucet.Proofs.Satoshis
import Faucet.Proofs.StoreFaults
import Faucet.Proofs.WellKept
import Faucet.Proofs.Yield

/-!
What a new payout is worth. Amounts that are not positive are refused, and the satoshis of any other
amount are stored as they are rounded; so a row is worth nothing if and only if its amount was at
most half a satoshi, or so little above it that 28 digits do not tell it from a half.
-/

set_option autoImplicit false

namespace Faucet

namespace Store

open Job

variable {env : Nat → Reaction} {s : Scene} {address : Option Text} {amount : Decimal} {source : Text}
  {sats : Int} {now : Moment} {q : ℚ}

/-- What is checked before a payout is sent to the database, and the satoshis that are sent. -/
def price (amount : Decimal) : Except Failure Int :=
  match amount.le .zero with
  | .error fault => .error (.defect (.arithmetic fault))
  | .ok true => .error (.store (.notPositive amount))
  | .ok false => Money.toSats amount

theorem price_ok (h : price amount = .ok sats) :
    amount.le .zero = .ok false ∧ Money.toSats amount = .ok sats := by
  unfold price at h
  split at h
  · cases h
  · cases h
  · rename_i above
    exact ⟨above, h⟩

theorem worth_of_price (h : price amount = .ok sats) :
    amount.isFinite = true ∧ sats = Decimal.roundEven (Decimal.rounded (amount.toRat * 10 ^ 8)) := by
  obtain ⟨above, worth⟩ := price_ok h
  obtain ⟨n, c, e, rfl, -⟩ := Money.toSats_ok worth
  rw [Money.toSats_eq ⟨rfl, rfl⟩] at worth
  split at worth
  · exact ⟨rfl, (Except.ok.inj worth).symm⟩
  · cases worth

theorem price_pos_iff (h : price amount = .ok sats) :
    1 ≤ sats ↔ 1 / 2 + 5 / 10 ^ 29 < amount.toRat * 10 ^ 8 := by
  rw [(worth_of_price h).2, ← not_le, ← Money.sats_le_zero_iff, not_le]
  rfl

theorem create_unpriced {e : Failure} (unpriced : price amount = .error e) (address : Option Text)
    (source : Text) : ∃ f, create address amount source = (enter .create).bind f ∧
      ∀ env s, Fails s e ((f ()).play env s) := by
  unfold price at unpriced
  unfold create
  split at unpriced
  · rename_i low
    cases unpriced
    rw [low]
    exact ⟨_, rfl, fun _ _ => ⟨rfl, rfl⟩⟩
  · rename_i low
    cases unpriced
    rw [low]
    exact ⟨_, rfl, fun _ _ => ⟨rfl, rfl⟩⟩
  · rename_i above
    rw [above, unpriced]
    exact ⟨_, rfl, fun _ _ => ⟨rfl, rfl⟩⟩

/-- A payout without a price is given up before the database is asked. -/
theorem create_three (env : Nat → Reaction) (s : Scene) (address : Option Text) (amount : Decimal)
    (source : Text) :
    Faults env s ((create address amount source).play env s) ∨
      (∃ e, price amount = .error e ∧ Fails s e ((create address amount source).play env s)) ∨
        ∃ sats now s', price amount = .ok sats ∧ s'.database = s.database ∧
          (create address amount source).play env s =
            ((session (.insert address source sats now)).bind (inserted address)).play env s' := by
  cases priced : price amount with
  | error e =>
    obtain ⟨f, course, fails⟩ := create_unpriced priced address source
    rw [course]
    refine (play_enter_or_fault env s .create f).imp_right fun ⟨s', goes, same, _⟩ => .inl ⟨e, rfl, ?_⟩
    obtain ⟨ended, kept⟩ := fails env s'
    rw [goes]
    exact ⟨ended, kept.trans same⟩
  | ok sats =>
    obtain ⟨above, worth⟩ := price_ok priced
    rw [create_eq above worth]
    refine (play_enter_or_fault env s .create fun _ => Job.now.bind fun now =>
      (session (.insert address source sats now)).bind (inserted address)).imp_right
        fun ⟨s', goes, same, _⟩ => .inr ?_
    exact ⟨sats, (env s'.log.length).clock, s'.asked (env s'.log.length) .now, rfl, same, goes⟩

theorem conflict_fails (env : Nat → Reaction) (s : Scene)
    (readable : Database.bind (.byAddress address) = .ok ()) (conflict : Conflict) :
    ∃ fault, Fails s (.store fault) ((inserted address (.error conflict)).play env s) := by
  change ∃ fault, Fails s (.store fault)
    (((session (.byAddress address)).bind (conflicting address conflict)).play env s)
  rcases play_session_or_fault env s (.byAddress address) rfl readable (conflicting address conflict)
    with failed | ⟨l, s', made, goes, left, -⟩
  · exact failed.fails
  · rw [Database.perform_snd_of_reads rfl, ← made] at left
    rw [goes]
    cases address with
    | none => exact ⟨_, rfl, left⟩
    | some a =>
      change ∃ fault, Fails s (.store fault)
        ((conflicting (some a) conflict (l.byAddress? a)).play env s')
      cases l.byAddress? a with
      | none => exact ⟨_, rfl, left⟩
      | some found => exact ⟨_, rfl, left⟩

def Adds (s : Scene) (sats : Int) (out : Except Failure Row × Scene) : Prop :=
  ∃ l row, s.database.table = some l ∧ row.sats = sats ∧ out.1 = .ok row ∧
    out.2.database = { s.database with table := some (l ++ [row]) }

theorem readable_of_insert (bound : Database.bind (.insert address source sats now) = .ok ()) :
    Database.bind (.byAddress address) = .ok () := by
  change (do Database.bindOptional address; Database.bindText source; Database.bindInteger sats) = _
    at bound
  change Database.bindOptional address = _
  cases handed : Database.bindOptional address with
  | error e =>
    rw [handed] at bound
    cases bound
  | ok _ => rfl

theorem insert_two (env : Nat → Reaction) (s : Scene)
    (bound : Database.bind (.insert address source sats now) = .ok ()) :
    (∃ fault, Fails s (.store fault)
        (((session (.insert address source sats now)).bind (inserted address)).play env s)) ∨
      Adds s sats
        (((session (.insert address source sats now)).bind (inserted address)).play env s) := by
  rcases play_session_or_fault env s (.insert address source sats now) rfl bound (inserted address)
    with failed | ⟨l, s', made, goes, left, -⟩
  · exact .inl failed.fails
  · have conflicts (conflict : Conflict)
        (refused : Database.insert l address source sats now = (.error conflict, l)) :
        ∃ fault, Fails s (.store fault) (((Job.ofExcept
          (Database.perform l (.insert address source sats now)).1).bind
            (inserted address)).play env s') := by
      change s'.database =
        { s.database with table := some (Database.insert l address source sats now).2 } at left
      rw [refused, ← made] at left
      change ∃ fault, Fails s (.store fault) ((inserted address
        (Database.insert l address source sats now).1).play env s')
      rw [refused]
      obtain ⟨fault, ended, kept⟩ :=
        conflict_fails env s' (readable_of_insert bound) conflict
      exact ⟨fault, ended, kept.trans left⟩
    rw [goes]
    cases address with
    | none => exact .inl (conflicts .addressMissing rfl)
    | some a =>
      by_cases taken : (l.byAddress? a).isSome
      · exact .inl (conflicts .addressTaken (if_pos taken))
      · have fresh : Database.insert l (some a) source sats now =
            (.ok (Ledger.newRow l.nextId a source sats now),
              l ++ [Ledger.newRow l.nextId a source sats now]) := if_neg taken
        refine .inr ⟨l, Ledger.newRow l.nextId a source sats now, made, rfl, ?_, ?_⟩
        · change ((inserted (some a) (Database.insert l (some a) source sats now).1).play env s').1 = _
          rw [fresh]
          rfl
        · change ((inserted (some a) (Database.insert l (some a) source sats now).1).play env
            s').2.database = _
          rw [fresh]
          change s'.database = _
          rw [left]
          change { s.database with
            table := some (Database.insert l (some a) source sats now).2 } = _
          rw [fresh]

theorem create_adds (env : Nat → Reaction) (s : Scene) (address : Option Text) (amount : Decimal)
    (source : Text) :
    (∃ e, Fails s e ((create address amount source).play env s)) ∨
      ∃ sats, price amount = .ok sats ∧ Adds s sats ((create address amount source).play env s) := by
  rcases create_three env s address amount source with fault | ⟨e, -, failed⟩ | goes
  · exact .inl ⟨_, fault.fails.choose_spec⟩
  · exact .inl ⟨e, failed⟩
  · obtain ⟨sats, now, s', priced, same, goes⟩ := goes
    rw [goes]
    have transfer {e : Failure} {out : Except Failure Row × Scene} (failed : Fails s' e out) :
        Fails s e out := ⟨failed.1, failed.2.trans same⟩
    cases bound : Database.bind (.insert address source sats now) with
    | error e =>
      rcases play_session_three env s' (.insert address source sats now) rfl (inserted address)
        with fault | ⟨e', -, failed⟩ | ⟨l, s₂, bound', -⟩
      · exact .inl ⟨_, transfer fault.fails.choose_spec⟩
      · exact .inl ⟨e', transfer failed⟩
      · cases bound.symm.trans bound'
    | ok _ =>
      refine (insert_two env s' bound).imp (fun ⟨fault, failed⟩ => ⟨_, transfer failed⟩) fun added => ?_
      unfold Adds at added ⊢
      rw [same] at added
      exact ⟨sats, priced, added⟩

theorem create_refuses (env : Nat → Reaction) (s : Scene) (address : Option Text) (source : Text)
    (number : amount.isFinite = true) (low : amount.toRat ≤ 0) :
    ∃ fault, Fails s (.store fault) ((create address amount source).play env s) := by
  have refused : price amount = .error (.store (.notPositive amount)) := by
    unfold price
    rw [Decimal.le_zero_eq ⟨number, rfl⟩, decide_eq_true low]
  rcases create_three env s address amount source
    with fault | ⟨e, priced, failed⟩ | ⟨sats, _, _, priced, -⟩
  · exact fault.fails
  · cases priced.symm.trans refused
    exact ⟨_, failed⟩
  · cases priced.symm.trans refused

end Store

def Query.Keeping : Query → Prop
  | .enter _ | .now | .log .. => True
  | .session (.stale _) | .session (.update ..) => True
  | _ => False

theorem Query.keeping_of_isSweep (q : Query) (h : q.isSweep) : q.Keeping := by
  cases q with
  | session s =>
    cases s with
    | stale | update => trivial
    | _ => cases h
  | enter | now | log => trivial
  | _ => cases h

theorem Reaction.answer_keeping (ρ : Reaction) (d : Database) {q : Query} (h : q.Keeping) :
    (ρ.answer d q).2.rows.map Row.sats = d.rows.map Row.sats := by
  cases q with
  | session s =>
    have settled (read : Database.tableless s = false)
        (kept : ∀ l, (Database.perform l s).2.map Row.sats = l.map Row.sats) :
        (ρ.answer d (.session s)).2.rows.map Row.sats = d.rows.map Row.sats := by
      rcases ρ.statement_cases d read with ⟨e, failed⟩ | ⟨l, made, done⟩
      · rw [failed]
      · rw [done]
        unfold Database.rows
        rw [made]
        exact kept l
    cases s with
    | stale cutoff => exact settled rfl fun _ => rfl
    | update c now => exact settled rfl fun l => Ledger.map_apply l c now Row.sats fun _ => rfl
    | _ => cases h
  | enter m =>
    unfold answer
    cases ρ.fault <;> rfl
  | now | log => rfl
  | _ => cases h

theorem Job.play_keeping {α : Type} {j : Job α} (asks : j.Asks Query.Keeping) (env : Nat → Reaction)
    (s : Scene) : (j.play env s).2.database.rows.map Row.sats = s.database.rows.map Row.sats := by
  obtain ⟨_, -, kept⟩ := play_keeps env
    (I := fun _ t => t.database.rows.map Row.sats = s.database.rows.map Row.sats)
    (fun _ t q _ kept keeping => (Reaction.answer_keeping _ _ keeping).trans kept) asks rfl
  exact kept

theorem Store.transition_keeping (c : Ledger.Change) : (transition c).Asks Query.Keeping := by
  refine Job.asks_bind (Job.asks_enter trivial) fun _ => ?_
  split
  · trivial
  · exact Job.asks_bind (Job.asks_now trivial) fun _ => Job.asks_session trivial

/-- A row that was handed out has the price that its amount was given. -/
def Served.Priced : Served → Prop
  | ⟨.create _ amount _, .ok row⟩ => Store.price amount = .ok row.sats
  | _ => True

namespace Scene

theorem play_priced (env : Nat → Reaction) (s : Scene) (c : StoreCall) :
    let served := Served.mk c (c.job.play env s).1
    served.Priced ∧ (c.job.play env s).2.database.rows.map Row.sats =
      s.database.rows.map Row.sats ++ served.row?.toList.map Row.sats := by
  cases c with
  | create address amount source =>
    change Served.Priced ⟨.create address amount source,
        ((Store.create address amount source).play env s).1⟩ ∧
      ((Store.create address amount source).play env s).2.database.rows.map Row.sats = _ ++
        (Served.row? ⟨.create address amount source,
          ((Store.create address amount source).play env s).1⟩).toList.map Row.sats
    rcases Store.create_adds env s address amount source with ⟨e, failed, same⟩ | ⟨sats, priced, added⟩
    · rw [failed, same]
      exact ⟨trivial, (List.append_nil _).symm⟩
    · obtain ⟨l, row, made, rfl, ended, left⟩ := added
      rw [ended, left]
      refine ⟨priced, ?_⟩
      unfold Database.rows
      rw [made]
      exact List.map_append
  | transition c =>
    exact ⟨trivial, (Job.play_keeping (Store.transition_keeping c) env s).trans
      (List.append_nil _).symm⟩
  | sweep olderThan now =>
    have asks := (Store.failStale_asks olderThan now).mono Query.keeping_of_isSweep
    exact ⟨trivial, (Job.play_keeping asks env s).trans (List.append_nil _).symm⟩

theorem serve_priced (env : Nat → Reaction) (calls : List StoreCall) (s : Scene) :
    (∀ served ∈ (s.serve env calls).1, served.Priced) ∧
      (s.serve env calls).2.database.rows.map Row.sats =
        s.database.rows.map Row.sats ++ ((s.serve env calls).1.filterMap Served.row?).map Row.sats := by
  induction calls generalizing s with
  | nil => exact ⟨fun _ here => (List.not_mem_nil here).elim, (List.append_nil _).symm⟩
  | cons c calls ih =>
    obtain ⟨priced, grown⟩ := play_priced env s c
    obtain ⟨priced', grown'⟩ := ih (c.job.play env s).2
    refine ⟨List.forall_mem_cons.mpr ⟨priced, priced'⟩, grown'.trans ?_⟩
    rw [grown, List.append_assoc]
    change _ = _ ++ (List.filterMap Served.row? (⟨c, (c.job.play env s).1⟩ :: _)).map Row.sats
    rw [List.filterMap_cons]
    cases (Served.mk c (c.job.play env s).1).row? with
    | none => rfl
    | some row => rfl

end Scene

/-- A payout was refused, or its amount is one of which rounding leaves something. -/
def Served.Substantial : Served → Prop
  | ⟨.create _ amount _, .ok _⟩ => 1 / 2 + 5 / 10 ^ 29 < amount.toRat * 10 ^ 8
  | _ => True

theorem Served.Priced.substantial_iff {served : Served} (h : served.Priced) :
    served.Substantial ↔ ∀ row, served.row? = some row → 1 ≤ row.sats := by
  match served with
  | ⟨.create _ _ _, .ok row⟩ =>
    refine (Store.price_pos_iff h).symm.trans ⟨?_, fun all => all row rfl⟩
    rintro pos _ ⟨⟩
    exact pos
  | ⟨.create _ _ _, .error _⟩ => exact iff_of_true trivial nofun
  | ⟨.transition _, _⟩ => exact iff_of_true trivial nofun
  | ⟨.sweep .., _⟩ => exact iff_of_true trivial nofun

/-- Whatever is asked of a store that begins empty, no row is worth nothing if and only if no payout
was accepted of an amount that rounding takes away: more than nothing, but not more than half a satoshi
and half of the 28th digit of that. Amounts that are not positive are all refused. -/
theorem sats_pos_iff (lasting : Bool) (env : Nat → Reaction) (calls : List StoreCall) :
    let out := ({ database := { lasting, table := some [] } } : Scene).serve env calls
    ((∀ r ∈ out.2.database.rows, 1 ≤ r.sats) ↔ ∀ served ∈ out.1, served.Substantial) ∧
      ∀ (address : Option Text) (amount : Decimal) (source : Text) (env : Nat → Reaction) (s : Scene),
        amount.isFinite = true → amount.toRat ≤ 0 → ∃ fault,
          ((Store.create address amount source).play env s).1 = .error (.store fault) := by
  intro out
  refine ⟨?_, fun address amount source env s number low => ?_⟩
  · obtain ⟨priced, grown⟩ := Scene.serve_priced env calls { database := { lasting, table := some [] } }
    have rows : ∀ n, n ∈ out.2.database.rows.map Row.sats ↔
        n ∈ (out.1.filterMap Served.row?).map Row.sats := fun n => by
      rw [grown]
      exact Iff.rfl
    constructor
    · intro all served here
      refine (priced served here).substantial_iff.mpr fun row handed => ?_
      have listed : row.sats ∈ (out.1.filterMap Served.row?).map Row.sats :=
        List.mem_map_of_mem (List.mem_filterMap.mpr ⟨served, here, handed⟩)
      obtain ⟨r, here, same⟩ := List.mem_map.mp ((rows _).mpr listed)
      exact same ▸ all r here
    · intro all r here
      obtain ⟨row, listed, same⟩ := List.mem_map.mp ((rows _).mp (List.mem_map_of_mem here))
      obtain ⟨served, asked, handed⟩ := List.mem_filterMap.mp listed
      exact same ▸ (priced served asked).substantial_iff.mp (all served asked) row handed
  · obtain ⟨fault, refused, -⟩ := Store.create_refuses env s address source number low
    exact ⟨fault, refused⟩

theorem tenth_stored_as_nothing :
    (Decimal.finite false 1 (-9)).le .zero = .ok false ∧
      ∃ row, (({ database := { table := some [] } } : Scene).serve ticking
        [.create (some "tb1qdestination") (.finite false 1 (-9)) []]).2.database.rows = [row] ∧
          row.sats = 0 :=
  ⟨rfl, _, rfl, rfl⟩

end Faucet
