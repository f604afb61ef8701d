import Faucet.Proofs.Creation

/-!
The failures of calls of the store. A caller that is ready for the store to fail is ready for all of
them as long as the database can hold what it is handed: numbers of 64 bits, texts that have a UTF-8
form, and amounts of which the satoshis are such a number. Anything else ends in a defect.
-/

set_option autoImplicit false

namespace Faucet

inductive Operation where
  | create (address : Option Text) (amount : Decimal) (source : Text)
  | get (id : Int)
  | getByAddress (address : Option Text)
  | countFrom (source : Option Text) (since : Moment)
  | transition (change : Ledger.Change)

def Encodes (t : Option Text) : Prop := ∀ text, t = some text → text.isEncodable = true

namespace Operation

abbrev Result : Operation → Type
  | .create .. => Row
  | .get _ | .getByAddress _ => Option Row
  | .countFrom .. => Nat
  | .transition _ => Bool

def job : (o : Operation) → Job o.Result
  | .create address amount source => Store.create address amount source
  | .get id => Store.get id
  | .getByAddress address => Store.getByAddress address
  | .countFrom source since => Store.countFrom source since
  | .transition change => Store.transition change

def Finite : Operation → Prop
  | .create _ amount _ => amount.isFinite = true
  | _ => True

/-- The call never comes to the database with something that it cannot hold. A payout that is refused
and a change that is not allowed do not come to it at all. -/
def Storable : Operation → Prop
  | .create address amount source => amount.toRat ≤ 0 ∨ Encodes address ∧ source.isEncodable = true ∧
      amount.toRat * 10 ^ 8 < 2 ^ 63 - 1 / 2 - 5 / 10 ^ 10
  | .get id => Database.holdsInteger id = true
  | .getByAddress address => Encodes address
  | .countFrom source _ => Encodes source
  | .transition c => Store.permit c ≠ .ok () ∨
      Encodes c.txid ∧ Encodes c.error ∧ Database.holdsInteger c.id = true

end Operation

namespace Database

/-- Handing something over succeeds under a condition, and without it is a defect. -/
def Binds (handed : Except Failure Unit) (P : Prop) : Prop :=
  handed = .ok () ∧ P ∨ (∃ e, handed = .error e ∧ e.isStore = false) ∧ ¬P

theorem binds_integer (n : Int) : Binds (bindInteger n) (holdsInteger n = true) := by
  unfold Binds bindInteger
  split
  · rename_i held
    exact .inl ⟨rfl, held⟩
  · rename_i unheld
    exact .inr ⟨⟨_, rfl, rfl⟩, unheld⟩

theorem binds_text (t : Text) : Binds (bindText t) (t.isEncodable = true) := by
  unfold Binds bindText
  split
  · rename_i written
    exact .inl ⟨rfl, written⟩
  · rename_i unwritten
    exact .inr ⟨⟨_, rfl, rfl⟩, unwritten⟩

theorem binds_optional (t : Option Text) : Binds (bindOptional t) (Encodes t) := by
  cases t with
  | none => exact .inl ⟨rfl, nofun⟩
  | some text =>
    refine (binds_text text).imp (fun ⟨bound, written⟩ => ⟨bound, ?_⟩) fun ⟨failed, unwritten⟩ => ?_
    · rintro _ ⟨⟩
      exact written
    · exact ⟨failed, fun all => unwritten (all text rfl)⟩

theorem Binds.and {x y : Except Failure Unit} {P Q : Prop} (first : Binds x P) (second : Binds y Q) :
    Binds (do x; y) (P ∧ Q) := by
  rcases first with ⟨rfl, holds⟩ | ⟨⟨e, rfl, defect⟩, fails⟩
  · rcases second with ⟨rfl, also⟩ | ⟨⟨e, rfl, defect⟩, fails⟩
    · exact .inl ⟨rfl, holds, also⟩
    · exact .inr ⟨⟨e, rfl, defect⟩, fun both => fails both.2⟩
  · exact .inr ⟨⟨e, rfl, defect⟩, fun both => fails both.1⟩

theorem binds_insert (address : Option Text) (source : Text) (sats : Int) (now : Moment) :
    Binds (bind (.insert address source sats now))
      (Encodes address ∧ source.isEncodable = true ∧ holdsInteger sats = true) :=
  (binds_optional address).and ((binds_text source).and (binds_integer sats))

theorem binds_update (c : Ledger.Change) (now : Moment) : Binds (bind (.update c now))
    (Encodes c.txid ∧ Encodes c.error ∧ holdsInteger c.id = true) :=
  (binds_optional c.txid).and ((binds_optional c.error).and (binds_integer c.id))

end Database

namespace Job

variable {β : Type} {P Q : Prop} {j : Job β}

/-- All failures are ones of the store. -/
def Foreseen (env : Nat → Reaction) (s : Scene) (j : Job β) : Prop :=
  ∀ e, (j.play env s).1 = .error e → e.isStore = true

/-- Under a condition a job is foreseen whatever happens, and without it not even a store that never
fails makes it so. -/
structure ForeseenIff (j : Job β) (P : Prop) : Prop where
  foreseen : P → ∀ env s, Foreseen env s j
  needed : ∀ env s, Healthy env s.database → Foreseen env s j → P

theorem Faults.foreseen {env : Nat → Reaction} {s : Scene} (h : Faults env s (j.play env s)) :
    Foreseen env s j := by
  obtain ⟨fault, failed, -⟩ := h.fails
  intro e ended
  cases failed.symm.trans ended
  rfl

theorem foreseenIff_enter (m : StoreMethod) (h : j.ForeseenIff P) :
    ((enter m).bind fun _ => j).ForeseenIff P where
  foreseen holds env s := by
    rcases play_enter_or_fault env s m (fun _ => j) with failed | ⟨s', goes, -⟩
    · exact failed.foreseen
    · unfold Foreseen
      rw [goes]
      exact h.foreseen holds env s'
  needed env s healthy foreseen := by
    rcases play_enter_or_fault env s m (fun _ => j) with failed | ⟨s', goes, same, -⟩
    · exact absurd healthy failed.unsound
    · unfold Foreseen at foreseen
      rw [goes] at foreseen
      exact h.needed env s' (same ▸ healthy) foreseen

theorem foreseenIff_now {f : Moment → Job β} (h : ∀ now, (f now).ForeseenIff P) :
    (now.bind f).ForeseenIff P where
  foreseen holds env s := (h _).foreseen holds env (s.asked (env s.log.length) .now)
  needed env s healthy foreseen := (h _).needed env (s.asked (env s.log.length) .now) healthy foreseen

theorem held_of_foreseen {st : Statement} (read : Database.tableless st = false)
    (bound : Database.Binds (Database.bind st) P) {f : st.Answer → Job β} {env : Nat → Reaction}
    {s : Scene} (healthy : Healthy env s.database)
    (foreseen : Foreseen env s ((session st).bind f)) : P := by
  refine (bound.resolve_right ?_).2
  rintro ⟨⟨e, unbound, defect⟩, -⟩
  rcases play_session_three env s st read f
    with failed | ⟨e', unbound', failed, -⟩ | ⟨l, s', ok, -⟩
  · exact failed.unsound healthy
  · cases unbound.symm.trans unbound'
    cases defect.symm.trans (foreseen e failed)
  · cases unbound.symm.trans ok

theorem foreseenIff_session {st : Statement} (read : Database.tableless st = false)
    (answers : ∀ l, ∃ a, (Database.perform l st).1 = .ok a)
    (bound : Database.Binds (Database.bind st) P) : (session st).ForeseenIff P where
  foreseen holds env s := by
    rw [← bind_done (session st)]
    rcases play_session_or_fault env s st read (bound.resolve_right fun h => h.2 holds).1 .done
      with failed | ⟨l, s', -, goes, -⟩
    · exact failed.foreseen
    · obtain ⟨a, answered⟩ := answers l
      unfold Foreseen
      rw [goes, answered]
      exact nofun
  needed env s healthy foreseen := by
    rw [← bind_done (session st)] at foreseen
    exact held_of_foreseen read bound healthy foreseen

theorem foreseenIff_fail {fault : StoreFault} (holds : P) :
    (fail (.store fault) : Job β).ForeseenIff P where
  foreseen _ env s := by
    rintro _ ⟨⟩
    rfl
  needed _ _ _ _ := holds

theorem ForeseenIff.congr (h : j.ForeseenIff P) (same : P ↔ Q) : j.ForeseenIff Q where
  foreseen holds := h.foreseen (same.mpr holds)
  needed env s healthy foreseen := same.mp (h.needed env s healthy foreseen)

end Job

namespace Money

variable {amount : Decimal}

/-- The satoshis of a positive amount are held by an integer of the database if they are less than
2⁶³ once they are rounded; otherwise they are not, or there are none. -/
theorem toSats_two (finite : amount.isFinite = true) (above : 0 < amount.toRat) :
    amount.toRat * 10 ^ 8 < 2 ^ 63 - 1 / 2 - 5 / 10 ^ 10 ∧
        (∃ sats, toSats amount = .ok sats ∧ Database.holdsInteger sats = true) ∨
      2 ^ 63 - 1 / 2 - 5 / 10 ^ 10 ≤ amount.toRat * 10 ^ 8 ∧
        (toSats amount = .error (.defect (.arithmetic .overflow)) ∨
          ∃ sats, toSats amount = .ok sats ∧ ¬Database.holdsInteger sats = true) := by
  have positive : 0 ≤ amount.toRat * 10 ^ 8 := by positivity
  have least := Decimal.rounded_nonneg positive
  rw [toSats_eq ⟨finite, rfl⟩]
  generalize amount.toRat * 10 ^ 8 = p at positive least ⊢
  have size : |Decimal.rounded p| = Decimal.rounded p := abs_of_nonneg least
  have whole : 0 ≤ Decimal.roundEven (Decimal.rounded p) :=
    Decimal.le_roundEven (n := 0) (by exact_mod_cast least)
  have held := le_sats_iff (p := p)
  rcases lt_or_ge p (2 ^ 63 - 1 / 2 - 5 / 10 ^ 10) with below | beyond
  · have few : p ≤ 10 ^ (19 : ℤ) := by linarith
    have short := Decimal.rounded_le_power (by decide) few
    have room : |Decimal.rounded p| < 10 ^ (Decimal.maxExponent + 1) :=
      (size.trans_le short).trans_lt (Decimal.ten_zpow_lt.mpr (by decide))
    rw [if_pos room]
    refine .inl ⟨below, _, rfl, (Database.holdsInteger_iff _).mpr ⟨by omega, ?_⟩⟩
    have less := mt held.mp (not_le.mpr below)
    omega
  · refine .inr ⟨beyond, ?_⟩
    split
    · refine .inr ⟨_, rfl, fun inside => ?_⟩
      have most := ((Database.holdsInteger_iff _).mp inside).2
      have large := held.mpr beyond
      omega
    · exact .inl rfl

end Money

namespace Store

open Job

variable {address : Option Text} {amount : Decimal} {source : Text}

/-- A positive amount is priced within the bounds of the database, or beyond them, or its satoshis are
out of the range of all decimals. -/
theorem price_two (finite : amount.isFinite = true) (above : 0 < amount.toRat) :
    amount.toRat * 10 ^ 8 < 2 ^ 63 - 1 / 2 - 5 / 10 ^ 10 ∧
        (∃ sats, price amount = .ok sats ∧ Database.holdsInteger sats = true) ∨
      2 ^ 63 - 1 / 2 - 5 / 10 ^ 10 ≤ amount.toRat * 10 ^ 8 ∧
        (price amount = .error (.defect (.arithmetic .overflow)) ∨
          ∃ sats, price amount = .ok sats ∧ ¬Database.holdsInteger sats = true) := by
  have priced : price amount = Money.toSats amount := by
    unfold price
    rw [Decimal.le_zero_eq ⟨finite, rfl⟩, decide_eq_false (not_le.mpr above)]
  rw [priced]
  exact Money.toSats_two finite above

theorem foreseenIff_insert (address : Option Text) (source : Text) (sats : Int) (now : Moment) :
    ((session (.insert address source sats now)).bind (inserted address)).ForeseenIff
      (Encodes address ∧ source.isEncodable = true ∧ Database.holdsInteger sats = true) where
  foreseen storable env s e ended := by
    have bound := ((Database.binds_insert address source sats now).resolve_right
      fun failed => failed.2 storable).1
    rcases insert_two env s bound with ⟨fault, failed, -⟩ | ⟨l, row, -, -, added, -⟩
    · cases failed.symm.trans ended
      rfl
    · cases added.symm.trans ended
  needed env s healthy foreseen :=
    held_of_foreseen rfl (Database.binds_insert address source sats now) healthy foreseen

theorem foreseenIff_create (finite : amount.isFinite = true) :
    (create address amount source).ForeseenIff (amount.toRat ≤ 0 ∨ Encodes address ∧
      source.isEncodable = true ∧ amount.toRat * 10 ^ 8 < 2 ^ 63 - 1 / 2 - 5 / 10 ^ 10) := by
  rcases le_or_gt amount.toRat 0 with low | above
  · refine ⟨fun _ env s e failed => ?_, fun _ _ _ _ => .inl low⟩
    obtain ⟨fault, refused, -⟩ := create_refuses env s address source finite low
    cases failed.symm.trans refused
    rfl
  · constructor
    · intro storable env s e ended
      obtain ⟨addressed, named, below⟩ := storable.resolve_left (not_le.mpr above)
      obtain ⟨sats, priced, held⟩ := ((price_two finite above).resolve_right
        fun beyond => absurd below (not_lt.mpr beyond.1)).2
      rcases create_three env s address amount source
        with fault | ⟨e', unpriced, -⟩ | ⟨sats', now, s', priced', -, goes⟩
      · exact fault.foreseen e ended
      · cases priced.symm.trans unpriced
      · cases priced.symm.trans priced'
        rw [goes] at ended
        exact (foreseenIff_insert address source sats now).foreseen ⟨addressed, named, held⟩ env s' e
          ended
    · intro env s healthy foreseen
      rcases create_three env s address amount source
        with fault | ⟨e, unpriced, failed, -⟩ | ⟨sats, now, s', priced, same, goes⟩
      · exact absurd healthy fault.2
      · -- What has no price is out of the range of all decimals, which is a defect.
        have defect : e.isStore = false := by
          rcases price_two finite above with ⟨-, sats, priced, -⟩ | ⟨-, overflows | ⟨sats, priced, -⟩⟩
          · cases priced.symm.trans unpriced
          · cases overflows.symm.trans unpriced
            rfl
          · cases priced.symm.trans unpriced
        cases defect.symm.trans (foreseen e failed)
      · unfold Foreseen at foreseen
        rw [goes] at foreseen
        obtain ⟨addressed, named, held⟩ :=
          (foreseenIff_insert address source sats now).needed env s' (same ▸ healthy) foreseen
        refine .inr ⟨addressed, named, ?_⟩
        rcases price_two finite above with ⟨below, -⟩ | ⟨-, overflows | ⟨sats', priced', unheld⟩⟩
        · exact below
        · cases overflows.symm.trans priced
        · cases priced'.symm.trans priced
          exact absurd held unheld

theorem foreseenIff_transition (c : Ledger.Change) : (transition c).ForeseenIff
    (permit c ≠ .ok () ∨ Encodes c.txid ∧ Encodes c.error ∧ Database.holdsInteger c.id = true) := by
  cases allowed : permit c with
  | error fault =>
    have barred : (Except.error fault : Except TransitionFault Unit) ≠ .ok () := nofun
    rw [Batch.transition_barred allowed]
    exact foreseenIff_enter _ (foreseenIff_fail (.inl barred))
  | ok _ =>
    rw [Batch.transition_allowed allowed]
    refine ForeseenIff.congr (foreseenIff_enter _ (foreseenIff_now fun now => foreseenIff_session rfl
      (fun l => ⟨_, rfl⟩) (Database.binds_update c now))) ?_
    exact (or_iff_right (not_not.mpr rfl)).symm

end Store

/-- Every call about a payout fails with errors of the store only, whatever the store does, if the
database can hold what it is handed; and if it cannot, then even a store that never fails ends the
call in a defect. -/
theorem Operation.fails_foreseen_iff (o : Operation) (finite : o.Finite) :
    o.job.ForeseenIff o.Storable := by
  cases o with
  | create address amount source => exact Store.foreseenIff_create finite
  | get id => exact Job.foreseenIff_session rfl (fun l => ⟨_, rfl⟩) (Database.binds_integer id)
  | getByAddress address =>
    refine Job.foreseenIff_session rfl (fun l => ?_) (Database.binds_optional address)
    cases address <;> exact ⟨_, rfl⟩
  | countFrom source since =>
    refine Job.foreseenIff_enter _ (Job.foreseenIff_session rfl (fun l => ?_)
      (Database.binds_optional source))
    cases source <;> exact ⟨_, rfl⟩
  | transition c => exact Store.foreseenIff_transition c

theorem Operation.fails_foreseen_iff_create :
    (Operation.create (some "tb1qdestination") (.finite false 2 (-3)) "web").Finite ∧
      ∀ env s, Job.Foreseen env s
        (Operation.create (some "tb1qdestination") (.finite false 2 (-3)) "web").job := by
  refine ⟨rfl, (Operation.fails_foreseen_iff
    (.create (some "tb1qdestination") (.finite false 2 (-3)) "web")
    (show Operation.Finite _ from rfl)).foreseen (.inr ⟨?_, by decide, ?_⟩)⟩
  · rintro _ ⟨⟩
    decide
  · norm_num [Decimal.toRat, Decimal.scaled]

/-- There is no row with the number 2⁶³, but to look for it is a defect. -/
theorem Operation.large_id_escapes :
    ((Operation.get 9223372036854775808).job.play ticking { database := { table := some [] } }).1 =
        .error (.defect (.overflow "Python int too large to convert to SQLite INTEGER")) ∧
      ¬Job.Foreseen ticking { database := { table := some [] } }
        (Operation.get 9223372036854775808).job := by
  have escaped : ((Operation.get 9223372036854775808).job.play ticking
      { database := { table := some [] } }).1 =
        .error (.defect (.overflow "Python int too large to convert to SQLite INTEGER")) := rfl
  refine ⟨escaped, fun foreseen => ?_⟩
  cases foreseen _ escaped

end Faucet
