import Faucet.Proofs.Decision
import Faucet.Proofs.Foreseen
import Faucet.Proofs.Rounding
import Faucet.Proofs.Sweep

/-!
The grace of a sweep. A number of seconds becomes microseconds to within one of them, and a sweep
with it looks for rows that were claimed before a moment so far back. There has to be such a moment:
settings take any number that is not below zero, and with one that goes back beyond the year 1 there
is no sweep.
-/

set_option autoImplicit false

namespace Faucet

namespace Binary64

def value (m : Nat) (e : Int) : ℚ := m * 2 ^ e

theorem cast_twoTo (n : Nat) : ((twoTo n : Nat) : ℚ) = 2 ^ n := by
  unfold twoTo
  exact_mod_cast rfl

theorem twoTo_pos (n : Nat) : 0 < twoTo n := Nat.pow_pos (by decide)

theorem value_split (m : Nat) (e : Int) : value m e =
    floorMagnitude m e + ((m % twoTo (-e).toNat : Nat) : ℚ) / twoTo (-e).toNat := by
  unfold value floorMagnitude
  obtain ⟨k, rfl | rfl⟩ := e.eq_nat_or_neg
  · have none : (-(k : Int)).toNat = 0 := by omega
    rw [if_pos (by omega), none, Nat.cast_mul, cast_twoTo, Int.toNat_natCast, zpow_natCast,
      show twoTo 0 = 1 from rfl, Nat.mod_one, Nat.cast_zero, zero_div, add_zero]
  · rcases Nat.eq_zero_or_pos k with rfl | some
    · simp [twoTo, Nat.mod_one]
    · have unit : (0 : ℚ) < (twoTo k : Nat) := Nat.cast_pos.mpr (twoTo_pos k)
      have parts : (twoTo k : ℚ) * (m / twoTo k : Nat) + (m % twoTo k : Nat) = m := by
        exact_mod_cast Nat.div_add_mod m (twoTo k)
      rw [if_neg (by omega), neg_neg, Int.toNat_natCast, zpow_neg, zpow_natCast, ← cast_twoTo]
      field_simp
      linarith

theorem exponentFor_le {n d : Nat} (some : n ≠ 0) (below : n < 2 ^ 20 * d) :
    exponentFor n d ≤ -32 := by
  have few : n.log2 < d.log2 + 21 := by
    refine (Nat.log2_lt some).mpr (below.trans ?_)
    rw [show d.log2 + 21 = 20 + (d.log2 + 1) by omega, Nat.pow_add]
    exact (Nat.mul_lt_mul_left (by decide)).mpr Nat.lt_log2_self
  have least : leastExponent = -1074 := rfl
  unfold exponentFor
  dsimp only
  split <;> omega

theorem value_carry (e : Int) : value (twoTo 52) (e + 1) = value (twoTo 53) e := by
  unfold value
  rw [cast_twoTo, cast_twoTo, zpow_add₀ (by norm_num)]
  ring

theorem value_near_of_quotient {n d q k : Nat} (place : 32 ≤ k)
    (near : |2 * (((n * twoTo k : Nat) : ℚ) / d - (q : Int))| ≤ 1) :
    |value q (-k) - n / d| ≤ 1 / 2 ^ 33 := by
  have unit : (0 : ℚ) < 2 ^ k := by positivity
  have fine : (2 : ℚ) ^ 32 ≤ 2 ^ k := pow_le_pow_right₀ (by norm_num) place
  have scale : value q (-k) - n / d =
      -(2 * (((n * twoTo k : Nat) : ℚ) / d - (q : Int))) / (2 * 2 ^ k) := by
    unfold value
    rw [zpow_neg, zpow_natCast, Nat.cast_mul, cast_twoTo, Int.cast_natCast]
    field_simp
    ring
  rw [scale, abs_div, abs_neg, abs_of_pos (show (0 : ℚ) < 2 * 2 ^ k by positivity)]
  refine div_le_div₀ (by norm_num) near (by positivity) ?_
  linarith

theorem ofRatio_near {n d : Nat} (some : 0 < d) (below : n < 2 ^ 20 * d) :
    ∃ m e, ofRatio false n d = .finite false m e ∧ |value m e - n / d| ≤ 1 / 2 ^ 33 := by
  unfold ofRatio
  by_cases none : n = 0
  · subst none
    exact ⟨0, leastExponent, rfl, by norm_num [value]⟩
  have place := exponentFor_le none below
  rw [if_neg none]
  dsimp only
  obtain ⟨k, far⟩ : ∃ k : Nat, exponentFor n d = -k := ⟨(-exponentFor n d).toNat, by omega⟩
  rw [far] at place ⊢
  have scale : scaled n d (-k) = (n * twoTo k, d) := by
    unfold scaled
    rw [neg_neg, Int.toNat_natCast, Int.toNat_of_nonpos (by omega), show twoTo 0 = 1 from rfl,
      Nat.mul_one]
  rw [scale]
  dsimp only
  have near := (Decimal.nearest_roundEven ((n * twoTo k : Nat) / d)).le
  rw [Decimal.roundEven_div _ some] at near
  generalize Rounding.halfEven.quotient (n * twoTo k) d = q at near ⊢
  have close := value_near_of_quotient (by omega) near
  split
  · rename_i carried
    rw [if_neg (by unfold greatestExponent; omega)]
    refine ⟨_, _, rfl, ?_⟩
    rw [value_carry, ← carried]
    exact close
  · rw [if_neg (by unfold greatestExponent; omega)]
    exact ⟨_, _, rfl, close⟩

end Binary64

namespace Span

open Binary64

theorem roundTogether_near (whole m : Nat) (e : Int) :
    |(roundTogether whole (.finite false m e) : ℚ) - (whole + value m e)| ≤ 1 / 2 := by
  have unit : (0 : ℚ) < (twoTo (-e).toNat : Nat) := Nat.cast_pos.mpr (twoTo_pos _)
  have part := Nat.mod_lt m (twoTo_pos (-e).toNat)
  let count : Nat := whole + floorMagnitude m e
  have apart : (whole + value m e : ℚ) =
      count + (m % twoTo (-e).toNat : Nat) / (twoTo (-e).toNat : Nat) := by
    rw [value_split m e, Nat.cast_add, add_assoc]
  rw [apart]
  change |((if 2 * (m % twoTo (-e).toNat) < twoTo (-e).toNat then count
    else if twoTo (-e).toNat < 2 * (m % twoTo (-e).toNat) then count + 1
    else if count % 2 = 0 then count else count + 1 : Nat) : ℚ) - _| ≤ _
  generalize twoTo (-e).toNat = d at unit part ⊢
  generalize m % d = r at part ⊢
  have positive : (0 : ℚ) ≤ r / d := by positivity
  have proper : (r : ℚ) / d ≤ 1 := (div_le_one unit).mpr (Nat.cast_le.mpr part.le)
  have down (low : 2 * r ≤ d) : |((count : Nat) : ℚ) - (count + r / d)| ≤ 1 / 2 := by
    have half : (r : ℚ) / d ≤ 1 / 2 := by
      rw [div_le_div_iff₀ unit (by norm_num)]
      exact_mod_cast (by omega : r * 2 ≤ 1 * d)
    rw [abs_le]
    constructor <;> linarith
  have up (high : d ≤ 2 * r) : |((count + 1 : Nat) : ℚ) - (count + r / d)| ≤ 1 / 2 := by
    have half : 1 / 2 ≤ (r : ℚ) / d := by
      rw [div_le_div_iff₀ (by norm_num) unit]
      exact_mod_cast (by omega : 1 * d ≤ r * 2)
    rw [Nat.cast_add, Nat.cast_one, abs_le]
    constructor <;> linarith
  split_ifs with below above even
  · exact down below.le
  · exact up above.le
  · exact down (Nat.le_of_not_lt above)
  · exact up (Nat.le_of_not_lt below)

theorem microseconds_near (m : Nat) (e : Int) :
    |(microseconds m e : ℚ) - value m e * 10 ^ 6| < 1 := by
  have unit := twoTo_pos (-e).toNat
  have part := Nat.mod_lt m unit
  obtain ⟨m', e', ratio, near⟩ := ofRatio_near (n := m % twoTo (-e).toNat * 1000000) unit (by omega)
  have rounded := roundTogether_near (floorMagnitude m e * 1000000) m' e'
  have whole : microseconds m e =
      roundTogether (floorMagnitude m e * 1000000) (.finite false m' e') :=
    congrArg (roundTogether _) ratio
  have parts : value m e * 10 ^ 6 = (floorMagnitude m e * 1000000 : Nat) +
      (m % twoTo (-e).toNat * 1000000 : Nat) / (twoTo (-e).toNat : Nat) := by
    rw [value_split m e]
    push_cast
    ring
  rw [whole, parts]
  rw [abs_le] at near rounded
  rw [abs_lt]
  constructor <;> linarith

theorem ofMicroseconds_two (n : Int) : ofMicroseconds n = .ok n ∨
    ∃ message, ofMicroseconds n = .error (.defect (.overflow message)) := by
  unfold ofMicroseconds
  dsimp only
  split
  · exact .inr ⟨_, rfl⟩
  · split
    · exact .inr ⟨_, rfl⟩
    · exact .inl rfl

/-- No two moments are farther apart than spans reach. -/
theorem ofMicroseconds_of_le {n : Int} (least : 0 ≤ n) (most : n ≤ Moment.last - Moment.first) :
    ofMicroseconds n = .ok n := by
  have wide : n / day ≤ 3652058 := Int.le_of_lt_add_one
    (Int.ediv_lt_of_lt_mul (by decide) (lt_of_le_of_lt most (by decide)))
  have positive : 0 ≤ n / day := Int.ediv_nonneg least (by decide)
  unfold ofMicroseconds
  rw [Int.fdiv_eq_ediv_of_nonneg n (show 0 ≤ day by decide)]
  dsimp only
  rw [if_neg (by omega), if_neg (by omega)]

theorem ofSeconds_finite (n : Bool) (m : Nat) (e : Int) : ofSeconds (.finite n m e) =
    ofMicroseconds (if n then -(microseconds m e : Int) else microseconds m e) := rfl

theorem microseconds_zero (e : Int) : microseconds 0 e = 0 := by
  have near := microseconds_near 0 e
  unfold value at near
  rw [Nat.cast_zero, zero_mul, zero_mul, sub_zero, abs_lt] at near
  exact Nat.lt_one_iff.mp (by exact_mod_cast near.2)

theorem ofSeconds_of_nonnegative {n : Bool} {m : Nat} {e : Int}
    (positive : (Binary64.finite n m e).isNonnegative = true) :
    ofSeconds (.finite n m e) = ofMicroseconds (microseconds m e) := by
  rw [ofSeconds_finite]
  cases n with
  | false => rw [if_neg Bool.false_ne_true]
  | true =>
    obtain rfl : m = 0 := of_decide_eq_true positive
    rw [if_pos rfl, microseconds_zero]
    rfl

end Span

theorem FormRead.finish_ok {α : Type} {record : Text} {r : FormRead α} {a : α}
    (h : FormRead.finish record r = .ok a) : (r.run []).1 = a := by
  change (if (r.run []).2.isEmpty then Except.ok (r.run []).1 else _) = _ at h
  split at h
  · cases h
    rfl
  · cases h

theorem FormRead.field_ensured {α : Type} {holds : α → Bool} {rule : Text}
    {read : Json → FieldRead α} {default : α} (given : List (Text × Json)) (name : Text)
    (own : holds default = true) (faults : List FieldFault) :
    holds ((field given name (Field.ensure rule holds read) default).run faults).1 = true := by
  unfold FormRead.field
  cases Json.lookup name given with
  | none => exact own
  | some v =>
    dsimp only
    cases got : Field.ensure rule holds read v with
    | error broken => exact own
    | ok a =>
      obtain ⟨b, -, kept⟩ := bind_eq_ok.mp got
      split at kept
      · rename_i keeps
        cases kept
        exact keeps
      · cases kept

theorem Settings.staleGrace_nonnegative {given : List (Text × Json)} {s : Settings}
    (accepted : Settings.ofFields given = .ok s) : s.staleGrace.isNonnegative = true := by
  obtain ⟨read, done, fits⟩ := bind_eq_ok.mp accepted
  have kept := FormRead.finish_ok done
  change ((Settings.fields given).run []).1 = read at kept
  have same : s = read := by
    split at fits
    · cases fits
      rfl
    · split at fits <;> cases fits
  rw [same, ← kept]
  exact FormRead.field_ensured given "stale_processing_grace" (by decide) _

namespace Upkeep

open Job
open Intake (quietAt)

/-- A moment that is a number of seconds before another one. There is none if the number is not
finite or goes back beyond the first moment there is. Its sign counts for nothing, as the only one
below zero that settings allow is that of zero itself. -/
def Cutoff (grace : Binary64) (clock cutoff : Moment) : Prop :=
  ∃ n m e, grace = .finite n m e ∧ cutoff = clock - Span.microseconds m e ∧ Moment.first ≤ cutoff

theorem Cutoff.unique {grace : Binary64} {clock cutoff cutoff' : Moment}
    (h : Cutoff grace clock cutoff) (h' : Cutoff grace clock cutoff') : cutoff = cutoff' := by
  obtain ⟨n, m, e, rfl, rfl, -⟩ := h
  obtain ⟨_, _, _, ⟨⟩, rfl, -⟩ := h'
  rfl

theorem Cutoff.near {n : Bool} {m : Nat} {e : Int} {clock cutoff : Moment}
    (h : Cutoff (.finite n m e) clock cutoff) :
    |((clock - cutoff : Int) : ℚ) - Binary64.value m e * 10 ^ 6| < 1 := by
  obtain ⟨_, _, _, ⟨⟩, rfl, -⟩ := h
  have back : (clock - (clock - Span.microseconds m e) : Int) = Span.microseconds m e :=
    sub_sub_cancel clock _
  rw [back, Int.cast_natCast]
  exact Span.microseconds_near m e

theorem cutoff_of_clear (n : Bool) {m : Nat} {e : Int} {clock : Moment}
    (clear : Binary64.value m e * 10 ^ 6 + 1 ≤ ((clock - Moment.first : Int) : ℚ)) :
    ∃ cutoff, Cutoff (.finite n m e) clock cutoff := by
  have near := (abs_lt.mp (Span.microseconds_near m e)).2
  have short : ((Span.microseconds m e : Int) : ℚ) ≤ ((clock - Moment.first : Int) : ℚ) := by
    rw [Int.cast_natCast]
    linarith
  have short := Int.cast_le.mp short
  exact ⟨_, n, m, e, rfl, rfl, by linarith⟩

def lookBack (grace : Binary64) (clock : Moment) : Except Failure Moment := do
  let span ← Span.ofSeconds grace
  Moment.before clock span

variable {grace : Binary64} {clock cutoff : Moment} {env : Nat → Reaction} {c : Scene}

theorem lookBack_two (positive : grace.isNonnegative = true)
    (shown : Moment.first ≤ clock ∧ clock ≤ Moment.last) :
    (∃ cutoff, lookBack grace clock = .ok cutoff ∧ Cutoff grace clock cutoff) ∨
      (∃ message, lookBack grace clock = .error (.defect (.overflow message))) ∧
        ∀ cutoff, ¬Cutoff grace clock cutoff := by
  cases grace with
  | nan => cases positive
  | infinite negative =>
    cases negative with
    | true => cases positive
    | false => exact .inr ⟨⟨_, rfl⟩, fun cutoff ⟨n, m, e, eq, _⟩ => nomatch eq⟩
  | finite n m e =>
    have least : (0 : Int) ≤ Span.microseconds m e := Int.natCast_nonneg _
    unfold lookBack
    rw [Span.ofSeconds_of_nonnegative positive]
    by_cases near : Moment.first ≤ clock - Span.microseconds m e
    · have early : clock - Span.microseconds m e ≤ Moment.last :=
        (Int.sub_le_self _ least).trans shown.2
      have short : (Span.microseconds m e : Int) ≤ Moment.last - Moment.first := by
        have dated := shown.2
        linarith
      rw [Span.ofMicroseconds_of_le least short]
      exact .inl ⟨_, if_pos ⟨near, early⟩, n, m, e, rfl, rfl, near⟩
    · refine .inr ⟨?_, ?_⟩
      · rcases Span.ofMicroseconds_two (Span.microseconds m e) with made | ⟨message, failed⟩
        · rw [made]
          exact ⟨_, if_neg fun within => near within.1⟩
        · rw [failed]
          exact ⟨message, rfl⟩
      · rintro cutoff ⟨_, _, _, ⟨⟩, rfl, reached⟩
        exact near reached

theorem reconcile_play {span : Span} (made : Span.ofSeconds grace = .ok span) :
    ((reconcile grace).play env c).1 = ((Store.failStale span none).play env c).1 ∧
      ((reconcile grace).play env c).2.database =
        ((Store.failStale span none).play env c).2.database ∧
      ((reconcile grace).play env c).2.changed =
        ((Store.failStale span none).play env c).2.changed := by
  unfold reconcile
  rw [made]
  change (play env ((Store.failStale span none).bind _) c).1 = _ ∧
    (play env ((Store.failStale span none).bind _) c).2.database = _ ∧
    (play env ((Store.failStale span none).bind _) c).2.changed = _
  rw [bind_eq_attempt, play_attempt]
  generalize (Store.failStale span none).play env c = out
  obtain ⟨ending, c'⟩ := out
  cases ending with
  | error e => exact ⟨rfl, rfl, rfl⟩
  | ok count =>
    by_cases none : count = 0
    · subst none
      exact ⟨rfl, rfl, rfl⟩
    · change (play env (if count ≠ 0 then _ else _ : Job Nat) c').1 = _ ∧
        (play env (if count ≠ 0 then _ else _ : Job Nat) c').2.database = _ ∧
        (play env (if count ≠ 0 then _ else _ : Job Nat) c').2.changed = _
      rw [if_pos none]
      exact ⟨rfl, rfl, (Scene.changed_asked ..).trans (List.append_nil _)⟩

theorem reconcile_fails {e : Failure} (fails : lookBack grace (env c.log.length).clock = .error e) :
    ((reconcile grace).play env c).1 = .error e ∧
      ((reconcile grace).play env c).2.database = c.database := by
  unfold lookBack at fails
  cases made : Span.ofSeconds grace with
  | error e' =>
    rw [made] at fails
    cases fails
    unfold reconcile
    rw [made]
    exact ⟨rfl, rfl⟩
  | ok span =>
    rw [made] at fails
    have stops : (Store.failStale span none).play env c =
        (.error e, c.asked (env c.log.length) .now) := by
      change ((Job.ofExcept (Moment.before (env c.log.length).clock span)).bind _).play env _ = _
      change Moment.before (env c.log.length).clock span = _ at fails
      rw [fails]
      rfl
    rw [(reconcile_play made).1, (reconcile_play made).2.1, stops]
    exact ⟨rfl, rfl⟩

theorem reconcile_swept {l : Ledger} (back : lookBack grace (env c.log.length).clock = .ok cutoff)
    (made : c.database.table = some l) (numbered : l.Numbered) :
    ∃ k l', Store.Swept env c l (l.stale cutoff) 0 ((reconcile grace).play env c) k l' := by
  obtain ⟨span, spans, early⟩ := bind_eq_ok.mp back
  change Moment.before ((none : Option Moment).getD (env c.log.length).clock) span = _ at early
  obtain ⟨k, l', reach, database, changed, givesUp, ends⟩ :=
    Store.failStale_swept made numbered early
  rw [← (reconcile_play spans).1] at ends
  exact ⟨k, l', reach, (reconcile_play spans).2.1.trans database,
    (reconcile_play spans).2.2.trans changed, givesUp, ends⟩

theorem reconcile_foreseen (back : lookBack grace (env c.log.length).clock = .ok cutoff)
    (numbered : ∀ l, c.database.table = some l → l.Numbered) : Foreseen env c (reconcile grace) := by
  intro e failed
  cases made : c.database.table with
  | some l =>
    obtain ⟨k, l', swept⟩ := reconcile_swept back made (numbered l made)
    rcases swept.ends with ⟨ended, -⟩ | ⟨⟨fault, ended⟩, -⟩
    · cases failed.symm.trans ended
    · cases failed.symm.trans ended
      rfl
  | none =>
    obtain ⟨span, spans, early⟩ := bind_eq_ok.mp back
    change Moment.before ((none : Option Moment).getD (env c.log.length).clock) span = _ at early
    rw [(reconcile_play spans).1] at failed
    obtain ⟨c', goes, same, -⟩ := Store.failStale_play early
    rw [goes] at failed
    rcases play_session_or_fault env c' (.stale cutoff) rfl rfl fun rows => Store.failEach rows 0
      with fault | ⟨l, _, made', -⟩
    · exact fault.foreseen e failed
    · cases made'.symm.trans (same ▸ made)

/-- A sweep with the grace of accepted settings fails with errors of the store only exactly if there is
a moment so far back, as there is if the seconds stay clear of the first moment by a microsecond. Then
it gives up what was claimed before that moment, as far as the store lets it; otherwise it overflows
before it looks at the table. -/
theorem reconcile_foreseen_iff {given : List (Text × Json)} {s : Settings}
    (accepted : Settings.ofFields given = .ok s) (env : Nat → Reaction) (c : Scene)
    (numbered : ∀ l, c.database.table = some l → l.Numbered)
    (shown : Moment.first ≤ (env c.log.length).clock ∧ (env c.log.length).clock ≤ Moment.last) :
    let out := (reconcile s.staleGrace).play env c
    (Foreseen env c (reconcile s.staleGrace) ↔
        ∃ cutoff, Cutoff s.staleGrace (env c.log.length).clock cutoff) ∧
      ((∀ cutoff, ¬Cutoff s.staleGrace (env c.log.length).clock cutoff) →
        (∃ message, out.1 = .error (.defect (.overflow message))) ∧
          out.2.database = c.database) ∧
      (∀ n m e, s.staleGrace = .finite n m e →
        (Binary64.value m e * 10 ^ 6 + 1 ≤
            (((env c.log.length).clock - Moment.first : Int) : ℚ) →
          Foreseen env c (reconcile s.staleGrace)) ∧
        ∀ cutoff, Cutoff s.staleGrace (env c.log.length).clock cutoff →
          |(((env c.log.length).clock - cutoff : Int) : ℚ) - Binary64.value m e * 10 ^ 6| < 1) ∧
      ∀ cutoff l, Cutoff s.staleGrace (env c.log.length).clock cutoff → c.database.table = some l →
        ∃ k l', Store.Swept env c l (l.stale cutoff) 0 out k l' ∧
          (Healthy env c.database →
            out.1 = .ok (l.stale cutoff).length ∧ l.GivesUp (l.stale cutoff) l') := by
  intro out
  have positive := Settings.staleGrace_nonnegative accepted
  have near (n : Bool) (m : Nat) (e : Int) (grace : s.staleGrace = .finite n m e)
      (cutoff : Moment) (reached : Cutoff s.staleGrace (env c.log.length).clock cutoff) :
      |(((env c.log.length).clock - cutoff : Int) : ℚ) - Binary64.value m e * 10 ^ 6| < 1 :=
    Cutoff.near (grace ▸ reached)
  rcases lookBack_two positive shown with ⟨cutoff, back, reached⟩ | ⟨⟨message, overflows⟩, beyond⟩
  · have foreseen := reconcile_foreseen back numbered
    refine ⟨iff_of_true foreseen ⟨cutoff, reached⟩, fun beyond => absurd reached (beyond cutoff),
      fun n m e grace => ⟨fun _ => foreseen, near n m e grace⟩, ?_⟩
    intro cutoff' l reached' made
    obtain rfl : cutoff' = cutoff := reached'.unique reached
    obtain ⟨k, l', swept⟩ := reconcile_swept back made (numbered l made)
    refine ⟨k, l', swept, fun healthy => ?_⟩
    obtain ⟨ended, all⟩ := swept.completes healthy
    have gives := swept.givesUp
    rw [all, List.take_length] at gives
    exact ⟨ended, gives⟩
  · obtain ⟨failed, kept⟩ := reconcile_fails overflows
    refine ⟨iff_of_false (fun foreseen => ?_) fun ⟨cutoff, reached⟩ => beyond cutoff reached,
      fun _ => ⟨⟨message, failed⟩, kept⟩,
      fun n m e grace => ⟨fun clear => ?_, near n m e grace⟩,
      fun cutoff l reached => absurd reached (beyond cutoff)⟩
    · cases foreseen _ failed
    · obtain ⟨cutoff, reached⟩ := cutoff_of_clear n clear
      exact absurd (grace ▸ reached) (beyond cutoff)

/-- With ten minutes of grace, a payout that was claimed a microsecond more than ten minutes ago is
given up, and one that was claimed ten minutes ago is not. -/
theorem reconcile_foreseen_iff_default : ∃ s, Settings.ofFields [] = .ok s ∧
    let clock : Moment := 1700000000000000
    let rows : Ledger := [Store.claimedAt 1 "tb1qfirst" (clock - 600000001),
      Store.claimedAt 2 "tb1qsecond" (clock - 600000000)]
    let c : Scene := { database := { table := some rows } }
    Foreseen (fun _ => quietAt clock) c (reconcile s.staleGrace) ∧
      ((reconcile s.staleGrace).play (fun _ => quietAt clock) c).1 = .ok 1 := by
  obtain ⟨s, accepted, grace⟩ : ∃ s, Settings.ofFields [] = .ok s ∧
      s.staleGrace = .finite false 5277655813324800 (-43) := ⟨_, rfl, rfl⟩
  refine ⟨s, accepted, ?_⟩
  intro clock rows c
  have numbered : rows.Numbered := ⟨by decide, by decide⟩
  have healthy : Healthy (fun _ => quietAt clock) c.database := ⟨fun _ => rfl, rows, rfl, rfl, rfl⟩
  have span : Span.microseconds 5277655813324800 (-43) = 600000000 := by decide +kernel
  have reached : Cutoff s.staleGrace clock (clock - 600000000) :=
    ⟨false, 5277655813324800, -43, grace, by rw [span]; rfl, by decide⟩
  obtain ⟨foreseen, -, -, sweeps⟩ := reconcile_foreseen_iff accepted (fun _ => quietAt clock) c
    (by rintro _ ⟨⟩; exact numbered) (by decide)
  obtain ⟨k, l', -, whole⟩ := sweeps _ rows reached rfl
  exact ⟨foreseen.mpr ⟨_, reached⟩, (whole healthy).1⟩

/-- There is no moment three thousand years ago, and settings with such a grace are accepted. -/
theorem long_grace_overflows : ∃ s,
    Settings.ofFields [("stale_processing_grace", .int 100000000000)] = .ok s ∧
      ((reconcile s.staleGrace).play (fun _ => quietAt 1700000000000000)
        { database := { table := some [] } }).1 =
          .error (.defect (.overflow "date value out of range")) ∧
      ¬Foreseen (fun _ => quietAt 1700000000000000) { database := { table := some [] } }
        (reconcile s.staleGrace) := by
  obtain ⟨s, accepted, grace⟩ : ∃ s,
      Settings.ofFields [("stale_processing_grace", .int 100000000000)] = .ok s ∧
        s.staleGrace = .finite false 6553600000000000 (-16) := ⟨_, rfl, rfl⟩
  have overflows : lookBack s.staleGrace 1700000000000000 =
      .error (.defect (.overflow "date value out of range")) := by
    have span : Span.microseconds 6553600000000000 (-16) = 100000000000000000 := by decide +kernel
    unfold lookBack
    rw [grace, Span.ofSeconds_finite, if_neg Bool.false_ne_true, span]
    rfl
  have failed : ((reconcile s.staleGrace).play (fun _ => quietAt 1700000000000000)
      { database := { table := some [] } }).1 =
        .error (.defect (.overflow "date value out of range")) := (reconcile_fails overflows).1
  refine ⟨s, accepted, failed, fun foreseen => ?_⟩
  cases foreseen _ failed

end Upkeep

end Faucet
