import Mathlib.Algebra.Ring.Int.Parity
import Mathlib.Data.Int.Log
import Mathlib.Data.Rat.Floor
import Faucet.Proofs.Exact

/-!
What rounding makes of a number, however the number is written. The place that a result is rounded
to depends on what the result stands for, and so do its last digit and whether it is out of range:
operands that stand for the same numbers have results that do.
-/

set_option autoImplicit false

namespace Faucet

namespace Decimal

/-- A whole number that no other one is nearer than. A tie goes to the even one. -/
def Nearest (q : ℚ) (n : ℤ) : Prop := |2 * (q - n)| < 1 ∨ |2 * (q - n)| = 1 ∧ Even n

def roundEven (q : ℚ) : ℤ :=
  if 2 * Int.fract q < 1 then ⌊q⌋
  else if 1 < 2 * Int.fract q then ⌊q⌋ + 1
  else if Even ⌊q⌋ then ⌊q⌋ else ⌊q⌋ + 1

variable {p q : ℚ} {m n k : ℤ}

theorem nearest_roundEven (q : ℚ) : Nearest q (roundEven q) := by
  have whole : q = ⌊q⌋ + Int.fract q := (Int.floor_add_fract q).symm
  have lo := Int.fract_nonneg q
  have hi := Int.fract_lt_one q
  have down : 2 * (q - ⌊q⌋) = 2 * Int.fract q := by rw [Int.self_sub_floor]
  have up : 2 * (q - (⌊q⌋ + 1 : ℤ)) = 2 * Int.fract q - 2 := by
    rw [Int.cast_add, Int.cast_one, ← sub_sub, Int.self_sub_floor]
    ring
  unfold roundEven Nearest
  split_ifs with below above even
  · rw [down, abs_of_nonneg (by linarith)]
    exact .inl below
  · rw [up, abs_of_neg (by linarith)]
    exact .inl (by linarith)
  · rw [down, abs_of_nonneg (by linarith)]
    exact .inr ⟨by linarith, even⟩
  · rw [up, abs_of_neg (by linarith)]
    exact .inr ⟨by linarith, Int.even_add_one.mpr even⟩

theorem Nearest.le (h : Nearest q n) : |2 * (q - n)| ≤ 1 := h.elim le_of_lt fun tie => tie.1.le

theorem Nearest.eq (hm : Nearest q m) (hn : Nearest q n) : m = n := by
  by_contra other
  have apart : (1 : ℚ) ≤ |(m : ℚ) - n| := by exact_mod_cast Int.one_le_abs (sub_ne_zero.mpr other)
  have low := abs_le.mp hm.le
  have high := abs_le.mp hn.le
  -- Two nearest numbers are neighbours, and both of them are even.
  have ties : |2 * (q - m)| = 1 ∧ |2 * (q - n)| = 1 := by
    rcases abs_cases ((m : ℚ) - n) with ⟨eq, _⟩ | ⟨eq, _⟩ <;> rw [eq] at apart
    · exact ⟨by rw [abs_of_nonpos] <;> linarith, by rw [abs_of_nonneg] <;> linarith⟩
    · exact ⟨by rw [abs_of_nonneg] <;> linarith, by rw [abs_of_nonpos] <;> linarith⟩
  have even := (hm.resolve_left ties.1.not_lt).2.sub (hn.resolve_left ties.2.not_lt).2
  have near : |(m : ℚ) - n| ≤ 1 := by
    rw [abs_le]
    constructor <;> linarith
  have one : |m - n| = 1 := le_antisymm (by exact_mod_cast near) (by exact_mod_cast apart)
  rcases even with ⟨half, twice⟩
  rcases abs_choice (m - n) with eq | eq <;> omega

theorem roundEven_eq (h : Nearest q n) : roundEven q = n := (nearest_roundEven q).eq h

theorem roundEven_intCast (n : ℤ) : roundEven n = n := roundEven_eq (.inl (by simp))

theorem roundEven_neg (q : ℚ) : roundEven (-q) = -roundEven q := by
  refine roundEven_eq ?_
  have same : 2 * (-q - (-roundEven q : ℤ)) = -(2 * (q - roundEven q)) := by
    push_cast
    ring
  unfold Nearest
  rw [same, abs_neg, even_neg]
  exact nearest_roundEven q

theorem roundEven_mono (h : p ≤ q) : roundEven p ≤ roundEven q := by
  by_contra above
  have apart : (roundEven q : ℚ) + 1 ≤ roundEven p := by exact_mod_cast not_le.mp above
  have low := abs_le.mp (nearest_roundEven p).le
  have high := abs_le.mp (nearest_roundEven q).le
  obtain rfl : p = q := by linarith
  exact above le_rfl

theorem roundEven_le (h : q ≤ n) : roundEven q ≤ n := (roundEven_mono h).trans_eq (roundEven_intCast n)

theorem le_roundEven (h : n ≤ q) : n ≤ roundEven q :=
  (roundEven_intCast n).symm.trans_le (roundEven_mono h)

theorem roundEven_between (hp : k < 2 * p ∧ 2 * p < k + 1) (hq : k < 2 * q ∧ 2 * q < k + 1) :
    roundEven p = roundEven q := by
  have near : ∀ {r : ℚ}, k < 2 * r ∧ 2 * r < k + 1 → roundEven r = (k + 1) / 2 := by
    intro r between
    refine roundEven_eq (.inl ?_)
    rcases Int.even_or_odd' k with ⟨half, rfl | rfl⟩
    · rw [show (2 * half + 1) / 2 = half by omega, abs_lt]
      push_cast at between
      constructor <;> linarith
    · rw [show (2 * half + 1 + 1) / 2 = half + 1 by omega, abs_lt]
      push_cast at between ⊢
      constructor <;> linarith
  rw [near hp, near hq]

theorem roundEven_div (n : ℕ) {d : ℕ} (hd : 0 < d) :
    roundEven (n / d) = Rounding.halfEven.quotient n d := by
  have unit : (0 : ℚ) < d := by exact_mod_cast hd
  have parts : (n : ℚ) = d * (n / d : ℕ) + (n % d : ℕ) := by exact_mod_cast (Nat.div_add_mod n d).symm
  have rest : n % d < d := Nat.mod_lt n hd
  have down : 2 * ((n : ℚ) / d - (n / d : ℕ)) = 2 * (n % d : ℕ) / d := by
    rw [eq_div_iff unit.ne', mul_assoc, sub_mul, div_mul_cancel₀ _ unit.ne']
    linarith
  have up : 2 * ((n : ℚ) / d - (n / d + 1 : ℕ)) = -((2 * d - 2 * (n % d : ℕ)) / d) := by
    rw [Nat.cast_add, Nat.cast_one, ← sub_sub, mul_sub, down, sub_div, mul_div_cancel_right₀ _ unit.ne']
    ring
  refine roundEven_eq ?_
  unfold Nearest Rounding.quotient
  dsimp only
  split_ifs with below above even
  · have small : 2 * ((n % d : ℕ) : ℚ) < d := by exact_mod_cast below
    rw [Int.cast_natCast, down, abs_of_nonneg (by positivity), div_lt_one unit]
    exact .inl small
  · have large : (d : ℚ) < 2 * (n % d : ℕ) := by exact_mod_cast above
    have least : ((n % d : ℕ) : ℚ) < d := by exact_mod_cast rest
    rw [Int.cast_natCast, up, abs_neg, abs_of_nonneg (by apply div_nonneg <;> linarith),
      div_lt_one unit]
    exact .inl (by linarith)
  · have half : 2 * ((n % d : ℕ) : ℚ) = d := by exact_mod_cast (by omega : 2 * (n % d) = d)
    rw [Int.cast_natCast, down, half, div_self unit.ne', abs_one]
    exact .inr ⟨rfl, by exact_mod_cast Nat.even_iff.mpr even⟩
  · have half : 2 * ((n % d : ℕ) : ℚ) = d := by exact_mod_cast (by omega : 2 * (n % d) = d)
    rw [Int.cast_natCast, up, half, abs_neg, two_mul, add_sub_cancel_right, div_self unit.ne', abs_one]
    exact .inr ⟨rfl, by exact_mod_cast Nat.even_add_one.mpr (mt Nat.even_iff.mp even)⟩

/-- The place of the last digit that is kept of a number. -/
def lastPlace (q : ℚ) : ℤ := max tiny (Int.log 10 |q| + 1 - precision)

def rounded (q : ℚ) : ℚ := roundEven (q / 10 ^ lastPlace q) * 10 ^ lastPlace q

/-- What comes out is the rounded number, unless that is out of range. -/
def Rounds (q : ℚ) (r : Except ArithmeticFault Decimal) : Prop :=
  if |rounded q| < 10 ^ (maxExponent + 1) then ∃ z, r = .ok z ∧ z.Worth (rounded q)
  else r = .error .overflow

variable {c c₁ c₂ : Nat} {e e₁ e₂ : Int} {x y : Decimal}

theorem rounded_zero : rounded 0 = 0 := by
  have nothing : roundEven 0 = 0 := by exact_mod_cast roundEven_intCast 0
  unfold rounded
  rw [zero_div, nothing, Int.cast_zero, zero_mul]

theorem rounded_neg (q : ℚ) : rounded (-q) = -rounded q := by
  have place : lastPlace (-q) = lastPlace q := by
    unfold lastPlace
    rw [abs_neg]
  unfold rounded
  rw [place, neg_div, roundEven_neg, Int.cast_neg, neg_mul]

theorem rounded_le (below : q ≤ m * 10 ^ k) (place : lastPlace q ≤ k) : rounded q ≤ m * 10 ^ k := by
  obtain ⟨j, hj⟩ := Int.eq_ofNat_of_zero_le (Int.sub_nonneg_of_le place)
  obtain rfl : k = j + lastPlace q := by omega
  have unit : (0 : ℚ) < 10 ^ lastPlace q := by positivity
  have whole : (m : ℚ) * 10 ^ (j + lastPlace q) = (m * 10 ^ j : ℤ) * 10 ^ lastPlace q := by
    rw [zpow_add₀ (by norm_num), zpow_natCast]
    push_cast
    ring
  rw [whole] at below ⊢
  refine mul_le_mul_of_nonneg_right ?_ unit.le
  exact_mod_cast roundEven_le ((div_le_iff₀ unit).mpr below)

theorem le_rounded (above : m * 10 ^ k ≤ q) (place : lastPlace q ≤ k) : m * 10 ^ k ≤ rounded q := by
  have place' : lastPlace (-q) ≤ k := by
    unfold lastPlace at place ⊢
    rwa [abs_neg]
  have mirrored := rounded_le (q := -q) (m := -m) (by push_cast; linarith) place'
  rw [rounded_neg] at mirrored
  push_cast at mirrored
  linarith

theorem rounded_nonneg (h : 0 ≤ q) : 0 ≤ rounded q := by
  have least := le_rounded (q := q) (m := 0) (k := lastPlace q) (by simpa using h) le_rfl
  simpa using least

theorem abs_rounded (q : ℚ) : |rounded q| = rounded |q| := by
  rcases abs_choice q with eq | eq
  · rw [eq, abs_of_nonneg (rounded_nonneg (abs_eq_self.mp eq))]
  · rw [eq, rounded_neg, abs_of_nonpos]
    have below := rounded_nonneg (abs_nonneg q)
    rw [eq, rounded_neg] at below
    linarith

theorem log_scaled (some : c ≠ 0) (e : Int) : Int.log 10 (scaled c e) = Text.digitCount c + e - 1 := by
  have positive := scaled_pos some e
  have low : Text.digitCount c + e - 1 ≤ Int.log 10 (scaled c e) :=
    (Int.zpow_le_iff_le_log (by decide) positive).mp (le_scaled some e)
  have high : Int.log 10 (scaled c e) < Text.digitCount c + e :=
    (Int.lt_zpow_iff_log_lt (by decide) positive).mp (scaled_lt c e)
  omega

theorem lastPlace_scaled (some : c ≠ 0) (e : Int) :
    lastPlace (scaled c e) = max tiny (Text.digitCount c + e - precision) := by
  unfold lastPlace
  rw [abs_of_pos (scaled_pos some e), log_scaled some]
  congr 1
  omega

theorem roundEven_dropDigits (c j : Nat) :
    roundEven (c / (10 ^ j : ℕ)) = dropDigits .halfEven c j := by
  unfold dropDigits
  split
  · rename_i short
    -- A number that is shorter than what is dropped from it is less than a tenth of it.
    have small : 2 * c < 10 ^ j := by
      have tenth : 10 ^ (Text.digitCount c + 1) ≤ 10 ^ j := Nat.pow_le_pow_right (by decide) short
      have most := lt_tenTo_digitCount c
      rw [Nat.pow_succ] at tenth
      omega
    have small' : 2 * (c : ℚ) < (10 ^ j : ℕ) := by exact_mod_cast small
    refine roundEven_eq (.inl ?_)
    rw [Nat.cast_zero, Int.cast_zero, sub_zero, abs_of_nonneg (by positivity), ← mul_div_assoc,
      div_lt_one (by positivity)]
    exact small'
  · exact roundEven_div c (tenTo_pos j)

theorem rounded_short (h : lastPlace (scaled c e) ≤ e) : rounded (scaled c e) = scaled c e := by
  have whole : scaled c e = (c : ℤ) * 10 ^ e := by rw [Int.cast_natCast]; rfl
  exact le_antisymm ((rounded_le whole.le h).trans_eq whole.symm)
    (whole.trans_le (le_rounded whole.ge h))

theorem rounded_long (h : e ≤ lastPlace (scaled c e)) : rounded (scaled c e) =
    scaled (dropDigits .halfEven c (lastPlace (scaled c e) - e).toNat) (lastPlace (scaled c e)) := by
  unfold rounded
  generalize lastPlace (scaled c e) = last at h ⊢
  obtain ⟨j, hj⟩ := Int.eq_ofNat_of_zero_le (Int.sub_nonneg_of_le h)
  obtain rfl : last = j + e := by omega
  have part : scaled c e / 10 ^ (j + e : ℤ) = c / (10 ^ j : ℕ) := by
    unfold scaled
    rw [zpow_add₀ (by norm_num), zpow_natCast, mul_div_mul_right _ _ (by positivity)]
    push_cast
    rfl
  rw [part, roundEven_dropDigits, Int.add_sub_cancel, Int.toNat_natCast, Int.cast_natCast]
  rfl

theorem carry_of_long {d : ℕ} {last : ℤ} (long : ¬Text.digitCount d ≤ precision)
    (most : scaled d last ≤ 10 ^ (28 + last)) :
    d = 10 ^ 27 * tenTo 1 ∧ scaled d last = 10 ^ (28 + last) := by
  have many : 10 ^ 28 ≤ d := by
    by_contra less
    exact long (digitCount_le (by decide) (not_le.mp less))
  have power : (10 : ℚ) ^ (28 + last) = scaled (10 ^ 27 * tenTo 1) last := by
    unfold scaled
    rw [zpow_add₀ (by norm_num)]
    norm_num [tenTo]
  have full : scaled d last = 10 ^ (28 + last) :=
    le_antisymm most (le_of_not_gt fun less => absurd (scaled_lt_iff.mp less) (not_lt.mpr many))
  exact ⟨scaled_inj (full.trans power), full⟩

theorem fit_magnitude (n : Bool) (some : c ≠ 0) (e : Int) :
    10 ^ (maxExponent + 1) ≤ rounded (scaled c e) ∧ fit n c e = .error .overflow ∨
      rounded (scaled c e) < 10 ^ (maxExponent + 1) ∧
        ∃ c' e', fit n c e = .ok (.finite n c' e') ∧ scaled c' e' = rounded (scaled c e) := by
  have hprecision : (precision : Int) = 28 := rfl
  have htiny : tiny = -1000026 := rfl
  have hmax : maxExponent = 999999 := rfl
  have place := lastPlace_scaled some e
  have low := le_scaled some e
  have high := scaled_lt c e
  unfold fit
  rw [if_neg some]
  split
  · rename_i vast
    refine .inl ⟨?_, rfl⟩
    have least := le_rounded (m := 1) (k := Text.digitCount c + e - 1) (by simpa using low) (by omega)
    rw [Int.cast_one, one_mul] at least
    exact (ten_zpow_le (by omega)).trans least
  · dsimp only
    rw [← place]
    by_cases fits : lastPlace (scaled c e) ≤ e
    · rw [if_pos fits, rounded_short fits]
      exact .inr ⟨high.trans_le (ten_zpow_le (by omega)), c, e, rfl, rfl⟩
    · have above : scaled c e ≤ (1 : ℤ) * 10 ^ (28 + lastPlace (scaled c e)) := by
        rw [Int.cast_one, one_mul]
        exact high.le.trans (ten_zpow_le (by omega))
      have most := rounded_le above (by omega)
      rw [Int.cast_one, one_mul] at most
      rw [rounded_long (by omega)] at most ⊢
      rw [if_neg fits]
      generalize dropDigits .halfEven c _ = d at most ⊢
      generalize lastPlace (scaled c e) = last at *
      by_cases short : Text.digitCount d ≤ precision
      · rw [if_pos short]
        refine .inr ⟨?_, d, last, rfl, rfl⟩
        exact (scaled_lt d last).trans_le (ten_zpow_le (by omega))
      · obtain ⟨carry, full⟩ := carry_of_long short most
        rw [if_neg short, full]
        split
        · exact .inl ⟨ten_zpow_le (by omega), rfl⟩
        · refine .inr ⟨ten_zpow_lt.mpr (by omega), d / 10, last + 1, rfl, ?_⟩
          rw [← full, carry, scaled_mul_tenTo]
          rfl

/-- Rounding is right: what comes out depends on what goes in as a number. -/
theorem fit_rounds (n : Bool) (c : Nat) (e : Int) :
    Rounds (Decimal.finite n c e).toRat (fit n c e) := by
  unfold Rounds
  rw [abs_rounded, abs_toRat]
  by_cases none : c = 0
  · subst none
    have nothing : scaled 0 e = 0 := by simp [scaled]
    have worth : (Decimal.finite n 0 e).toRat = 0 := by cases n <;> simp [toRat, nothing]
    rw [worth, nothing, rounded_zero, if_pos (by positivity)]
    exact ⟨_, rfl, rfl, by cases n <;> simp [toRat, scaled]⟩
  · have signed {c' : Nat} {e' : Int} (same : scaled c' e' = rounded (scaled c e)) :
        (Decimal.finite n c' e').toRat = rounded (Decimal.finite n c e).toRat := by
      cases n with
      | false => exact same
      | true => exact (congrArg Neg.neg same).trans (rounded_neg _).symm
    rcases fit_magnitude n none e with ⟨vast, failed⟩ | ⟨held, c', e', fitted, same⟩
    · rw [if_neg (not_lt.mpr vast)]
      exact failed
    · rw [if_pos held]
      exact ⟨_, fitted, rfl, signed same⟩

def Between (j f : ℤ) (q : ℚ) : Prop := j * (5 * 10 ^ f) < q ∧ q < (j + 1) * (5 * 10 ^ f)

variable {j f : ℤ}

theorem zpow_eq_halves {t : ℤ} (h : f + 1 ≤ t) :
    (10 : ℚ) ^ t = 2 * (10 ^ (t - (f + 1)).toNat : ℤ) * (5 * 10 ^ f) := by
  obtain ⟨i, hi⟩ := Int.eq_ofNat_of_zero_le (Int.sub_nonneg_of_le h)
  obtain rfl : t = i + f + 1 := by omega
  rw [show (i + f + 1 - (f + 1)).toNat = i by omega, ten_zpow_succ, zpow_add₀ (by norm_num),
    zpow_natCast]
  push_cast
  ring

theorem Between.neg (h : Between j f q) : Between (-(j + 1)) f (-q) := by
  unfold Between at *
  push_cast
  constructor <;> linarith

theorem Between.le (hp : Between j f p) (hq : Between j f q) {t : ℤ} (ht : f + 1 ≤ t)
    (reached : 10 ^ t ≤ p) : 10 ^ t ≤ q := by
  unfold Between at hp hq
  rw [zpow_eq_halves ht] at reached ⊢
  generalize (10 ^ (t - (f + 1)).toNat : ℤ) = N at reached ⊢
  have unit : (0 : ℚ) < 5 * 10 ^ f := by positivity
  have below : ((2 * N : ℤ) : ℚ) < (j + 1 : ℤ) := by
    push_cast
    exact lt_of_mul_lt_mul_right (reached.trans_lt hp.2) unit.le
  have least : ((2 * N : ℤ) : ℚ) ≤ j := by
    exact_mod_cast Int.lt_add_one_iff.mp (by exact_mod_cast below)
  push_cast at least
  exact (mul_le_mul_of_nonneg_right least unit.le).trans hq.1.le

theorem Between.le_abs (hp : Between j f p) (hq : Between j f q) {t : ℤ} (ht : f + 1 ≤ t)
    (reached : 10 ^ t ≤ |p|) : 10 ^ t ≤ |q| := by
  rcases abs_choice p with eq | eq <;> rw [eq] at reached
  · exact (hp.le hq ht reached).trans (le_abs_self q)
  · exact (hp.neg.le hq.neg ht reached).trans (neg_le_abs q)

theorem Between.log_le (hp : Between j f p) (hq : Between j f q) (long : 10 ^ (f + 1) ≤ |p|) :
    Int.log 10 |p| ≤ Int.log 10 |q| := by
  have positive : 0 < |p| := lt_of_lt_of_le (by positivity) long
  have least : f + 1 ≤ Int.log 10 |p| := (Int.zpow_le_iff_le_log (by decide) positive).mp long
  have reached := hp.le_abs hq least (Int.zpow_log_le_self (by decide) positive)
  exact (Int.zpow_le_iff_le_log (by decide) (lt_of_lt_of_le (by positivity) reached)).mp reached

/-- Numbers between the same halves of a place that is too low for them are rounded to the same. -/
theorem Between.rounded_eq (hp : Between j f p) (hq : Between j f q) (long : 10 ^ (f + 28) ≤ |p|) :
    rounded p = rounded q := by
  have long' : 10 ^ (f + 1) ≤ |p| := (ten_zpow_le (by omega)).trans long
  have logs : Int.log 10 |p| = Int.log 10 |q| :=
    le_antisymm (hp.log_le hq long') (hq.log_le hp (hp.le_abs hq le_rfl long'))
  have place : lastPlace p = lastPlace q := by
    unfold lastPlace
    rw [logs]
  have low : f + 1 ≤ lastPlace p := by
    have top : f + 28 ≤ Int.log 10 |p| :=
      (Int.zpow_le_iff_le_log (by decide) (lt_of_lt_of_le (by positivity) long)).mp long
    have hprecision : (precision : Int) = 28 := rfl
    unfold lastPlace
    omega
  unfold rounded
  rw [← place]
  generalize lastPlace p = t at low
  congr 2
  have unit : (0 : ℚ) < 5 * 10 ^ f := by positivity
  have many : (0 : ℤ) < 10 ^ (t - (f + 1)).toNat := by positivity
  have halves := zpow_eq_halves low
  generalize (10 ^ (t - (f + 1)).toNat : ℤ) = N at many halves
  -- The halves of the greater place are some of the halves of the lower one.
  have inside {r : ℚ} (h : Between j f r) :
      (j / N : ℤ) < 2 * (r / 10 ^ t) ∧ 2 * (r / 10 ^ t) < (j / N : ℤ) + 1 := by
    have wide : (0 : ℚ) < N * (5 * 10 ^ f) := mul_pos (by exact_mod_cast many) unit
    have twice : 2 * (r / 10 ^ t) = r / (N * (5 * 10 ^ f)) := by
      rw [halves, mul_assoc, ← mul_div_assoc, mul_div_mul_left _ _ two_ne_zero]
    have low : ((j / N * N : ℤ) : ℚ) ≤ j := by exact_mod_cast Int.ediv_mul_le j many.ne'
    have high : (j + 1 : ℚ) ≤ ((j / N + 1) * N : ℤ) := by
      exact_mod_cast Int.lt_ediv_add_one_mul_self j many
    rw [twice, lt_div_iff₀ wide, div_lt_iff₀ wide, ← mul_assoc (_ : ℚ) (N : ℚ),
      ← mul_assoc (_ : ℚ) (N : ℚ)]
    push_cast at low high ⊢
    exact ⟨(mul_le_mul_of_nonneg_right low unit.le).trans_lt h.1,
      h.2.trans_le (mul_le_mul_of_nonneg_right high unit.le)⟩
  exact roundEven_between (inside hp) (inside hq)

/-- A small part moves a multiple of a place by less than half of it, to the side of its sign. -/
theorem between_add {i : ℤ} (n : Bool) (some : c ≠ 0) (small : scaled c e ≤ 10 ^ f) :
    Between (if n then 2 * i - 1 else 2 * i) f (i * 10 ^ (f + 1) + (Decimal.finite n c e).toRat) := by
  have positive := scaled_pos some e
  have unit : (0 : ℚ) < 10 ^ f := by positivity
  unfold Between
  rw [ten_zpow_succ]
  cases n with
  | false =>
    change _ < i * (10 ^ f * 10) + scaled c e ∧ i * (10 ^ f * 10) + scaled c e < _
    rw [if_neg Bool.false_ne_true]
    push_cast
    constructor <;> linarith
  | true =>
    change _ < i * (10 ^ f * 10) + -scaled c e ∧ i * (10 ^ f * 10) + -scaled c e < _
    rw [if_pos rfl]
    push_cast
    constructor <;> linarith

/-- A part that is far below the other one counts only by its sign. -/
theorem rounded_far (n₁ n₂ : Bool) (some₁ : c₁ ≠ 0) (some₂ : c₂ ≠ 0)
    (far : Text.digitCount c₂ + e₂ ≤ raiseFloor c₁ e₁) :
    rounded ((Decimal.finite n₁ c₁ e₁).toRat + (Decimal.finite n₂ 1 (raiseFloor c₁ e₁)).toRat) =
      rounded ((Decimal.finite n₁ c₁ e₁).toRat + (Decimal.finite n₂ c₂ e₂).toRat) := by
  have hx := abs_toRat n₁ c₁ e₁
  have low := raiseFloor_le c₁ e₁
  generalize raiseFloor c₁ e₁ = f at far low ⊢
  obtain ⟨i, whole⟩ := exists_int_mul hx (show f + 1 ≤ e₁ by omega)
  have first : 10 ^ (f + 28 + 1) ≤ |(Decimal.finite n₁ c₁ e₁).toRat| :=
    hx ▸ (ten_zpow_le (by omega)).trans (le_scaled some₁ e₁)
  have unit : scaled 1 f = 10 ^ f := by simp [scaled]
  have long : 10 ^ (f + 28) ≤
      |(Decimal.finite n₁ c₁ e₁).toRat + (Decimal.finite n₂ 1 f).toRat| := by
    refine (lt_abs_add first ?_).le
    rw [abs_toRat, unit]
    exact ten_zpow_lt.mpr (by omega)
  rw [whole] at long ⊢
  exact (between_add n₂ one_ne_zero unit.le).rounded_eq
    (between_add n₂ some₂ ((scaled_lt c₂ e₂).le.trans (ten_zpow_le far))) long

theorem addAligned_rounds (n₁ n₂ : Bool) (he : e₂ ≤ e₁) :
    Rounds ((Decimal.finite n₁ c₁ e₁).toRat + (Decimal.finite n₂ c₂ e₂).toRat)
      (addAligned n₁ c₁ e₁ n₂ c₂ e₂) := by
  obtain ⟨n, c, e, eq, worth⟩ := addAligned_eq n₁ c₁ e₁ n₂ c₂ e₂
  have right := fit_rounds n c e
  rw [← eq] at right
  rcases raise_cases c₁ e₁ c₂ e₂ with ⟨kept, below⟩ | ⟨some₁, some₂, far, replaced⟩
  · rwa [worth (by omega), toRat_congr kept] at right
  · have low := (raiseFloor_le c₁ e₁).1
    rw [replaced] at worth
    rw [worth low.le] at right
    unfold Rounds at right ⊢
    rwa [rounded_far n₁ n₂ some₁ some₂ far] at right

theorem add_rounds (hx : x.Worth p) (hy : y.Worth q) : Rounds (p + q) (add x y) := by
  obtain ⟨n₁, c₁, e₁, rfl⟩ := hx.finite
  obtain ⟨n₂, c₂, e₂, rfl⟩ := hy.finite
  obtain rfl := hx.2
  obtain rfl := hy.2
  change Rounds _ (if e₂ ≤ e₁ then addAligned n₁ c₁ e₁ n₂ c₂ e₂ else addAligned n₂ c₂ e₂ n₁ c₁ e₁)
  split
  · exact addAligned_rounds n₁ n₂ (by assumption)
  · rw [add_comm]
    exact addAligned_rounds n₂ n₁ (by omega)

theorem mul_rounds (hx : x.Worth p) (hy : y.Worth q) : Rounds (p * q) (mul x y) := by
  obtain ⟨n₁, c₁, e₁, rfl⟩ := hx.finite
  obtain ⟨n₂, c₂, e₂, rfl⟩ := hy.finite
  obtain rfl := hx.2
  obtain rfl := hy.2
  rw [← toRat_mul]
  exact fit_rounds (n₁ != n₂) (c₁ * c₂) (e₁ + e₂)

end Decimal

end Faucet
