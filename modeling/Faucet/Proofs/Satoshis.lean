import Faucet.Proofs.Coin
import Faucet.Proofs.Rounding

/-!
The satoshis of an amount. It is rounded twice, first to 28 digits and then to a whole number, so that
the amounts that come to nothing, or to more than an integer of the database can hold, end a little
beside a half. Amounts that 28 digits hold are rounded once.
-/

set_option autoImplicit false

namespace Faucet

namespace Decimal

variable {p q : ℚ} {n k : ℤ} {x : Decimal}

theorem Nearest.off (h : Nearest q n) : |n - q| ≤ 1 / 2 := by
  have near := abs_le.mp h.le
  rw [abs_le]
  constructor <;> linarith

theorem roundEven_le_even (even : Even n) : roundEven q ≤ n ↔ q ≤ n + 1 / 2 := by
  constructor
  · intro low
    have near := abs_le.mp (nearest_roundEven q).le
    have below : (roundEven q : ℚ) ≤ n := by exact_mod_cast low
    linarith
  · intro below
    have tie : roundEven (n + 1 / 2) = n := roundEven_eq (.inr ⟨by norm_num, even⟩)
    exact (roundEven_mono below).trans_eq tie

theorem even_le_roundEven (even : Even n) : n ≤ roundEven q ↔ n - 1 / 2 ≤ q := by
  have mirrored := roundEven_le_even (q := -q) even.neg
  rw [roundEven_neg, neg_le_neg_iff] at mirrored
  rw [mirrored]
  push_cast
  constructor <;> intro h <;> linarith

theorem ten_zpow_add (k : ℤ) (j : ℕ) : (10 : ℚ) ^ (k + j) = 10 ^ j * 10 ^ k := by
  rw [zpow_add₀ (by norm_num), zpow_natCast, mul_comm]

theorem rounded_le_power (least : tiny ≤ k) (below : p ≤ 10 ^ k) : rounded p ≤ 10 ^ k := by
  rcases le_or_gt p 0 with none | some
  · have low := rounded_le (m := 0) (k := lastPlace p) (by simpa using none) le_rfl
    have unit : (0 : ℚ) < 10 ^ k := by positivity
    rw [Int.cast_zero, zero_mul] at low
    linarith
  · have hprecision : (precision : Int) = 28 := rfl
    have reached : (10 : ℚ) ^ Int.log 10 p ≤ 10 ^ k :=
      (Int.zpow_log_le_self (by decide) some).trans below
    have log : Int.log 10 p ≤ k := (zpow_le_zpow_iff_right₀ (by norm_num)).mp reached
    have place : lastPlace p ≤ k := by
      unfold lastPlace
      rw [abs_of_pos some]
      omega
    have low := rounded_le (m := 1) (by simpa using below) place
    simpa using low

theorem power_le_rounded (least : tiny ≤ k) (above : 10 ^ k ≤ p) : 10 ^ k ≤ rounded p := by
  have hprecision : (precision : Int) = 28 := rfl
  have some : 0 < p := lt_of_lt_of_le (by positivity) above
  have log : k ≤ Int.log 10 p := (Int.zpow_le_iff_le_log (by decide) some).mp above
  have reached : (10 : ℚ) ^ Int.log 10 p ≤ p := Int.zpow_log_le_self (by decide) some
  have place : lastPlace p ≤ Int.log 10 p := by
    unfold lastPlace
    rw [abs_of_pos some]
    omega
  have high := le_rounded (m := 1) (by simpa using reached) place
  rw [Int.cast_one, one_mul] at high
  exact (ten_zpow_le log).trans high

theorem rounded_eq (least : tiny ≤ k) (low : 10 ^ (k + 27) ≤ p) (high : p < 10 ^ (k + 28)) :
    rounded p = roundEven (p / 10 ^ k) * 10 ^ k := by
  have hprecision : (precision : Int) = 28 := rfl
  have some : 0 < p := lt_of_lt_of_le (by positivity) low
  have log : k + 27 ≤ Int.log 10 p := (Int.zpow_le_iff_le_log (by decide) some).mp low
  have log' : Int.log 10 p < k + 28 := (Int.lt_zpow_iff_log_lt (by decide) some).mp high
  have place : lastPlace p = k := by
    unfold lastPlace
    rw [abs_of_pos some]
    omega
  unfold rounded
  rw [place]

theorem rounded_three (p : ℚ) (least : tiny ≤ k) :
    (p ≤ 10 ^ 27 * 10 ^ k ∧ rounded p ≤ 10 ^ 27 * 10 ^ k) ∨
      rounded p = roundEven (p / 10 ^ k) * 10 ^ k ∨
        (10 ^ 28 * 10 ^ k ≤ p ∧ 10 ^ 28 * 10 ^ k ≤ rounded p) := by
  have first : (10 : ℚ) ^ (k + 27) = 10 ^ 27 * 10 ^ k := ten_zpow_add k 27
  have last : (10 : ℚ) ^ (k + 28) = 10 ^ 28 * 10 ^ k := ten_zpow_add k 28
  rw [← first, ← last]
  rcases le_or_gt p (10 ^ (k + 27)) with short | tall
  · exact .inl ⟨short, rounded_le_power (by omega) short⟩
  · rcases lt_or_ge p (10 ^ (k + 28)) with fits | longer
    · exact .inr (.inl (rounded_eq least tall.le fits))
    · exact .inr (.inr ⟨longer, power_le_rounded (by omega) longer⟩)

theorem rounded_le_iff (least : tiny ≤ k) (even : Even n) (long : 10 ^ 27 ≤ n) (few : n < 10 ^ 28) :
    rounded p ≤ n * 10 ^ k ↔ p ≤ (n + 1 / 2) * 10 ^ k := by
  have unit : (0 : ℚ) < 10 ^ k := by positivity
  have long' : (10 : ℚ) ^ 27 ≤ n := by exact_mod_cast long
  have few' : (n : ℚ) + 1 ≤ 10 ^ 28 := by exact_mod_cast few
  rcases rounded_three p least with ⟨short, low⟩ | fits | ⟨longer, high⟩
  · have room : (10 : ℚ) ^ 27 * 10 ^ k ≤ n * 10 ^ k := mul_le_mul_of_nonneg_right long' unit.le
    exact iff_of_true (low.trans room) (by rw [add_mul]; linarith)
  · rw [fits, mul_le_mul_iff_left₀ unit, Int.cast_le, roundEven_le_even even, div_le_iff₀ unit]
  · have room : ((n : ℚ) + 1) * 10 ^ k ≤ 10 ^ 28 * 10 ^ k := mul_le_mul_of_nonneg_right few' unit.le
    refine iff_of_false (not_le.mpr ?_) (not_le.mpr ?_) <;> linarith

theorem le_rounded_iff (least : tiny ≤ k) (even : Even n) (long : 10 ^ 27 < n) (few : n < 10 ^ 28) :
    n * 10 ^ k ≤ rounded p ↔ (n - 1 / 2) * 10 ^ k ≤ p := by
  have unit : (0 : ℚ) < 10 ^ k := by positivity
  have long' : (10 : ℚ) ^ 27 + 1 ≤ n := by exact_mod_cast long
  have few' : (n : ℚ) + 1 ≤ 10 ^ 28 := by exact_mod_cast few
  rcases rounded_three p least with ⟨short, low⟩ | fits | ⟨longer, high⟩
  · have room : ((10 : ℚ) ^ 27 + 1) * 10 ^ k ≤ n * 10 ^ k := mul_le_mul_of_nonneg_right long' unit.le
    refine iff_of_false (not_le.mpr ?_) (not_le.mpr ?_) <;> linarith
  · rw [fits, mul_le_mul_iff_left₀ unit, Int.cast_le, even_le_roundEven even, le_div_iff₀ unit]
  · have room : ((n : ℚ) + 1) * 10 ^ k ≤ 10 ^ 28 * 10 ^ k := mul_le_mul_of_nonneg_right few' unit.le
    refine iff_of_true ?_ ?_ <;> linarith

/-- 28 digits hold the number, wherever its point is. -/
def FewDigits (q : ℚ) : Prop := ∃ (m : Nat) (k : Int), |q| = scaled m k ∧ m < 10 ^ 28

theorem FewDigits.shift (h : FewDigits q) (k : ℕ) : FewDigits (q * 10 ^ k) := by
  obtain ⟨m, j, size, few⟩ := h
  refine ⟨m, j + k, ?_, few⟩
  rw [abs_mul, size, abs_of_pos (by positivity), scaled, scaled, ten_zpow_add]
  ring

theorem rounded_few {m : ℕ} (size : |q| = scaled m k) (few : m < 10 ^ 28) (least : tiny ≤ k) :
    rounded q = q := by
  have kept : rounded |q| = |q| := by
    by_cases none : m = 0
    · have nothing : |q| = 0 := by rw [size, none]; simp [scaled]
      rw [nothing, rounded_zero]
    · have digits := digitCount_le (by decide) few
      have hprecision : (precision : Int) = 28 := rfl
      have place : lastPlace (scaled m k) ≤ k := by
        rw [lastPlace_scaled none]
        omega
      rw [size, rounded_short place]
  rcases abs_choice q with eq | eq <;> rw [eq] at kept
  · exact kept
  · rw [rounded_neg] at kept
    linarith

/-- Rounded to 28 digits first, a number that they hold comes to the same whole number. Below the
working range, where digits get lost, that is nothing. -/
theorem FewDigits.roundEven_rounded (h : FewDigits q) : roundEven (rounded q) = roundEven q := by
  obtain ⟨m, k, size, few⟩ := h
  by_cases least : tiny ≤ k
  · rw [rounded_few size few least]
  · have htiny : tiny = -1000026 := rfl
    have below : |q| ≤ 10 ^ (-1 : ℤ) :=
      size.trans_le ((scaled_lt_iff.mpr few).le.trans (ten_zpow_le (by omega)))
    have below' : |rounded q| ≤ 10 ^ (-1 : ℤ) := by
      rw [abs_rounded]
      exact rounded_le_power (by decide) below
    have nothing {r : ℚ} (small : |r| ≤ 10 ^ (-1 : ℤ)) : roundEven r = 0 := by
      refine roundEven_eq (.inl ?_)
      rw [Int.cast_zero, sub_zero, abs_mul, abs_two]
      norm_num at small
      linarith
    rw [nothing below, nothing below']

theorem toRat_finite (negative : Bool) (c : Nat) (e : Int) :
    (Decimal.finite negative c e).toRat = if negative then -scaled c e else scaled c e := rfl

theorem truncate_nat (negative : Bool) (c : Nat) :
    truncate negative c 0 = if negative then -(c : Int) else c :=
  truncate_exact negative rfl

theorem toIntegral_nearest (negative : Bool) (c : Nat) (e : Int) :
    ∃ c' e', toIntegral (.finite negative c e) = .ok (.finite negative c' e') ∧
      truncate negative c' e' = roundEven (Decimal.finite negative c e).toRat := by
  have signed {n : ℕ} (near : roundEven (scaled c e) = n) :
      (if negative then -(n : Int) else n) = roundEven (Decimal.finite negative c e).toRat := by
    rw [toRat_finite, ← near]
    cases negative with
    | true => exact (roundEven_neg _).symm
    | false => rfl
  unfold toIntegral
  dsimp only
  by_cases whole : 0 ≤ e
  · obtain ⟨j, rfl⟩ := Int.eq_ofNat_of_zero_le whole
    have value : scaled c j = (c * tenTo j : ℕ) := by
      have shifted := (scaled_mul_tenTo c j 0).symm
      rwa [zero_add, Money.scaled_zero_exponent] at shifted
    refine ⟨c, j, if_pos whole, (truncate_exact negative (n := c * tenTo j) ?_).trans (signed ?_)⟩
    · rw [value, Money.scaled_zero_exponent]
    · rw [value]
      exact roundEven_intCast (c * tenTo j : ℕ)
  · obtain ⟨j, hj⟩ := Int.eq_ofNat_of_zero_le (show 0 ≤ -e by omega)
    obtain rfl : e = -j := by omega
    refine ⟨_, 0, if_neg whole, (truncate_nat _ _).trans (signed ?_)⟩
    have part : scaled c (-j) = c / (10 ^ j : ℕ) := by
      unfold scaled
      rw [zpow_neg, zpow_natCast, div_eq_mul_inv]
      push_cast
      rfl
    rw [part, roundEven_dropDigits]
    unfold rescale
    by_cases none : c = 0
    · subst none
      rw [if_pos rfl, ← roundEven_dropDigits, Nat.cast_zero, zero_div]
      exact roundEven_intCast 0
    · rw [if_neg none, if_neg (by omega), Int.zero_sub, Int.neg_neg, Int.toNat_natCast]

end Decimal

namespace Money

open Decimal

variable {p q : ℚ} {x : Decimal}

/-- The satoshis of an amount: what it comes to, rounded to 28 digits and then to a whole number. -/
theorem toSats_eq (h : x.Worth q) : toSats x =
    if |rounded (q * 10 ^ 8)| < 10 ^ (maxExponent + 1) then .ok (roundEven (rounded (q * 10 ^ 8)))
    else .error (.defect (.arithmetic .overflow)) := by
  have unit : coin.Worth (10 ^ 8) := ⟨rfl, by simp [coin, toRat, scaled, satsPerCoin]; norm_num⟩
  have product := mul_rounds h unit
  unfold Rounds at product
  unfold toSats
  split_ifs at product ⊢
  · obtain ⟨y, made, worth⟩ := product
    obtain ⟨n, c, e, rfl⟩ := worth.finite
    obtain ⟨c', e', whole, near⟩ := toIntegral_nearest n c e
    rw [made]
    change (do let y ← toIntegral (.finite n c e); wholeNumber y : Except Failure Int) = _
    rw [whole]
    exact congrArg Except.ok (near.trans (by rw [worth.2]))
  · rw [product]
    rfl

/-- Amounts come to nothing up to half a satoshi and half of the last place of that. -/
theorem sats_le_zero_iff : roundEven (rounded p) ≤ 0 ↔ p ≤ 1 / 2 + 5 / 10 ^ 29 := by
  have half : (1 / 2 : ℚ) = (5 * 10 ^ 27 : ℤ) * 10 ^ (-28 : ℤ) := by norm_num
  have beyond : ((5 * 10 ^ 27 : ℤ) + 1 / 2 : ℚ) * 10 ^ (-28 : ℤ) = 1 / 2 + 5 / 10 ^ 29 := by norm_num
  rw [roundEven_le_even Even.zero, Int.cast_zero, zero_add, half,
    rounded_le_iff (by decide) (by decide) (by decide) (by decide), beyond, half]

theorem le_sats_iff : 2 ^ 63 ≤ roundEven (rounded p) ↔ 2 ^ 63 - 1 / 2 - 5 / 10 ^ 10 ≤ p := by
  have half : ((2 ^ 63 : ℤ) - 1 / 2 : ℚ) =
      (9223372036854775807500000000 : ℤ) * 10 ^ (-9 : ℤ) := by norm_num
  have before : ((9223372036854775807500000000 : ℤ) - 1 / 2 : ℚ) * 10 ^ (-9 : ℤ) =
      2 ^ 63 - 1 / 2 - 5 / 10 ^ 10 := by norm_num
  rw [even_le_roundEven (by decide), half,
    le_rounded_iff (by decide) (by decide) (by decide) (by decide), before]

theorem toSats_few (worth : x.Worth q) (few : FewDigits q) (small : |q| < 10 ^ 20) :
    toSats x = .ok (roundEven (q * 10 ^ 8)) := by
  have few' : FewDigits (q * 10 ^ 8) := few.shift 8
  have small' : |q * 10 ^ 8| ≤ 10 ^ (28 : ℤ) := by
    rw [abs_mul, abs_of_pos (show (0 : ℚ) < 10 ^ 8 by norm_num)]
    calc |q| * 10 ^ 8 ≤ 10 ^ 20 * 10 ^ 8 := mul_le_mul_of_nonneg_right small.le (by norm_num)
      _ = 10 ^ (28 : ℤ) := by norm_num
  have held : |rounded (q * 10 ^ 8)| < 10 ^ (maxExponent + 1) := by
    rw [abs_rounded]
    exact (rounded_le_power (by decide) small').trans_lt (ten_zpow_lt.mpr (by decide))
  rw [toSats_eq worth, if_pos held, few'.roundEven_rounded]

/-- An amount that 28 digits hold, below 10²⁰ in coin, has the nearest whole number of satoshis, a tie
going to the even one. It is therefore off by half of one at most, greater amounts have no fewer, and
the negated amount has as many, negated. -/
theorem toSats_nearest (worth : x.Worth q) (few : FewDigits q) (small : |q| < 10 ^ 20) :
    ∃ sats, toSats x = .ok sats ∧ Nearest (q * 10 ^ 8) sats ∧ |sats - q * 10 ^ 8| ≤ 1 / 2 ∧
      ∀ {y : Decimal} {p : ℚ}, y.Worth p → FewDigits p → |p| < 10 ^ 20 →
        ∃ sats', toSats y = .ok sats' ∧ (q ≤ p → sats ≤ sats') ∧ (p = -q → sats' = -sats) := by
  have nearest := nearest_roundEven (q * 10 ^ 8)
  refine ⟨_, toSats_few worth few small, nearest, ?_, fun worth' few' small' =>
    ⟨_, toSats_few worth' few' small', fun le => ?_, ?_⟩⟩
  · exact nearest.off
  · exact roundEven_mono (mul_le_mul_of_nonneg_right le (by norm_num))
  · rintro rfl
    rw [neg_mul, roundEven_neg]

theorem toSats_nearest_half : ∃ q : ℚ, FewDigits q ∧ |q| < 10 ^ 20 ∧
    (Decimal.finite true 1234567890123456789123456785 (-9)).Worth q ∧
      toSats (.finite true 1234567890123456789123456785 (-9)) = .ok (-123456789012345678912345678) ∧
        Nearest (q * 10 ^ 8) (-123456789012345678912345678) := by
  let q := (Decimal.finite true 1234567890123456789123456785 (-9)).toRat
  have few : FewDigits q := ⟨_, _, abs_toRat _ _ _, by decide⟩
  have small : |q| < 10 ^ 20 := by
    rw [abs_toRat]
    norm_num [scaled]
  have value : toSats (.finite true 1234567890123456789123456785 (-9)) =
      .ok (-123456789012345678912345678) := rfl
  obtain ⟨sats, held, nearest, -⟩ := toSats_nearest (worth_finite _ _ _) few small
  obtain rfl := Except.ok.inj (held.symm.trans value)
  exact ⟨q, few, small, worth_finite _ _ _, value, nearest⟩

end Money

end Faucet
