import Mathlib.Algebra.Order.Floor.Semifield
import Mathlib.Data.Rat.Floor
import Faucet.Proofs.Settling

/-!
What a merge leaves of the outputs that it spends. As long as no result on the way needs rounding,
the estimate is the exact one: the size of the transaction at the rate of the fee, taken off the
total, and the difference cut towards zero to whole satoshis.
-/

set_option autoImplicit false

namespace Faucet

namespace Decimal

variable {n : Bool} {c : Nat} {e : Int} {x y : Decimal} {p q : ℚ}

theorem worth_negate (h : y.Worth q) : (negate y).Worth (-q) := by
  obtain ⟨n, c, e, rfl⟩ := h.finite
  obtain rfl := h.2
  refine ⟨rfl, ?_⟩
  cases n <;> simp [negate, toRat]

theorem sub_exact (hx : x.Worth p) (hy : y.Worth q) (h : Short (p - q)) :
    ∃ z, sub x y = .ok z ∧ z.Worth (p - q) := by
  rw [sub_eq_add_neg] at h ⊢
  exact add_exact hx (worth_negate hy) h

theorem le_zero_eq (hx : x.Worth p) : x.le .zero = .ok (decide (p ≤ 0)) := by
  obtain ⟨n, c, e, rfl⟩ := hx.finite
  obtain rfl := hx.2
  by_cases none : c = 0
  · subst none
    cases n <;> simp [le, order, compare?, zero, toRat, scaled]
  · have filled := scaled_pos none e
    cases n
    · simp [le, order, compare?, zero, toRat, none, not_le.mpr filled]
    · simp [le, order, compare?, zero, toRat, none, filled.le]

theorem rescale_down (c : Nat) (e k : Int) : rescale .down c e k = ⌊scaled c (e - k)⌋₊ := by
  unfold rescale
  by_cases none : c = 0
  · subst none
    simp [scaled]
  rw [if_neg none]
  by_cases up : k ≤ e
  · obtain ⟨j, hj⟩ := Int.eq_ofNat_of_zero_le (show 0 ≤ e - k by omega)
    have whole : scaled c j = (c * tenTo j : Nat) := by
      have power : tenTo j = 10 ^ j := rfl
      unfold scaled
      rw [power, zpow_natCast, Nat.cast_mul, Nat.cast_pow]
      rfl
    rw [if_pos up, hj, Int.toNat_natCast, whole, Nat.floor_natCast]
  · obtain ⟨j, hj⟩ := Int.eq_ofNat_of_zero_le (show 0 ≤ k - e by omega)
    have below : e - k = -(j : Int) := by omega
    have part : scaled c (-(j : Int)) = (c : ℚ) / (tenTo j : Nat) := by
      have power : tenTo j = 10 ^ j := rfl
      unfold scaled
      rw [power, zpow_neg, zpow_natCast, div_eq_mul_inv, Nat.cast_pow]
      rfl
    rw [if_neg up, hj, Int.toNat_natCast, below, part, Nat.floor_div_eq_div]
    unfold dropDigits Rounding.quotient
    split
    · rename_i short
      have small : c < tenTo j :=
        (lt_tenTo_digitCount c).trans_le (Nat.pow_le_pow_right (by decide) (by omega))
      rw [Nat.div_eq_of_lt small]
    · rfl

theorem quantize_down {target : Int} (few : ⌊scaled c (e - target)⌋₊ < 10 ^ 28) :
    quantize .down (.finite n c e) target = .ok (.finite n ⌊scaled c (e - target)⌋₊ target) := by
  have hprecision : (precision : Int) = 28 := rfl
  unfold quantize
  dsimp only
  by_cases none : c = 0
  · subst none
    simp [scaled]
  rw [if_neg none, rescale_down]
  have room : Text.digitCount ⌊scaled c (e - target)⌋₊ ≤ precision := digitCount_le (by decide) few
  have small : scaled c (e - target) < 10 ^ (28 : Int) := by
    have below := (Nat.floor_lt (scaled_nonneg c (e - target))).mp few
    exact_mod_cast below
  have top := digitCount_add_le none small
  rw [if_neg (by omega), if_neg (Nat.not_lt.mpr room)]

theorem worth_ofInt (n : Int) : (ofInt n).Worth n := by
  refine ⟨rfl, ?_⟩
  unfold ofInt toRat
  dsimp only
  rw [Money.scaled_zero_exponent, Nat.cast_natAbs, Int.cast_abs]
  by_cases negative : n < 0
  · have below : (n : ℚ) < 0 := by exact_mod_cast negative
    simp [negative, abs_of_neg below]
  · have above : (0 : ℚ) ≤ n := by exact_mod_cast Int.not_lt.mp negative
    simp [negative, abs_of_nonneg above]

end Decimal

open Decimal

namespace Merge

/-- The size of the transaction that merges so many outputs: the memo takes an output of its own. -/
def bytes (m : Merge) (count : Nat) : ℚ := 10.5 + 148 * count + 31 * (if m.memo = [] then 1 else 2)

def cost (m : Merge) (count : Nat) : ℚ := m.bytes count * m.feeRate.toRat / 10 ^ 8

def total (us : List Unspent) : ℚ := (us.map (·.amount.toRat)).sum

def rest (m : Merge) (us : List Unspent) : ℚ := total us - m.cost us.length

/-- The fee and what is left need no rounding, and what is left has 28 digits once it is cut. -/
structure Charges (m : Merge) (us : List Unspent) : Prop where
  base : Short (10.5 + 148 * us.length)
  size : Short (m.bytes us.length)
  rated : Short (m.bytes us.length * m.feeRate.toRat)
  cost : Short (m.cost us.length)
  rest : Short (m.rest us)
  cut : ⌊|m.rest us| * 10 ^ 8⌋₊ < 10 ^ 28

variable {m : Merge} {us : List Unspent} {sum : Decimal}

end Merge

end Faucet
