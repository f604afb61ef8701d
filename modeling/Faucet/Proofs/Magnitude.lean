import Mathlib.Algebra.Order.Field.Power
import Mathlib.Algebra.Order.Field.Rat
import Mathlib.Tactic.GCongr
import Mathlib.Tactic.Linarith
import Mathlib.Tactic.NormNum
import Mathlib.Tactic.Positivity
import Mathlib.Tactic.Ring
import Faucet.Wallet.Call

/-!
How large decimals get. A power of ten can be written with one digit, so that a sum that passes it
by less than half of the last place is rounded back to it: small amounts may be added without end.
-/

set_option autoImplicit false

namespace Faucet

namespace Decimal

def scaled (c : Nat) (e : Int) : ℚ := c * 10 ^ e

def Within (b : Int) : Decimal → Prop
  | .finite _ c e => scaled c e ≤ 10 ^ b
  | _ => False

theorem digitCount_pos (c : Nat) : 0 < Text.digitCount c := Nat.length_toDigits_pos

theorem lt_tenTo_digitCount (c : Nat) : c < 10 ^ Text.digitCount c :=
  (Nat.length_toDigits_le_iff (by decide) (digitCount_pos c)).mp (Nat.le_refl _)

theorem digitCount_le {c k : Nat} (hk : 0 < k) (h : c < 10 ^ k) : Text.digitCount c ≤ k :=
  (Nat.length_toDigits_le_iff (by decide) hk).mpr h

theorem tenTo_digitCount_le {c : Nat} (hc : c ≠ 0) : 10 ^ (Text.digitCount c - 1) ≤ c := by
  by_contra h
  rw [Nat.not_le] at h
  have pos := digitCount_pos c
  by_cases one : Text.digitCount c = 1
  · rw [one] at h
    omega
  · have := digitCount_le (by omega) h
    omega

theorem scaled_lt (c : Nat) (e : Int) : scaled c e < 10 ^ (Text.digitCount c + e) := by
  have h : (c : ℚ) < 10 ^ Text.digitCount c := by exact_mod_cast lt_tenTo_digitCount c
  rw [zpow_add₀ (by norm_num), zpow_natCast]
  exact mul_lt_mul_of_pos_right h (by positivity)

theorem le_scaled {c : Nat} (hc : c ≠ 0) (e : Int) :
    10 ^ (Text.digitCount c + e - 1) ≤ scaled c e := by
  have h : (10 : ℚ) ^ (Text.digitCount c - 1) ≤ c := by exact_mod_cast tenTo_digitCount_le hc
  have pos := digitCount_pos c
  have split : (Text.digitCount c + e - 1 : Int) = ((Text.digitCount c - 1 : Nat) : Int) + e := by
    omega
  rw [split, zpow_add₀ (by norm_num), zpow_natCast]
  exact mul_le_mul_of_nonneg_right h (by positivity)

theorem scaled_mul_tenTo (c k : Nat) (e : Int) : scaled (c * tenTo k) e = scaled c (e + k) := by
  have power : tenTo k = 10 ^ k := rfl
  unfold scaled
  rw [power, zpow_add₀ (by norm_num), zpow_natCast]
  push_cast
  ring

theorem ten_zpow_lt {m n : Int} : (10 : ℚ) ^ m < 10 ^ n ↔ m < n :=
  zpow_lt_zpow_iff_right₀ (by norm_num)

theorem ten_zpow_le {m n : Int} (h : m ≤ n) : (10 : ℚ) ^ m ≤ 10 ^ n :=
  zpow_le_zpow_right₀ (by norm_num) h

theorem ten_zpow_succ (n : Int) : (10 : ℚ) ^ (n + 1) = 10 ^ n * 10 :=
  zpow_add_one₀ (by norm_num) n

theorem digitCount_add_le {c : Nat} {e b : Int} (hc : c ≠ 0) (h : scaled c e < 10 ^ b) :
    Text.digitCount c + e ≤ b := by
  have := ten_zpow_lt.mp (lt_of_le_of_lt (le_scaled hc e) h)
  omega

/-- A quotient that passes a whole number by less than a half is rounded back to it. -/
theorem halfEven_le {n d B : Nat} (h : 2 * n < (2 * B + 1) * d) :
    Rounding.halfEven.quotient n d ≤ B := by
  have divided := Nat.div_add_mod n d
  have most : n / d ≤ B := by
    refine Nat.lt_succ_iff.mp (Nat.div_lt_of_lt_mul ?_)
    nlinarith
  rcases Nat.lt_or_ge (n / d) B with below | above
  · unfold Rounding.quotient
    dsimp only
    split
    · omega
    · split
      · omega
      · split <;> omega
  · -- The whole number is the quotient, so that less than half of the divisor is left.
    have whole : n / d = B := Nat.le_antisymm most above
    rw [whole] at divided
    have left : 2 * (n % d) < d := by nlinarith
    unfold Rounding.quotient
    dsimp only
    rw [if_pos left]
    exact most

theorem dropDigits_le {c k B : Nat} (h : 2 * c < (2 * B + 1) * tenTo k) :
    dropDigits .halfEven c k ≤ B := by
  unfold dropDigits
  split
  · exact Nat.zero_le B
  · exact halfEven_le h

theorem dropDigits_zero (c : Nat) : dropDigits .halfEven c 0 = c := by
  unfold dropDigits Rounding.quotient
  rw [if_neg (Nat.not_lt_zero _), tenTo_zero]
  dsimp only
  rw [Nat.div_one, Nat.mod_one, if_pos (by decide)]

theorem scaled_div_ten_le (c : Nat) (e : Int) : scaled (c / 10) (e + 1) ≤ scaled c e := by
  have cut : ((c / 10 * 10 : Nat) : ℚ) ≤ c := by exact_mod_cast Nat.div_mul_le_self c 10
  have shift : scaled (c / 10) (e + 1) = scaled (c / 10 * 10) e :=
    (scaled_mul_tenTo (c / 10) 1 e).symm
  rw [shift]
  exact mul_le_mul_of_nonneg_right cut (by positivity)

/-- A number that passes a power of ten by less than half of the place it is rounded to comes back
to that power. -/
theorem scaled_dropDigits_le {c : Nat} {e last b : Int} (he : e ≤ last) (hb : last ≤ b)
    (h : scaled c e < 10 ^ b + 10 ^ last / 2) :
    scaled (dropDigits .halfEven c (last - e).toNat) last ≤ 10 ^ b := by
  obtain ⟨k, hk⟩ := Int.eq_ofNat_of_zero_le (Int.sub_nonneg_of_le he)
  obtain ⟨m, hm⟩ := Int.eq_ofNat_of_zero_le (Int.sub_nonneg_of_le hb)
  obtain rfl : last = e + k := by omega
  obtain rfl : b = e + k + m := by omega
  have unit : (0 : ℚ) < 10 ^ e := by positivity
  have wide : 2 * c < (2 * 10 ^ m + 1) * tenTo k := by
    have power : tenTo k = 10 ^ k := rfl
    rw [power]
    unfold scaled at h
    rw [zpow_add₀ (by norm_num), zpow_add₀ (by norm_num), zpow_natCast, zpow_natCast] at h
    have : (2 * c : ℚ) < (2 * 10 ^ m + 1) * 10 ^ k := by
      refine lt_of_mul_lt_mul_right ?_ unit.le
      linarith
    exact_mod_cast this
  have few : ((dropDigits .halfEven c k : Nat) : ℚ) ≤ 10 ^ m := by
    exact_mod_cast dropDigits_le wide
  have shift : (e + k - e : Int).toNat = k := by omega
  rw [shift]
  unfold scaled
  rw [add_comm (e + k : Int), zpow_add₀ (by norm_num) (m : Int), zpow_natCast]
  exact mul_le_mul_of_nonneg_right few (by positivity)

theorem within_zero (n : Bool) (e b : Int) : (Decimal.finite n 0 e).Within b := by
  change ((0 : Nat) : ℚ) * 10 ^ e ≤ 10 ^ b
  rw [Nat.cast_zero, zero_mul]
  positivity

/-- Rounding into precision and range does not fail near a power of ten, and does not pass it. -/
theorem fit_within (n : Bool) {c : Nat} {e b : Int} (lo : 0 ≤ b) (hi : b ≤ 900000)
    (h : scaled c e ≤ 10 ^ b + 10 ^ (b - 28)) : ∃ z, fit n c e = .ok z ∧ z.Within b := by
  unfold fit
  by_cases zero : c = 0
  · rw [if_pos zero]
    exact ⟨_, rfl, within_zero n _ b⟩
  have small : scaled c e < 10 ^ (b + 1) := by
    have : (10 : ℚ) ^ (b - 28) ≤ 10 ^ b := ten_zpow_le (by omega)
    have : (0 : ℚ) < 10 ^ b := by positivity
    rw [ten_zpow_succ]
    linarith
  have top := digitCount_add_le zero small
  rw [if_neg zero, if_neg (by unfold maxExponent; omega)]
  dsimp only
  generalize hlast : max tiny (Text.digitCount c + e - precision) = last
  have hprecision : (precision : Int) = 28 := rfl
  have htiny : tiny = -1000026 := rfl
  have hmax : maxExponent = 999999 := rfl
  -- Either the number has room up to the power of ten, or it reaches to its last place.
  have near : scaled c e < 10 ^ b + 10 ^ last / 2 := by
    have half : (0 : ℚ) < 10 ^ last / 2 := by positivity
    by_cases room : Text.digitCount c + e ≤ b
    · have := lt_of_lt_of_le (scaled_lt c e) (ten_zpow_le room)
      linarith
    · have place : (10 : ℚ) ^ (b - 28) * 10 ≤ 10 ^ last := by
        rw [← ten_zpow_succ]
        exact ten_zpow_le (by omega)
      have : (0 : ℚ) < 10 ^ (b - 28) := by positivity
      linarith
  by_cases fits : last ≤ e
  · rw [if_pos fits]
    have kept : scaled (dropDigits .halfEven c (e - e).toNat) e ≤ 10 ^ b := by
      refine scaled_dropDigits_le (Int.le_refl e) (by have := digitCount_pos c; omega) ?_
      have : (10 : ℚ) ^ last ≤ 10 ^ e := ten_zpow_le fits
      linarith
    rw [Int.sub_self, Int.toNat_zero, dropDigits_zero] at kept
    exact ⟨_, rfl, kept⟩
  · rw [if_neg fits]
    have rounded := scaled_dropDigits_le (by omega) (by omega) near
    by_cases short : Text.digitCount (dropDigits .halfEven c (last - e).toNat) ≤ precision
    · rw [if_pos short]
      exact ⟨_, rfl, rounded⟩
    · rw [if_neg short, if_neg (by omega)]
      exact ⟨_, rfl, le_trans (scaled_div_ten_le _ last) rounded⟩

theorem addSigned_le (n₁ : Bool) (c₁ : Nat) (n₂ : Bool) (c₂ : Nat) :
    (addSigned n₁ c₁ n₂ c₂).2 ≤ c₁ + c₂ := by
  unfold addSigned
  split
  · exact Nat.le_refl _
  · split
    · exact Nat.le_trans (Nat.sub_le c₁ c₂) (Nat.le_add_right c₁ c₂)
    · split
      · exact Nat.le_trans (Nat.sub_le c₂ c₁) (Nat.le_add_left c₂ c₁)
      · exact Nat.zero_le _

/-- What replaces a part that is too small to count is small itself. -/
theorem raise_spec {c₁ c₂ : Nat} {e₁ e₂ b : Int} (he : e₂ ≤ e₁) (h₁ : scaled c₁ e₁ ≤ 10 ^ b)
    {M : ℚ} (h₂ : scaled c₂ e₂ ≤ M) (hM : 10 ^ (b - 28) ≤ M) :
    (raise c₁ e₁ c₂ e₂).2 ≤ e₁ ∧ scaled (raise c₁ e₁ c₂ e₂).1 (raise c₁ e₁ c₂ e₂).2 ≤ M := by
  unfold raise
  dsimp only
  generalize hfloor : e₁ - 1 + (if precision < Text.digitCount c₁ then 0
    else (Text.digitCount c₁ : Int) - precision - 1) = floor
  split
  · rename_i replaced
    have top := ten_zpow_lt.not.mp (not_lt_of_ge (le_trans (le_scaled replaced.1 e₁) h₁))
    have pos := digitCount_pos c₁
    have hprecision : (precision : Int) = 28 := rfl
    have low : floor ≤ b - 28 ∧ floor ≤ e₁ := by
      split at hfloor <;> omega
    refine ⟨low.2, le_trans (le_trans ?_ (ten_zpow_le low.1)) hM⟩
    unfold scaled
    have : ((if c₂ = 0 then 0 else 1 : Nat) : ℚ) ≤ 1 := by
      split <;> norm_num
    have : (0 : ℚ) < 10 ^ floor := by positivity
    nlinarith
  · exact ⟨he, h₂⟩

theorem addAligned_within {n₁ n₂ : Bool} {c₁ c₂ : Nat} {e₁ e₂ b : Int} (lo : 0 ≤ b)
    (hi : b ≤ 900000) (he : e₂ ≤ e₁)
    (h : scaled c₁ e₁ ≤ 10 ^ b ∧ scaled c₂ e₂ ≤ 10 ^ (b - 28) ∨
      scaled c₁ e₁ ≤ 10 ^ (b - 28) ∧ scaled c₂ e₂ ≤ 10 ^ b) :
    ∃ z, addAligned n₁ c₁ e₁ n₂ c₂ e₂ = .ok z ∧ z.Within b := by
  have less : (10 : ℚ) ^ (b - 28) ≤ 10 ^ b := ten_zpow_le (by omega)
  have raised : (raise c₁ e₁ c₂ e₂).2 ≤ e₁ ∧
      scaled c₁ e₁ + scaled (raise c₁ e₁ c₂ e₂).1 (raise c₁ e₁ c₂ e₂).2 ≤
        10 ^ b + 10 ^ (b - 28) := by
    rcases h with ⟨h₁, h₂⟩ | ⟨h₁, h₂⟩
    · have := raise_spec he h₁ h₂ (le_refl _)
      exact ⟨this.1, by linarith [this.2]⟩
    · have := raise_spec he (le_trans h₁ less) h₂ less
      exact ⟨this.1, by linarith [this.2]⟩
  unfold addAligned
  generalize raise c₁ e₁ c₂ e₂ = small at raised
  obtain ⟨c, e⟩ := small
  obtain ⟨below, total⟩ := raised
  dsimp only at below total ⊢
  have shifted : (if c₁ = 0 then 0 else c₁ * tenTo (e₁ - e).toNat) = c₁ * tenTo (e₁ - e).toNat := by
    split
    · rename_i zero
      rw [zero, Nat.zero_mul]
    · rfl
  rw [shifted]
  refine fit_within _ lo hi (le_trans ?_ total)
  have same : scaled c₁ e₁ = scaled (c₁ * tenTo (e₁ - e).toNat) e := by
    rw [scaled_mul_tenTo]
    congr 1
    omega
  rw [same]
  have sum : ((addSigned n₁ (c₁ * tenTo (e₁ - e).toNat) n₂ c).2 : ℚ) ≤
      (c₁ * tenTo (e₁ - e).toNat : Nat) + c := by
    exact_mod_cast addSigned_le n₁ _ n₂ c
  unfold scaled
  rw [← add_mul]
  exact mul_le_mul_of_nonneg_right sum (by positivity)

theorem add_within {x y : Decimal} {b : Int} (lo : 0 ≤ b) (hi : b ≤ 900000) (hx : x.Within b)
    (hy : y.Within (b - 28)) : ∃ z, add x y = .ok z ∧ z.Within b := by
  cases x with
  | infinite => exact hx.elim
  | nan => exact hx.elim
  | finite n₁ c₁ e₁ =>
    cases y with
    | infinite => exact hy.elim
    | nan => exact hy.elim
    | finite n₂ c₂ e₂ =>
      change ∃ z, (if e₂ ≤ e₁ then addAligned n₁ c₁ e₁ n₂ c₂ e₂ else addAligned n₂ c₂ e₂ n₁ c₁ e₁) =
        .ok z ∧ z.Within b
      split
      · exact addAligned_within lo hi (by assumption) (.inl ⟨hx, hy⟩)
      · exact addAligned_within lo hi (by omega) (.inr ⟨hy, hx⟩)

theorem foldlM_add_within {xs : List Decimal} {x : Decimal} {b : Int} (lo : 0 ≤ b) (hi : b ≤ 900000)
    (hx : x.Within b) (hxs : ∀ y ∈ xs, y.Within (b - 28)) :
    ∃ z, xs.foldlM add x = .ok z ∧ z.Within b := by
  induction xs generalizing x with
  | nil => exact ⟨x, rfl, hx⟩
  | cons y xs ih =>
    obtain ⟨z, hz, within⟩ := add_within lo hi hx (hxs y List.mem_cons_self)
    obtain ⟨total, ht, htotal⟩ := ih within fun y hy => hxs y (List.mem_cons_of_mem _ hy)
    refine ⟨total, ?_, htotal⟩
    rw [List.foldlM_cons, hz]
    exact ht

theorem sum_within {xs : List Decimal} {b : Int} (lo : 0 ≤ b) (hi : b ≤ 900000)
    (hxs : ∀ y ∈ xs, y.Within (b - 28)) : ∃ z, sum xs = .ok z ∧ z.Within b :=
  foldlM_add_within lo hi (within_zero false 0 b) hxs

theorem Within.mono {x : Decimal} {b b' : Int} (h : x.Within b) (hb : b ≤ b') : x.Within b' := by
  cases x with
  | finite n c e => exact le_trans h (ten_zpow_le hb)
  | infinite => exact h
  | nan => exact h

theorem scaled_stripZeros (fuel c : Nat) (e ideal : Int) :
    scaled (stripZeros fuel c e ideal).1 (stripZeros fuel c e ideal).2 = scaled c e := by
  induction fuel generalizing c e with
  | zero => rfl
  | succ fuel ih =>
    unfold stripZeros
    split
    · rename_i cut
      rw [ih]
      have whole : c / 10 * tenTo 1 = c := Nat.div_mul_cancel (Nat.dvd_of_mod_eq_zero cut.2)
      have shift := scaled_mul_tenTo (c / 10) 1 e
      rw [whole] at shift
      exact shift.symm
    · rfl

theorem ofSats_within {n : Int} {k : Nat} (h : n.natAbs ≤ 10 ^ k) :
    (Money.ofSats n).Within (k - 8) := by
  have few : (n.natAbs : ℚ) ≤ 10 ^ k := by exact_mod_cast h
  change scaled (stripZeros 8 n.natAbs (-8) 0).1 (stripZeros 8 n.natAbs (-8) 0).2 ≤ _
  rw [scaled_stripZeros, sub_eq_add_neg, zpow_add₀ (by norm_num), zpow_natCast]
  exact mul_le_mul_of_nonneg_right few (by positivity)

theorem lt_within {x y : Decimal} {b b' : Int} (hx : x.Within b) (hy : y.Within b') :
    ∃ less, lt x y = .ok less := by
  cases x with
  | infinite => exact hx.elim
  | nan => exact hx.elim
  | finite n₁ c₁ e₁ =>
    cases y with
    | infinite => exact hy.elim
    | nan => exact hy.elim
    | finite n₂ c₂ e₂ =>
      have found : ∃ o, compare? (.finite n₁ c₁ e₁) (.finite n₂ c₂ e₂) = some o := by
        cases n₁ <;> cases n₂ <;> dsimp only [compare?] <;> split_ifs <;> exact ⟨_, rfl⟩
      obtain ⟨o, ho⟩ := found
      unfold lt order
      rw [ho]
      exact ⟨_, rfl⟩

end Decimal

theorem Balances.available_within {t : Balances} (trusted : t.trusted.Within 19)
    (untrusted : t.untrusted.Within 19) : ∃ z, t.available = .ok z ∧ z.Within 47 :=
  Decimal.add_within (by omega) (by omega) (trusted.mono (by omega)) untrusted

end Faucet
