import Faucet.Proofs.Amounts

/-!
Arithmetic without rounding. A result that 28 digits hold is the result itself, whatever the
operands look like, and the order of finite numbers is that of what they stand for.
-/

set_option autoImplicit false

namespace Faucet

namespace Decimal

def Worth (q : ℚ) (x : Decimal) : Prop := x.isFinite = true ∧ x.toRat = q

/-- What 28 digits hold, their last place being in the working range. -/
def Short (q : ℚ) : Prop :=
  ∃ (m : Nat) (k : Int), |q| = scaled m k ∧ m < 10 ^ 28 ∧ tiny ≤ k ∧ k ≤ 999972

variable {n n₁ n₂ : Bool} {c c₁ c₂ m : Nat} {e e₁ e₂ k : Int} {x y z : Decimal} {p q : ℚ}

theorem worth_finite (n : Bool) (c : Nat) (e : Int) :
    (Decimal.finite n c e).Worth (Decimal.finite n c e).toRat := ⟨rfl, rfl⟩

theorem Worth.finite (h : x.Worth q) : ∃ n c e, x = .finite n c e := by
  cases x with
  | finite n c e => exact ⟨n, c, e, rfl⟩
  | infinite | nan => cases h.1

theorem scaled_nonneg (c : Nat) (e : Int) : 0 ≤ scaled c e := by
  unfold scaled
  positivity

theorem scaled_pos (hc : c ≠ 0) (e : Int) : 0 < scaled c e := by
  have positive : (0 : ℚ) < c := Nat.cast_pos.mpr (Nat.pos_of_ne_zero hc)
  unfold scaled
  positivity

theorem scaled_inj {c' : Nat} (h : scaled c e = scaled c' e) : c = c' := by
  have unit : (10 : ℚ) ^ e ≠ 0 := by positivity
  exact_mod_cast mul_right_cancel₀ unit h

theorem scaled_lt_iff : scaled c e < 10 ^ (28 + e) ↔ c < 10 ^ 28 := by
  unfold scaled
  rw [zpow_add₀ (by norm_num), mul_lt_mul_iff_left₀ (by positivity)]
  norm_cast

theorem abs_toRat (n : Bool) (c : Nat) (e : Int) : |(Decimal.finite n c e).toRat| = scaled c e := by
  change |if n then -scaled c e else scaled c e| = _
  split
  · rw [abs_neg, abs_of_nonneg (scaled_nonneg c e)]
  · exact abs_of_nonneg (scaled_nonneg c e)

theorem toRat_congr {c' : Nat} {e' : Int} (h : scaled c e = scaled c' e') (n : Bool) :
    (Decimal.finite n c e).toRat = (Decimal.finite n c' e').toRat := by
  change (if n then -scaled c e else scaled c e) = if n then -scaled c' e' else scaled c' e'
  rw [h]

theorem scaled_lower (c : Nat) (h : e₁ ≤ e) : scaled c e = scaled (c * tenTo (e - e₁).toNat) e₁ := by
  rw [scaled_mul_tenTo]
  congr 1
  omega

theorem tenTo_dvd_of_scaled (h : scaled c e = scaled m k) {j : Nat} (hj : e + j ≤ k) :
    tenTo j ∣ c := by
  rw [scaled_lower m (show e ≤ k by omega)] at h
  have split : (k - e).toNat = (k - e - j).toNat + j := by omega
  rw [scaled_inj h, split, tenTo_add, ← Nat.mul_assoc]
  exact Nat.dvd_mul_left _ _

theorem dropDigits_exact (mode : Rounding) {j : Nat} (some : c ≠ 0) (h : tenTo j ∣ c) :
    dropDigits mode c j = c / tenTo j := by
  have long : j ≤ Text.digitCount c := by
    have least : 10 ^ j ≤ c := Nat.le_of_dvd (Nat.pos_of_ne_zero some) h
    have within := lt_of_le_of_lt least (lt_tenTo_digitCount c)
    exact Nat.le_of_lt ((Nat.pow_lt_pow_iff_right (by decide)).mp within)
  unfold dropDigits Rounding.quotient
  rw [if_neg (Nat.not_lt.mpr long)]
  cases mode with
  | down => rfl
  | halfEven =>
    dsimp only
    rw [Nat.mod_eq_zero_of_dvd h, if_pos (tenTo_pos j)]

theorem rescale_exact (mode : Rounding) (h : scaled c e = scaled m k) : rescale mode c e k = m := by
  unfold rescale
  by_cases none : c = 0
  · subst none
    have nothing : scaled m k = scaled 0 k := by rw [← h]; simp [scaled]
    rw [if_pos rfl, scaled_inj nothing]
  rw [if_neg none]
  by_cases up : k ≤ e
  · rw [if_pos up]
    rw [scaled_lower c up] at h
    exact scaled_inj h
  · rw [if_neg up]
    have whole : tenTo (k - e).toNat ∣ c := tenTo_dvd_of_scaled h (by omega)
    rw [dropDigits_exact mode none whole]
    rw [scaled_lower m (show e ≤ k by omega)] at h
    rw [scaled_inj h, Nat.mul_div_cancel _ (tenTo_pos _)]

theorem fit_exact (h : Short (Decimal.finite n c e).toRat) :
    ∃ z, fit n c e = .ok z ∧ z.Worth (Decimal.finite n c e).toRat := by
  obtain ⟨m, k, same, few, lo, hi⟩ := h
  rw [abs_toRat] at same
  have hprecision : (precision : Int) = 28 := rfl
  have hmax : maxExponent = 999999 := rfl
  unfold fit
  by_cases none : c = 0
  · subst none
    rw [if_pos rfl]
    refine ⟨_, rfl, rfl, toRat_congr ?_ n⟩
    simp only [scaled, Nat.cast_zero, zero_mul]
  have top := digitCount_add_le none (same.trans_lt (scaled_lt_iff.mpr few))
  rw [if_neg none, if_neg (by omega)]
  dsimp only
  generalize hlast : max tiny (Text.digitCount c + e - precision) = last
  by_cases fits : last ≤ e
  · rw [if_pos fits]
    exact ⟨_, rfl, worth_finite n c e⟩
  · rw [if_neg fits]
    obtain ⟨j, hj⟩ := Int.eq_ofNat_of_zero_le (show 0 ≤ last - e by omega)
    have shift : (last - e).toNat = j := by omega
    have whole : tenTo j ∣ c := tenTo_dvd_of_scaled same (by omega)
    have kept : scaled (c / tenTo j) last = scaled c e := by
      rw [scaled_lower (c / tenTo j) (show e ≤ last by omega), shift, Nat.div_mul_cancel whole]
    have fit : c / tenTo j < 10 ^ 28 :=
      scaled_lt_iff.mp (kept ▸ lt_of_lt_of_le (scaled_lt c e) (ten_zpow_le (by omega)))
    have room : Text.digitCount (c / tenTo j) ≤ precision := digitCount_le (by decide) fit
    rw [shift, dropDigits_exact .halfEven none whole, if_pos room]
    exact ⟨_, rfl, rfl, toRat_congr kept n⟩

theorem le_halfEven (m d : Nat) : m / d ≤ Rounding.halfEven.quotient m d := by
  unfold Rounding.quotient
  dsimp only
  split
  · exact Nat.le_refl _
  · split
    · exact Nat.le_succ _
    · split
      · exact Nat.le_refl _
      · exact Nat.le_succ _

theorem le_dropDigits {j : Nat} (some : c ≠ 0) (long : Text.digitCount c = 28 + j) :
    10 ^ 27 ≤ dropDigits .halfEven c j := by
  have least := tenTo_digitCount_le some
  rw [show Text.digitCount c - 1 = 27 + j by omega, Nat.pow_add] at least
  unfold dropDigits
  rw [if_neg (by omega)]
  exact Nat.le_trans ((Nat.le_div_iff_mul_le (tenTo_pos j)).mpr least) (le_halfEven c (tenTo j))

theorem signed_of_below (below : (Decimal.finite n c e).toRat ≤ -(1 / 2)) :
    n = true ∧ c ≠ 0 ∧ -1 < Text.digitCount c + e := by
  have size := abs_toRat n c e
  rw [abs_of_neg (by linarith)] at size
  refine ⟨?_, ?_, ?_⟩
  · cases n with
    | true => rfl
    | false => exact absurd (scaled_nonneg c e) (by change scaled c e ≤ _ at below; linarith)
  · rintro rfl
    simp only [scaled, Nat.cast_zero, zero_mul] at size
    linarith
  · refine ten_zpow_lt.mp (lt_of_le_of_lt ?_ (scaled_lt c e))
    rw [zpow_neg_one]
    linarith

theorem worth_negative (some : c ≠ 0) (e : Int) : ∃ r < 0, (Decimal.finite true c e).Worth r :=
  ⟨_, neg_neg_of_pos (scaled_pos some e), worth_finite true c e⟩

/-- A number well below zero is not rounded up to zero. -/
theorem fit_neg (h : fit n c e = .ok z) (below : (Decimal.finite n c e).toRat ≤ -(1 / 2)) :
    ∃ r < 0, z.Worth r := by
  obtain ⟨rfl, some, top⟩ := signed_of_below below
  have hprecision : (precision : Int) = 28 := rfl
  have htiny : tiny = -1000026 := rfl
  unfold fit at h
  rw [if_neg some] at h
  split at h
  · cases h
  dsimp only at h
  generalize hlast : max tiny (Text.digitCount c + e - precision) = last at h
  split at h
  · cases h
    exact worth_negative some e
  obtain ⟨j, hj⟩ := Int.eq_ofNat_of_zero_le (show 0 ≤ last - e by omega)
  rw [show (last - e).toNat = j by omega] at h
  have kept := le_dropDigits some (show Text.digitCount c = 28 + j by omega)
  split at h
  · cases h
    exact worth_negative (by omega) _
  · split at h
    · cases h
    · cases h
      exact worth_negative (by omega) _

theorem toRat_addSigned (n₁ n₂ : Bool) (c₁ c₂ : Nat) (e : Int) :
    (Decimal.finite (addSigned n₁ c₁ n₂ c₂).1 (addSigned n₁ c₁ n₂ c₂).2 e).toRat =
      (Decimal.finite n₁ c₁ e).toRat + (Decimal.finite n₂ c₂ e).toRat := by
  have less : ∀ {a b : Nat}, b ≤ a → scaled (a - b) e = scaled a e - scaled b e := by
    intro a b h
    unfold scaled
    rw [Nat.cast_sub h, sub_mul]
  have more : scaled (c₁ + c₂) e = scaled c₁ e + scaled c₂ e := by
    unfold scaled
    rw [Nat.cast_add, add_mul]
  unfold addSigned
  rcases Nat.lt_trichotomy c₁ c₂ with below | equal | above
  · have apart := less (Nat.le_of_lt below)
    cases n₁ <;> cases n₂ <;> simp [toRat, more, apart, below, Nat.not_lt.mpr below.le] <;> ring
  · subst equal
    have none : scaled 0 e = 0 := by simp [scaled]
    cases n₁ <;> cases n₂ <;> simp [toRat, more, none]
  · have apart := less (Nat.le_of_lt above)
    cases n₁ <;> cases n₂ <;> simp [toRat, more, apart, above] <;> ring

def raiseFloor (c₁ : Nat) (e₁ : Int) : Int :=
  e₁ - 1 + (if precision < Text.digitCount c₁ then 0
    else (Text.digitCount c₁ : Int) - precision - 1)

theorem raiseFloor_le (c₁ : Nat) (e₁ : Int) :
    raiseFloor c₁ e₁ < e₁ ∧ raiseFloor c₁ e₁ ≤ Text.digitCount c₁ + e₁ - 30 := by
  have hprecision : (precision : Int) = 28 := rfl
  unfold raiseFloor
  split <;> omega

theorem raise_eq (c₁ : Nat) (e₁ : Int) (c₂ : Nat) (e₂ : Int) :
    raise c₁ e₁ c₂ e₂ =
      if c₁ ≠ 0 ∧ Text.digitCount c₂ + e₂ - 1 < raiseFloor c₁ e₁ then
        (if c₂ = 0 then 0 else 1, raiseFloor c₁ e₁)
      else (c₂, e₂) := rfl

theorem raise_cases (c₁ : Nat) (e₁ : Int) (c₂ : Nat) (e₂ : Int) :
    (scaled (raise c₁ e₁ c₂ e₂).1 (raise c₁ e₁ c₂ e₂).2 = scaled c₂ e₂ ∧
        ((raise c₁ e₁ c₂ e₂).2 = e₂ ∨ (raise c₁ e₁ c₂ e₂).2 < e₁)) ∨
      c₁ ≠ 0 ∧ c₂ ≠ 0 ∧ Text.digitCount c₂ + e₂ ≤ raiseFloor c₁ e₁ ∧
        raise c₁ e₁ c₂ e₂ = (1, raiseFloor c₁ e₁) := by
  have below := (raiseFloor_le c₁ e₁).1
  rw [raise_eq]
  split
  · rename_i replaced
    by_cases none : c₂ = 0
    · subst none
      refine .inl ⟨?_, .inr below⟩
      simp [scaled]
    · rw [if_neg none]
      exact .inr ⟨replaced.1, none, by omega, rfl⟩
  · exact .inl ⟨rfl, .inl rfl⟩

theorem exists_int_mul (h : |q| = scaled c e) {k : Int} (hk : k ≤ e) : ∃ i : Int, q = i * 10 ^ k := by
  rw [scaled_lower c hk] at h
  unfold scaled at h
  rcases abs_choice q with eq | eq
  · refine ⟨(c * tenTo (e - k).toNat : Nat), ?_⟩
    rw [Int.cast_natCast, ← h, eq]
  · refine ⟨-(c * tenTo (e - k).toNat : Nat), ?_⟩
    rw [Int.cast_neg, Int.cast_natCast, neg_mul, ← h, eq, neg_neg]

theorem eq_zero_of_small {i : Int} (h : |(i : ℚ) * 10 ^ k| < 10 ^ k) : i = 0 := by
  have unit : (0 : ℚ) < 10 ^ k := by positivity
  rw [abs_mul, abs_of_pos unit] at h
  have small : |(i : ℚ)| < 1 := by
    by_contra large
    have reached := mul_le_mul_of_nonneg_right (not_lt.mp large) unit.le
    linarith
  exact Int.abs_lt_one_iff.mp (by exact_mod_cast small)

/-- A small part does not bring a sum down by more than a place. -/
theorem lt_abs_add {x y : ℚ} {d : Int} (first : 10 ^ (d + 1) ≤ |x|) (small : |y| < 10 ^ d) :
    10 ^ d < |x + y| := by
  rw [ten_zpow_succ] at first
  have unit : (0 : ℚ) < 10 ^ d := by positivity
  have apart := abs_sub_abs_le_abs_sub x (-y)
  rw [abs_neg, sub_neg_eq_add] at apart
  linarith

/-- Parts that lie far from each other have no short sum. -/
theorem not_short_of_far (n₁ n₂ : Bool) (some₁ : c₁ ≠ 0) (some₂ : c₂ ≠ 0)
    (far : Text.digitCount c₂ + e₂ ≤ raiseFloor c₁ e₁) :
    ¬Short ((Decimal.finite n₁ c₁ e₁).toRat + (Decimal.finite n₂ c₂ e₂).toRat) := by
  rintro ⟨m, k, same, few, _, _⟩
  have hx := abs_toRat n₁ c₁ e₁
  have hy := abs_toRat n₂ c₂ e₂
  generalize (Decimal.finite n₁ c₁ e₁).toRat = x at same hx
  generalize (Decimal.finite n₂ c₂ e₂).toRat = y at same hy
  have pos := digitCount_pos c₁
  have low := raiseFloor_le c₁ e₁
  generalize raiseFloor c₁ e₁ = floor at far low
  have small : |y| < 10 ^ floor := hy ▸ lt_of_lt_of_le (scaled_lt c₂ e₂) (ten_zpow_le far)
  -- The sum is as large as the first part, so that its last place is above the second part.
  have large : 10 ^ (Text.digitCount c₁ + e₁ - 2) < |x + y| := by
    refine lt_abs_add ?_ (lt_of_lt_of_le small (ten_zpow_le (by omega)))
    exact le_trans (ten_zpow_le (by omega)) (hx ▸ le_scaled some₁ e₁)
  have place : floor + 1 ≤ k := by
    have bound := ten_zpow_lt.mp (large.trans (same.trans_lt (scaled_lt_iff.mpr few)))
    omega
  obtain ⟨i, hi⟩ := exists_int_mul same place
  obtain ⟨j, hj⟩ := exists_int_mul hx (show floor + 1 ≤ e₁ by omega)
  have whole : y = (i - j : Int) * 10 ^ (floor + 1) := by
    push_cast
    linarith
  have nothing : i - j = 0 := by
    refine eq_zero_of_small (k := floor + 1) ?_
    rw [← whole]
    exact lt_of_lt_of_le small (ten_zpow_le (by omega))
  rw [nothing, Int.cast_zero, zero_mul] at whole
  rw [whole, abs_zero] at hy
  exact absurd hy.symm (scaled_pos some₂ e₂).ne'

theorem addAligned_eq (n₁ : Bool) (c₁ : Nat) (e₁ : Int) (n₂ : Bool) (c₂ : Nat) (e₂ : Int) :
    ∃ n c e, addAligned n₁ c₁ e₁ n₂ c₂ e₂ = fit n c e ∧ ((raise c₁ e₁ c₂ e₂).2 ≤ e₁ →
      (Decimal.finite n c e).toRat = (Decimal.finite n₁ c₁ e₁).toRat +
        (Decimal.finite n₂ (raise c₁ e₁ c₂ e₂).1 (raise c₁ e₁ c₂ e₂).2).toRat) := by
  unfold addAligned
  generalize raise c₁ e₁ c₂ e₂ = small
  obtain ⟨c, e⟩ := small
  have shifted : (if c₁ = 0 then 0 else c₁ * tenTo (e₁ - e).toNat) = c₁ * tenTo (e₁ - e).toNat := by
    split
    · rename_i zero
      rw [zero, Nat.zero_mul]
    · rfl
  dsimp only
  rw [shifted]
  refine ⟨_, _, e, rfl, fun below => ?_⟩
  rw [toRat_addSigned, toRat_congr (scaled_lower c₁ below)]

theorem addAligned_exact (he : e₂ ≤ e₁)
    (h : Short ((Decimal.finite n₁ c₁ e₁).toRat + (Decimal.finite n₂ c₂ e₂).toRat)) :
    ∃ z, addAligned n₁ c₁ e₁ n₂ c₂ e₂ = .ok z ∧
      z.Worth ((Decimal.finite n₁ c₁ e₁).toRat + (Decimal.finite n₂ c₂ e₂).toRat) := by
  obtain ⟨n, c, e, eq, worth⟩ := addAligned_eq n₁ c₁ e₁ n₂ c₂ e₂
  rcases raise_cases c₁ e₁ c₂ e₂ with ⟨kept, below⟩ | ⟨some₁, some₂, far, _⟩
  · have worth := worth (by omega)
    rw [toRat_congr kept] at worth
    rw [← worth] at h ⊢
    rw [eq]
    exact fit_exact h
  · exact absurd h (not_short_of_far n₁ n₂ some₁ some₂ far)

theorem add_exact (hx : x.Worth p) (hy : y.Worth q) (h : Short (p + q)) :
    ∃ z, add x y = .ok z ∧ z.Worth (p + q) := by
  obtain ⟨n₁, c₁, e₁, rfl⟩ := hx.finite
  obtain ⟨n₂, c₂, e₂, rfl⟩ := hy.finite
  obtain rfl := hx.2
  obtain rfl := hy.2
  change ∃ z, (if e₂ ≤ e₁ then addAligned n₁ c₁ e₁ n₂ c₂ e₂ else addAligned n₂ c₂ e₂ n₁ c₁ e₁) =
    .ok z ∧ _
  split
  · exact addAligned_exact (by assumption) h
  · rw [add_comm] at h ⊢
    exact addAligned_exact (by omega) h

/-- A sum that is below zero by one or more is not rounded up to zero. -/
theorem addAligned_neg (he : e₂ ≤ e₁) (h : addAligned n₁ c₁ e₁ n₂ c₂ e₂ = .ok z)
    (below : (Decimal.finite n₁ c₁ e₁).toRat + (Decimal.finite n₂ c₂ e₂).toRat ≤ -1) :
    ∃ r < 0, z.Worth r := by
  obtain ⟨n, c, e, eq, worth⟩ := addAligned_eq n₁ c₁ e₁ n₂ c₂ e₂
  rw [eq] at h
  refine fit_neg h ?_
  rcases raise_cases c₁ e₁ c₂ e₂ with ⟨kept, place⟩ | ⟨some₁, some₂, far, replaced⟩
  · rw [worth (by omega), toRat_congr kept]
    linarith
  · have low := raiseFloor_le c₁ e₁
    rw [replaced] at worth
    rw [worth low.1.le]
    have small : |(Decimal.finite n₂ c₂ e₂).toRat| < 10 ^ raiseFloor c₁ e₁ :=
      abs_toRat n₂ c₂ e₂ ▸ lt_of_lt_of_le (scaled_lt c₂ e₂) (ten_zpow_le far)
    have unit : |(Decimal.finite n₂ 1 (raiseFloor c₁ e₁)).toRat| = 10 ^ raiseFloor c₁ e₁ := by
      rw [abs_toRat]
      simp [scaled]
    have large : 10 ^ raiseFloor c₁ e₁ * 10 ≤ |(Decimal.finite n₁ c₁ e₁).toRat| := by
      rw [abs_toRat, ← ten_zpow_succ]
      exact le_trans (ten_zpow_le (by omega)) (le_scaled some₁ e₁)
    have bounds := abs_lt.mp small
    have place := abs_le.mp unit.le
    rcases abs_choice (Decimal.finite n₁ c₁ e₁).toRat with eq | eq <;> rw [eq] at large <;> linarith

theorem add_neg (hx : x.Worth p) (hy : y.Worth q) (h : add x y = .ok z) (below : p + q ≤ -1) :
    ∃ r < 0, z.Worth r := by
  obtain ⟨n₁, c₁, e₁, rfl⟩ := hx.finite
  obtain ⟨n₂, c₂, e₂, rfl⟩ := hy.finite
  obtain rfl := hx.2
  obtain rfl := hy.2
  change (if e₂ ≤ e₁ then addAligned n₁ c₁ e₁ n₂ c₂ e₂ else addAligned n₂ c₂ e₂ n₁ c₁ e₁) = _ at h
  split at h
  · exact addAligned_neg (by assumption) h below
  · rw [add_comm] at below
    exact addAligned_neg (by omega) h below

theorem foldlM_add_exact {xs : List Decimal} (hx : x.Worth p)
    (finite : ∀ y ∈ xs, y.isFinite = true)
    (short : ∀ ys, ys <+: xs → Short (p + (ys.map toRat).sum)) :
    ∃ z, xs.foldlM add x = .ok z ∧ z.Worth (p + (xs.map toRat).sum) := by
  induction xs generalizing x p with
  | nil =>
    refine ⟨x, rfl, ?_⟩
    rw [List.map_nil, List.sum_nil, add_zero]
    exact hx
  | cons y xs ih =>
    have first := short [y] ⟨xs, rfl⟩
    rw [List.map_singleton, List.sum_singleton] at first
    obtain ⟨z, hz, worth⟩ := add_exact hx ⟨finite y List.mem_cons_self, rfl⟩ first
    obtain ⟨total, ht, htotal⟩ := ih worth (fun v hv => finite v (List.mem_cons_of_mem y hv))
      fun ys hys => by
        have part := short (y :: ys) (List.cons_prefix_cons.mpr ⟨rfl, hys⟩)
        rw [List.map_cons, List.sum_cons, ← add_assoc] at part
        exact part
    rw [List.map_cons, List.sum_cons, ← add_assoc, List.foldlM_cons, hz]
    exact ⟨total, ht, htotal⟩

/-- A sum is exact if the sums on the way to it are short. -/
theorem sum_exact {xs : List Decimal} (finite : ∀ y ∈ xs, y.isFinite = true)
    (short : ∀ ys, ys <+: xs → Short (ys.map toRat).sum) :
    ∃ z, sum xs = .ok z ∧ z.Worth (xs.map toRat).sum := by
  have nothing : zero.Worth 0 := ⟨rfl, by simp [zero, toRat, scaled]⟩
  have total := foldlM_add_exact nothing finite fun ys hys => by
    rw [zero_add]
    exact short ys hys
  rw [zero_add] at total
  exact total

theorem toRat_mul (n₁ : Bool) (c₁ : Nat) (e₁ : Int) (n₂ : Bool) (c₂ : Nat) (e₂ : Int) :
    (Decimal.finite (n₁ != n₂) (c₁ * c₂) (e₁ + e₂)).toRat =
      (Decimal.finite n₁ c₁ e₁).toRat * (Decimal.finite n₂ c₂ e₂).toRat := by
  have sizes : scaled (c₁ * c₂) (e₁ + e₂) = scaled c₁ e₁ * scaled c₂ e₂ := by
    unfold scaled
    rw [zpow_add₀ (by norm_num), Nat.cast_mul]
    ring
  cases n₁ <;> cases n₂ <;> simp [toRat, sizes]

theorem mul_exact (hx : x.Worth p) (hy : y.Worth q) (h : Short (p * q)) :
    ∃ z, mul x y = .ok z ∧ z.Worth (p * q) := by
  obtain ⟨n₁, c₁, e₁, rfl⟩ := hx.finite
  obtain ⟨n₂, c₂, e₂, rfl⟩ := hy.finite
  obtain rfl := hx.2
  obtain rfl := hy.2
  change ∃ z, fit (n₁ != n₂) (c₁ * c₂) (e₁ + e₂) = .ok z ∧ _
  rw [← toRat_mul] at h ⊢
  exact fit_exact h

theorem compareMagnitude_lt (some₁ : c₁ ≠ 0) (some₂ : c₂ ≠ 0) :
    compareMagnitude c₁ e₁ c₂ e₂ = .lt ↔ scaled c₁ e₁ < scaled c₂ e₂ := by
  unfold compareMagnitude
  rw [if_neg some₁, if_neg some₂]
  dsimp only
  have less : ∀ {c c' : Nat} {e e' : Int}, c' ≠ 0 →
      Text.digitCount c + e < Text.digitCount c' + e' → scaled c e < scaled c' e' := by
    intro c c' e e' some below
    exact lt_of_lt_of_le (scaled_lt c e)
      (le_trans (ten_zpow_le (by omega)) (le_scaled some e'))
  by_cases top : Text.digitCount c₁ + e₁ = Text.digitCount c₂ + e₂
  · rw [if_neg (not_not.mpr top), compare_lt_iff_lt]
    have same : ∀ {a b : Nat} {k : Int}, scaled a k < scaled b k ↔ a < b := by
      intro a b k
      unfold scaled
      rw [mul_lt_mul_iff_left₀ (by positivity), Nat.cast_lt]
    rcases le_total e₁ e₂ with up | down
    · rw [scaled_lower c₂ up, same, Int.toNat_of_nonpos (by omega), tenTo_zero, Nat.mul_one]
    · rw [scaled_lower c₁ down, same, Int.toNat_of_nonpos (show e₂ - e₁ ≤ 0 by omega), tenTo_zero,
        Nat.mul_one]
  · rw [if_pos top, compare_lt_iff_lt]
    rcases lt_or_gt_of_ne top with below | above
    · exact iff_of_true below (less some₂ below)
    · exact iff_of_false (by omega) (not_lt_of_gt (less some₁ above))

theorem compare?_lt (n₁ n₂ : Bool) (c₁ c₂ : Nat) (e₁ e₂ : Int) :
    ∃ o, compare? (.finite n₁ c₁ e₁) (.finite n₂ c₂ e₂) = some o ∧
      (o = .lt ↔ (Decimal.finite n₁ c₁ e₁).toRat < (Decimal.finite n₂ c₂ e₂).toRat) := by
  have none : ∀ e, scaled 0 e = 0 := fun e => by simp [scaled]
  by_cases none₁ : c₁ = 0
  · subst none₁
    by_cases none₂ : c₂ = 0
    · subst none₂
      exact ⟨.eq, by simp [compare?], by cases n₁ <;> cases n₂ <;> simp [toRat, none]⟩
    · have pos₂ := scaled_pos none₂ e₂
      cases n₂ <;> refine ⟨_, by simp [compare?, none₂]; rfl, ?_⟩ <;>
        cases n₁ <;> simp [toRat, none, pos₂, pos₂.le]
  · have pos₁ := scaled_pos none₁ e₁
    by_cases none₂ : c₂ = 0
    · subst none₂
      cases n₁ <;> refine ⟨_, by simp [compare?, none₁]; rfl, ?_⟩ <;>
        cases n₂ <;> simp [toRat, none, pos₁, pos₁.le]
    · have pos₂ := scaled_pos none₂ e₂
      cases n₁ <;> cases n₂ <;> refine ⟨_, by simp [compare?, none₁, none₂]; rfl, ?_⟩
      · exact compareMagnitude_lt none₁ none₂
      · simp only [toRat]
        exact iff_of_false (by decide) (by simp; linarith)
      · simp only [toRat]
        exact iff_of_true trivial (by simp; linarith)
      · simp only [toRat]
        rw [compareMagnitude_lt none₂ none₁]
        simp

theorem lt_eq (hx : x.Worth p) (hy : y.Worth q) : lt x y = .ok (decide (p < q)) := by
  obtain ⟨n₁, c₁, e₁, rfl⟩ := hx.finite
  obtain ⟨n₂, c₂, e₂, rfl⟩ := hy.finite
  obtain rfl := hx.2
  obtain rfl := hy.2
  obtain ⟨o, found, less⟩ := compare?_lt n₁ n₂ c₁ c₂ e₁ e₂
  unfold lt order
  rw [found]
  refine congrArg Except.ok ?_
  rw [Bool.eq_iff_iff, beq_iff_eq, decide_eq_true_iff]
  exact less

end Decimal

end Faucet
