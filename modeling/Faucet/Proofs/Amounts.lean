import Faucet.Money
import Faucet.Proofs.Magnitude

/-!
Amounts and their satoshis. Neither the rounding to a working precision nor that to whole satoshis
turns a sign, and satoshis in coin are worth what they say.
-/

set_option autoImplicit false

namespace Faucet

namespace Decimal

theorem fit_ok {n : Bool} {c : Nat} {e : Int} {x : Decimal} (h : fit n c e = .ok x) :
    ∃ c' e', x = .finite n c' e' ∧ (c = 0 → c' = 0) := by
  unfold fit at h
  split at h
  · cases h
    exact ⟨0, _, rfl, fun _ => rfl⟩
  · rename_i some
    split at h
    · cases h
    · dsimp only at h
      split at h
      · cases h
        exact ⟨c, e, rfl, id⟩
      · split at h
        · cases h
          exact ⟨_, _, rfl, fun none => absurd none some⟩
        · split at h
          · cases h
          · cases h
            exact ⟨_, _, rfl, fun none => absurd none some⟩

theorem toIntegral_ok {n : Bool} {c : Nat} {e : Int} {x : Decimal}
    (h : toIntegral (.finite n c e) = .ok x) :
    ∃ c' e', x = .finite n c' e' ∧ (c = 0 → c' = 0) := by
  unfold toIntegral at h
  dsimp only at h
  split at h
  · cases h
    exact ⟨c, e, rfl, id⟩
  · cases h
    exact ⟨_, 0, rfl, fun none => if_pos none⟩

theorem truncate_false (c : Nat) (e : Int) : 0 ≤ truncate false c e := Int.natCast_nonneg _

theorem truncate_true (c : Nat) (e : Int) : truncate true c e ≤ 0 :=
  Int.neg_nonpos_of_nonneg (Int.natCast_nonneg _)

theorem truncate_zero (n : Bool) (e : Int) : truncate n 0 e = 0 := by
  cases n <;> rfl

theorem le_zero_finite (n : Bool) (c : Nat) (e : Int) :
    le (.finite n c e) zero = .ok (decide (c = 0) || n) := by
  by_cases none : c = 0
  · subst none
    rfl
  · cases n <;> simp [le, order, compare?, zero, none]

def toRat : Decimal → ℚ
  | .finite n c e => if n then -scaled c e else scaled c e
  | .infinite _ | .nan .. => 0

end Decimal

namespace Money

theorem toSats_steps {amount : Decimal} {sats : Int} (h : toSats amount = .ok sats) :
    ∃ x y, amount.mul coin = .ok x ∧ x.toIntegral = .ok y ∧ wholeNumber y = .ok sats := by
  unfold toSats at h
  cases product : amount.mul coin with
  | error fault => rw [product] at h; cases h
  | ok x =>
    rw [product] at h
    cases whole : x.toIntegral with
    | error fault =>
      change (do let y ← x.toIntegral; wholeNumber y : Except Failure Int) = _ at h
      rw [whole] at h
      cases h
    | ok y =>
      change (do let y ← x.toIntegral; wholeNumber y : Except Failure Int) = _ at h
      rw [whole] at h
      exact ⟨x, y, rfl, whole, h⟩

theorem wholeNumber_ok {y : Decimal} {sats : Int} (h : wholeNumber y = .ok sats) :
    ∃ n c e, y = .finite n c e ∧ sats = Decimal.truncate n c e := by
  cases y with
  | finite n c e => exact ⟨n, c, e, rfl, (Except.ok.inj h).symm⟩
  | infinite | nan => cases h

/-- Only a finite amount has satoshis, with its sign. -/
theorem toSats_ok {amount : Decimal} {sats : Int} (h : toSats amount = .ok sats) :
    ∃ n c e, amount = .finite n c e ∧ (n = false → 0 ≤ sats) ∧ (n = true → sats ≤ 0) ∧
      (c = 0 → sats = 0) := by
  obtain ⟨x, y, product, whole, number⟩ := toSats_steps h
  obtain ⟨n', c', e', rfl, rfl⟩ := wholeNumber_ok number
  cases amount with
  | infinite n =>
    cases product
    cases whole
  | nan n signalling payload =>
    cases signalling with
    | true => cases product
    | false =>
      cases product
      cases whole
  | finite n c e =>
    obtain ⟨c₁, e₁, rfl, none₁⟩ := Decimal.fit_ok product
    obtain ⟨c₂, e₂, eq, none₂⟩ := Decimal.toIntegral_ok whole
    cases eq
    refine ⟨n, c, e, rfl, fun hn => ?_, fun hn => ?_, fun hc => ?_⟩
    · subst hn
      exact Decimal.truncate_false _ _
    · subst hn
      exact Decimal.truncate_true _ _
    · subst hc
      rw [none₂ (none₁ (Nat.zero_mul _))]
      exact Decimal.truncate_zero _ _

theorem le_zero_of_toSats_pos {amount : Decimal} {sats : Int} (h : toSats amount = .ok sats)
    (pos : 0 < sats) : amount.le .zero = .ok false := by
  obtain ⟨n, c, e, rfl, _, below, none⟩ := toSats_ok h
  rw [Decimal.le_zero_finite]
  have some : c ≠ 0 := fun hc => by rw [none hc] at pos; exact Int.lt_irrefl 0 pos
  cases n with
  | true => exact absurd (below rfl) (by omega)
  | false => simp only [some, decide_false, Bool.or_false]

theorem toSats_nonneg {amount : Decimal} {sats : Int} (h : toSats amount = .ok sats)
    (above : amount.le .zero = .ok false) : 0 ≤ sats := by
  obtain ⟨n, c, e, rfl, nonneg, _, _⟩ := toSats_ok h
  rw [Decimal.le_zero_finite] at above
  cases n with
  | false => exact nonneg rfl
  | true => rw [Bool.or_true] at above; cases above

theorem toRat_ofSats (n : Int) : (ofSats n).toRat = n / 10 ^ 8 := by
  have strip := Decimal.scaled_stripZeros 8 n.natAbs (-8) 0
  generalize parts : Decimal.stripZeros 8 n.natAbs (-8) 0 = p at strip
  have written : ofSats n = .finite (n < 0) p.1 p.2 := by
    unfold ofSats
    rw [parts]
  rw [written]
  change (if decide (n < 0) = true then -Decimal.scaled p.1 p.2 else Decimal.scaled p.1 p.2) = _
  rw [strip]
  have size : ((n.natAbs : ℕ) : ℚ) = |(n : ℚ)| := by
    rw [← Int.cast_natCast, Int.natCast_natAbs, Int.cast_abs]
  have shift : Decimal.scaled n.natAbs (-8) = |(n : ℚ)| / 10 ^ 8 := by
    unfold Decimal.scaled
    rw [size, zpow_neg, div_eq_mul_inv]
    rfl
  rw [shift]
  by_cases below : n < 0
  · rw [if_pos (decide_eq_true below), abs_of_neg (Int.cast_lt_zero.mpr below), neg_div, neg_neg]
  · rw [if_neg (by simpa using below), abs_of_nonneg (Int.cast_nonneg (Int.not_lt.mp below))]

end Money

end Faucet
