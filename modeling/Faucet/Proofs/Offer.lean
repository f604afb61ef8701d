import Faucet.Plan
import Faucet.Proofs.WellKept
import Faucet.Proofs.Yield

/-!
The amounts on offer. The ends of a tier are whole satoshis, so that nothing is rounded between a
draw and the satoshis that are paid: every draw gives another amount, from the lower end of the tier
on and below its upper one. Settings that were accepted leave no request without a tier.
-/

set_option autoImplicit false

namespace Faucet

open Decimal

namespace Decimal

theorem quantize_sats (mode : Rounding) {x : Decimal} {n : Nat} (worth : x.Worth (n / 10 ^ 8))
    (some : 0 < n) (few : n < 10 ^ 28) : quantize mode x (-8) = .ok (.finite false n (-8)) := by
  obtain ⟨negative, c, e, rfl⟩ := worth.finite
  have place : scaled n (-8) = n / 10 ^ 8 := by
    unfold scaled
    rw [zpow_neg, div_eq_mul_inv]
    rfl
  have filled : 0 < scaled n (-8) := scaled_pos (Nat.pos_iff_ne_zero.mp some) (-8)
  have size : scaled c e = scaled n (-8) := by
    rw [← abs_toRat negative, worth.2, ← place, abs_of_pos filled]
  have above : negative = false := by
    cases negative with
    | false => rfl
    | true =>
      have below : -scaled c e = n / 10 ^ 8 := worth.2
      rw [size, ← place] at below
      exact absurd filled (by linarith)
  have someDigits : c ≠ 0 := by
    rintro rfl
    rw [← size] at filled
    exact absurd filled (by simp [scaled])
  have small : scaled c e < 10 ^ (20 : Int) := by
    rw [size]
    exact scaled_lt_iff.mpr few
  have top := digitCount_add_le someDigits small
  have hprecision : (precision : Int) = 28 := rfl
  have short : ¬precision < Text.digitCount n := Nat.not_lt.mpr (digitCount_le (by decide) few)
  subst above
  unfold quantize
  dsimp only
  rw [if_neg someDigits, if_neg (by omega), rescale_exact mode size, if_neg short]

theorem add_zero_zero (negative : Bool) (e₁ e₂ : Int) :
    ∃ e, add (.finite negative 0 e₁) (.finite false 0 e₂) = .ok (.finite false 0 e) := by
  have sum (n₁ n₂ : Bool) (k₁ k₂ : Int) (positive : (n₁ && n₂) = false) :
      ∃ e, addAligned n₁ 0 k₁ n₂ 0 k₂ = .ok (.finite false 0 e) := by
    cases n₁ <;> cases n₂ <;> first | exact ⟨_, rfl⟩ | cases positive
  change ∃ e, (if e₂ ≤ e₁ then addAligned negative 0 e₁ false 0 e₂
    else addAligned false 0 e₂ negative 0 e₁) = .ok (.finite false 0 e)
  split
  · exact sum negative false e₁ e₂ (Bool.and_false negative)
  · exact sum false negative e₂ e₁ rfl

theorem wholeNumber_exact {x : Decimal} {n : Int} (worth : x.Worth n) :
    Money.wholeNumber x = .ok n := by
  obtain ⟨negative, c, e, rfl⟩ := worth.finite
  obtain ⟨size, sign⟩ := Money.size_of_worth worth
  exact congrArg Except.ok ((truncate_exact negative size).trans sign)

end Decimal

namespace Tier

/-- The ends of a tier are whole satoshis, the lower one above nothing and below the upper one. -/
structure Spans (t : Tier) (low high : Nat) : Prop where
  least : t.least.Worth (low / 10 ^ 8)
  most : t.most.Worth (high / 10 ^ 8)
  some : 0 < low
  below : low < high
  few : high < 2 ^ 63

theorem spans_of_mem_table {t : Tier} (h : t ∈ table) : ∃ low high, t.Spans low high := by
  have worth (c : Nat) (e : Int) (n : Nat) (size : scaled c e = n / 10 ^ 8) :
      (Decimal.finite false c e).Worth (n / 10 ^ 8) := ⟨rfl, size⟩
  simp only [table, List.mem_cons, List.not_mem_nil, or_false] at h
  rcases h with rfl | rfl | rfl | rfl
  · exact ⟨100000, 900000, worth _ _ _ (by norm_num [scaled]), worth _ _ _ (by norm_num [scaled]),
      by decide, by decide, by decide⟩
  · exact ⟨1000000, 9000000, worth _ _ _ (by norm_num [scaled]), worth _ _ _ (by norm_num [scaled]),
      by decide, by decide, by decide⟩
  · exact ⟨10000000, 90000000, worth _ _ _ (by norm_num [scaled]), worth _ _ _ (by norm_num [scaled]),
      by decide, by decide, by decide⟩
  · exact ⟨100000000, 200000000, worth _ _ _ (by norm_num [scaled]),
      worth _ _ _ (by norm_num [scaled]), by decide, by decide, by decide⟩

/-- The ends of a tier are whole satoshis, the lower one below the upper one, and 28 digits hold
them. -/
structure Covers (t : Tier) (low high : Nat) : Prop where
  least : t.least.Worth (low / 10 ^ 8)
  most : t.most.Worth (high / 10 ^ 8)
  below : low < high
  few : high < 10 ^ 28

variable {t : Tier} {low high : Nat}

theorem Spans.covers (h : t.Spans low high) : t.Covers low high :=
  ⟨h.least, h.most, h.below, h.few.trans (by decide)⟩

theorem Covers.width (h : t.Covers low high) : t.width = .ok ((high - low : Nat) : Int) := by
  have below := h.below
  have few := h.few
  have gap : ((high : ℚ) / 10 ^ 8 - low / 10 ^ 8) = (((high - low : Nat) : Int) : ℚ) / 10 ^ 8 := by
    rw [← sub_div, Int.cast_natCast, Nat.cast_sub below.le]
  have unit : Money.coin.Worth (10 ^ 8) := by
    refine ⟨rfl, ?_⟩
    unfold Money.coin toRat
    exact (Money.scaled_zero_exponent _).trans (by norm_num [Money.satsPerCoin])
  have small : ((high - low : Nat) : Int).natAbs < 10 ^ 28 := by omega
  have back : ((((high - low : Nat) : Int) : ℚ) / 10 ^ 8 * 10 ^ 8) = ((high - low : Nat) : Int) :=
    div_mul_cancel₀ _ (by norm_num)
  obtain ⟨span, taken, worth⟩ := sub_exact h.most h.least (gap ▸ Money.short_sats small)
  rw [gap] at worth
  obtain ⟨sats, turned, worth⟩ := mul_exact worth unit (by rw [back]; exact Money.short_whole small)
  rw [back] at worth
  unfold Tier.width
  rw [taken]
  change (do let sats ← Decimal.mul span Money.coin; Money.wholeNumber sats : Except Failure Int) = _
  rw [turned]
  exact wholeNumber_exact worth

theorem amount_zero (nothing : t.least.Worth 0) : t.amount 0 = .ok (.finite false 0 (-8)) := by
  obtain ⟨negative, c, e, eq⟩ := nothing.finite
  have size : scaled c e = 0 := by
    rw [← abs_toRat negative, ← eq, nothing.2, abs_zero]
  have none : c = 0 := by
    by_contra some
    exact (scaled_pos some e).ne' size
  subst none
  obtain ⟨e', added⟩ := add_zero_zero negative e (-8)
  unfold Tier.amount
  rw [eq]
  change (do quantize .halfEven (← add (.finite negative 0 e) (.finite false 0 (-8))) (-8)) = _
  rw [added]
  rfl

theorem Covers.amount (h : t.Covers low high) {n : Nat} (below : n < high - low) :
    t.amount n = .ok (.finite false (low + n) (-8)) := by
  have few := h.few
  by_cases nothing : low + n = 0
  · obtain ⟨rfl, rfl⟩ := Nat.add_eq_zero_iff.mp nothing
    refine amount_zero ?_
    have least := h.least
    rw [Nat.cast_zero, zero_div] at least
    exact least
  have unit : Money.satoshi.Worth (1 / 10 ^ 8) := by
    refine ⟨rfl, ?_⟩
    unfold Money.satoshi toRat scaled
    norm_num
  have part : (((n : Int) : ℚ) * (1 / 10 ^ 8)) = (n : Int) / 10 ^ 8 := mul_one_div _ _
  have sum : ((low : ℚ) / 10 ^ 8 + ((n : Int) : ℚ) / 10 ^ 8) = ((low + n : Nat) : Int) / 10 ^ 8 := by
    rw [← add_div]
    push_cast
    rfl
  have small : ((low + n : Nat) : Int).natAbs < 10 ^ 28 := by omega
  obtain ⟨extra, product, worth⟩ := mul_exact (worth_ofInt n) unit
    (by rw [part]; exact Money.short_sats (by omega))
  rw [part] at worth
  obtain ⟨whole, added, worth⟩ := add_exact h.least worth (by rw [sum]; exact Money.short_sats small)
  rw [sum] at worth
  unfold Tier.amount
  rw [product]
  change (do Decimal.quantize .halfEven (← Decimal.add t.least extra) (-8)) = _
  rw [added]
  exact quantize_sats .halfEven worth (by omega) (by omega)

theorem Spans.width (h : t.Spans low high) : t.width = .ok ((high - low : Nat) : Int) :=
  h.covers.width

theorem Spans.amount (h : t.Spans low high) {n : Nat} (below : n < high - low) :
    t.amount n = .ok (.finite false (low + n) (-8)) := h.covers.amount below

end Tier

namespace TierPolicy

variable {p : TierPolicy}

/-- The tier that is asked for if it is enabled, and otherwise the fallback. -/
def choice (p : TierPolicy) : Option Int → Int
  | some id => if id ∈ p.enabled then id else p.fallback
  | none => p.fallback

/-- Every enabled tier exists, and the fallback is one of them. -/
structure Sound (p : TierPolicy) : Prop where
  known : ∀ id ∈ p.enabled, ∃ t ∈ p.tiers, t.id = id
  fallback : p.fallback ∈ p.enabled
  spans : ∀ t ∈ p.tiers, ∃ low high, t.Spans low high

theorem Sound.get? (sound : p.Sound) {id : Int} (here : id ∈ p.enabled) :
    ∃ t ∈ p.tiers, t.id = id ∧ p.get? (some id) = some t := by
  obtain ⟨t, mem, same⟩ := sound.known id here
  have some : (p.find? id).isSome = true := List.find?_isSome.mpr ⟨t, mem, decide_eq_true same⟩
  obtain ⟨found, eq⟩ := Option.isSome_iff_exists.mp some
  have own := List.find?_some (p := fun t : Tier => decide (t.id = id)) eq
  refine ⟨found, List.mem_of_find?_eq_some eq, of_decide_eq_true own, ?_⟩
  exact (if_pos here).trans eq

theorem Sound.resolve (sound : p.Sound) (tier : Option Int) :
    ∃ t ∈ p.tiers, t.id = p.choice tier ∧ p.resolve tier = .ok t := by
  obtain ⟨last, mem, same, fallback⟩ := sound.get? sound.fallback
  have stands (nothing : p.get? tier = none) : p.resolve tier = .ok last := by
    unfold TierPolicy.resolve
    rw [nothing, fallback]
    rfl
  cases tier with
  | none => exact ⟨last, mem, same, stands rfl⟩
  | some id =>
    by_cases enabled : id ∈ p.enabled
    · obtain ⟨t, here, own, found⟩ := sound.get? enabled
      refine ⟨t, here, own.trans (if_pos enabled).symm, ?_⟩
      unfold TierPolicy.resolve
      rw [found]
      rfl
    · exact ⟨last, mem, same.trans (if_neg enabled).symm, stands (if_neg enabled)⟩

end TierPolicy

theorem exists_of_mem_mapM {ε α β : Type} {f : α → Except ε β} {l : List α} {bs : List β}
    (h : l.mapM f = .ok bs) {b : β} (hb : b ∈ bs) : ∃ a ∈ l, f a = .ok b := by
  induction l generalizing bs with
  | nil =>
    cases h
    exact absurd hb List.not_mem_nil
  | cons a l ih =>
    rw [List.mapM_cons] at h
    obtain ⟨first, own, h⟩ := bind_eq_ok.mp h
    obtain ⟨rest, others, h⟩ := bind_eq_ok.mp h
    cases h
    rcases List.mem_cons.mp hb with rfl | hb
    · exact ⟨a, List.mem_cons_self, own⟩
    · obtain ⟨a', ha, eq⟩ := ih others hb
      exact ⟨a', List.mem_cons_of_mem a ha, eq⟩

namespace Settings

variable {s : Settings}

theorem agree_of_ofFields {given : List (Text × Json)} (accepted : ofFields given = .ok s) :
    s.agree = .ok () := by
  obtain ⟨read, _, h⟩ := bind_eq_ok.mp accepted
  cases fits : agree read with
  | ok u =>
    rw [fits] at h
    cases h
    exact fits
  | error wording =>
    rw [fits] at h
    dsimp only at h
    split at h
    · cases h
    · cases h

theorem mem_table_of_tiers {ids : List Int} (h : s.tiers = .ok ids) {id : Int} (here : id ∈ ids) :
    ∃ t ∈ Tier.table, t.id = id := by
  obtain ⟨item, _, own⟩ := exists_of_mem_mapM h here
  unfold tierOf at own
  dsimp only at own
  split at own
  · cases own
  · split at own
    · rename_i known
      cases own
      obtain ⟨t, mem, same⟩ := List.any_eq_true.mp known
      exact ⟨t, mem, of_decide_eq_true same⟩
    · cases own

theorem of_agree (h : s.agree = .ok ()) :
    s.mergeLeast ≤ s.mergeMost ∧ ∃ ids, s.tiers = .ok ids ∧ s.defaultTier ∈ ids := by
  unfold agree at h
  split at h
  · cases h
  · rename_i ordered
    obtain ⟨ids, read, h⟩ := bind_eq_ok.mp h
    refine ⟨Int.not_lt.mp ordered, ids, read, ?_⟩
    split at h
    · cases h
    · split at h
      · cases h
      · rename_i enabled
        exact not_not.mp enabled

end Settings

def Settings.intake (s : Settings) (ids : List Int) : Intake where
  tiers := { enabled := ids, fallback := s.defaultTier }
  quota := { most := s.mostPerSource, exempt := s.exempt }

/-- Accepted settings make a faucet, no request to which is left without a tier. -/
theorem Plan.make_of_ofFields {given : List (Text × Json)} {s : Settings}
    (accepted : Settings.ofFields given = .ok s) : ∃ plan ids, Plan.make s = .ok plan ∧
      s.tiers = .ok ids ∧ plan.intake = s.intake ids ∧ plan.intake.tiers.Sound := by
  obtain ⟨ordered, ids, read, enabled⟩ := Settings.of_agree (Settings.agree_of_ofFields accepted)
  let merge : Merge :=
    { threshold := s.mergeThreshold, least := s.mergeLeast, most := s.mergeMost
      feeRate := s.mergeFeeRate, memo := s.mergeMemo }
  have fits : merge.validate = .ok merge := if_neg (Int.not_lt.mpr ordered)
  refine ⟨{ settings := s, intake := s.intake ids
            batch := { size := s.batchSize, memo := s.payoutMemo }, merge }, ids, ?_, read, rfl, ?_⟩
  · unfold Plan.make
    rw [read]
    change (do let merge ← merge.validate; _) = _
    rw [fits]
    rfl
  · exact { known := fun id here => Settings.mem_table_of_tiers read here
            fallback := enabled
            spans := fun t here => Tier.spans_of_mem_table here }

end Faucet
