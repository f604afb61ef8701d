import Faucet.Proofs.Dust
import Faucet.Proofs.Yield

/-!
The outputs that a merge settles on: of those that it may spend, that are not above the threshold
and that are no dust, the smallest ones, up to as many as are allowed.
-/

set_option autoImplicit false

namespace Faucet

namespace Decimal

variable {x y : Decimal} {p q : ℚ}

theorem compareMagnitude_swap (c₁ : Nat) (e₁ : Int) (c₂ : Nat) (e₂ : Int) :
    compareMagnitude c₂ e₂ c₁ e₁ = (compareMagnitude c₁ e₁ c₂ e₂).swap := by
  unfold compareMagnitude
  by_cases none₁ : c₁ = 0
  · by_cases none₂ : c₂ = 0
    · simp [none₁, none₂]
    · simp [none₁, none₂]
  · by_cases none₂ : c₂ = 0
    · simp [none₁, none₂]
    · have places (a b : Int) : compare b a = (compare a b).swap := Std.OrientedCmp.eq_swap
      have digits (a b : Nat) : compare b a = (compare a b).swap := Std.OrientedCmp.eq_swap
      simp only [none₁, none₂, if_false]
      by_cases top : Text.digitCount c₁ + e₁ = Text.digitCount c₂ + e₂
      · rw [if_neg (not_not.mpr top.symm), if_neg (not_not.mpr top)]
        exact digits _ _
      · rw [if_pos (Ne.symm top), if_pos top]
        exact places _ _

theorem compare?_swap (n₁ n₂ : Bool) (c₁ c₂ : Nat) (e₁ e₂ : Int) :
    compare? (.finite n₂ c₂ e₂) (.finite n₁ c₁ e₁) =
      (compare? (.finite n₁ c₁ e₁) (.finite n₂ c₂ e₂)).map Ordering.swap := by
  by_cases none₁ : c₁ = 0
  · by_cases none₂ : c₂ = 0
    · simp [compare?, none₁, none₂]
    · cases n₂ <;> simp [compare?, none₁, none₂]
  · by_cases none₂ : c₂ = 0
    · cases n₁ <;> simp [compare?, none₁, none₂]
    · cases n₁ <;> cases n₂ <;> simp [compare?, none₁, none₂, ← compareMagnitude_swap]

theorem compare?_gt (hx : x.Worth p) (hy : y.Worth q) :
    ∃ o, compare? x y = some o ∧ (o = .gt ↔ q < p) := by
  obtain ⟨n₁, c₁, e₁, rfl⟩ := hx.finite
  obtain ⟨n₂, c₂, e₂, rfl⟩ := hy.finite
  obtain rfl := hx.2
  obtain rfl := hy.2
  obtain ⟨o, found, less⟩ := compare?_lt n₂ n₁ c₂ c₁ e₂ e₁
  refine ⟨o.swap, ?_, ?_⟩
  · rw [compare?_swap, found]
    rfl
  · rw [← less]
    cases o <;> decide

end Decimal

namespace Merge

open Decimal

variable {m : Merge} {us : List Unspent}

theorem ascending_eq {a b : Unspent} (ha : a.amount.isFinite = true) (hb : b.amount.isFinite = true) :
    ascending a b = decide (a.amount.toRat ≤ b.amount.toRat) := by
  obtain ⟨o, found, greater⟩ := compare?_gt ⟨ha, rfl⟩ ⟨hb, rfl⟩
  unfold ascending
  rw [found, Bool.eq_iff_iff, decide_eq_true_iff, ← not_lt, ← greater]
  cases o <;> decide

def below (a b : Unspent) : Bool := decide (a.amount.toRat ≤ b.amount.toRat)

theorem sorted_eq {before order : Unspent → Unspent → Bool}
    (finite : ∀ u ∈ us, u.amount.isFinite = true)
    (same : ∀ a ∈ us, ∀ b ∈ us, before a b = order a b) :
    sorted before us = .ok (us.mergeSort order) := by
  have numbers : us.any (fun u => u.amount.isNaN) = false := by
    refine List.any_eq_false.mpr fun u here => ?_
    have number := finite u here
    cases kind : u.amount with
    | finite => simp [isNaN]
    | _ => rw [kind] at number; cases number
  have sorts := List.map_mergeSort (f := id) same
  rw [List.map_id, List.map_id] at sorts
  unfold sorted
  rw [if_neg (by simp [numbers]), sorts]

/-- Outputs that are worth merging. -/
def eligible (m : Merge) (u : Unspent) : Bool :=
  decide (u.amount.toRat ≤ m.threshold.toRat) && u.spendable.truthy &&
    decide (Money.dustLimit.toRat ≤ u.amount.toRat)

/-- The smallest outputs that are worth merging, as many as are allowed. -/
def candidates (m : Merge) (us : List Unspent) : List Unspent :=
  ((us.mergeSort below).filter m.eligible).take m.most.toNat

/-- How an output is judged: by the threshold, by whether it may be spent, and by the dust limit. -/
def Judges (m : Merge) (fit : Unspent → Bool) (u : Unspent) : Prop :=
  ∃ above low, Decimal.lt m.threshold u.amount = .ok above ∧
    u.amount.lt Money.dustLimit = .ok low ∧ fit u = (!above && u.spendable.truthy && !low)

theorem take_filter {fit : Unspent → Bool} (judged : ∀ u ∈ us, m.Judges fit u) (taken : Nat) :
    m.take taken us = .ok ((us.filter fit).take (m.most - taken).toNat) := by
  induction us generalizing taken with
  | nil => simp [take]
  | cons u rest ih =>
    obtain ⟨above, low, compared, dusty, fits⟩ := judged u List.mem_cons_self
    have later := ih fun v here => judged v (List.mem_cons_of_mem u here)
    unfold take
    rw [compared, dusty]
    cases fit : fit u with
    | true =>
      rw [fit] at fits
      obtain ⟨⟨rfl, held⟩, rfl⟩ : (above = false ∧ _) ∧ low = false := by simpa using fits.symm
      rw [List.filter_cons_of_pos fit, held]
      by_cases full : m.most ≤ taken
      · have none : (m.most - taken).toNat = 0 := by omega
        rw [none]
        exact if_pos full
      · have more : (m.most - taken).toNat = (m.most - (taken + 1 : Nat)).toNat + 1 := by omega
        have next := later (taken + 1)
        rw [more, List.take_succ_cons]
        change (if m.most ≤ taken then _ else do let us ← m.take (taken + 1) rest; _) = _
        rw [if_neg full, next]
        rfl
    | false =>
      rw [fit] at fits
      rw [List.filter_cons_of_neg (by rw [fit]; exact Bool.false_ne_true), ← later taken]
      cases above with
      | true => rfl
      | false =>
        cases held : u.spendable.truthy with
        | false => rfl
        | true =>
          obtain rfl : low = true := by simpa [held] using fits.symm
          rfl

def spent (cs : List Unspent) : List Unspent := cs.mergeSort fun a b => below b a

end Merge

end Faucet
