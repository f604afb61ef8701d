import Mathlib.Algebra.Group.Int.Defs
import Mathlib.Data.List.TakeWhile
import Faucet.Proofs.StoreFaults

/-!
Listings of the ledger. An order is asked for by the name of a key, with dashes in front of it for the
rows of greatest key. A listing has the rows of a status that come first in the order, as many as a
positive limit allows, and no row that is left out comes before one that is listed.
-/

set_option autoImplicit false

namespace Faucet

def OrderKey.name : OrderKey → Text
  | .id => "id"
  | .created => "created_at"
  | .amount => "amount"

namespace Order

variable {o : Order} {t : Text}

/-- A text asks for an order: it is the name of the key, behind any number of dashes if the order
descends and behind none if it does not. -/
def Spelled (o : Order) (t : Text) : Prop :=
  ∃ dashes, t = List.replicate dashes 45 ++ o.key.name ∧ (o.descending = true ↔ dashes ≠ 0)

theorem ofText?_name (dashes : Nat) (key : OrderKey) :
    ofText? (List.replicate dashes 45 ++ key.name) = some ⟨key, decide (dashes ≠ 0)⟩ := by
  have first : Text.startsWith "-" (List.replicate dashes 45 ++ key.name) = decide (dashes ≠ 0) := by
    cases dashes with
    | zero => cases key <;> rfl
    | succ dashes => rfl
  have rest : (List.replicate dashes 45 ++ key.name).dropWhile (· = (45 : CodePoint)) = key.name := by
    rw [List.dropWhile_append_of_pos fun c here => decide_eq_true (List.eq_of_mem_replicate here)]
    cases key <;> rfl
  unfold ofText?
  dsimp only
  rw [first, rest]
  cases key <;> rfl

theorem name_of_ofText? (h : ofText? t = some o) : t.dropWhile (· = 45) = o.key.name := by
  unfold ofText? at h
  dsimp only at h
  split at h
  · cases h
    assumption
  · split at h
    · cases h
      assumption
    · split at h
      · cases h
        assumption
      · cases h

theorem ofText?_eq_some_iff : ofText? t = some o ↔ o.Spelled t := by
  constructor
  · intro named
    have dashed : t.takeWhile (· = (45 : CodePoint)) =
        List.replicate (t.takeWhile (· = (45 : CodePoint))).length 45 :=
      List.eq_replicate_of_mem fun c here =>
        of_decide_eq_true (List.mem_takeWhile_imp (p := fun c : CodePoint => decide (c = 45)) here)
    have whole : t = List.replicate (t.takeWhile (· = (45 : CodePoint))).length 45 ++ o.key.name := by
      rw [← name_of_ofText? named, ← dashed, List.takeWhile_append_dropWhile]
    rw [whole, ofText?_name] at named
    have same := congrArg Order.descending (Option.some.inj named)
    refine ⟨_, whole, ?_⟩
    rw [← same]
    exact decide_eq_true_iff
  · rintro ⟨dashes, rfl, descends⟩
    rw [ofText?_name]
    obtain ⟨key, descending⟩ := o
    have same : decide (dashes ≠ 0) = descending := by
      rw [Bool.eq_iff_iff, decide_eq_true_iff]
      exact descends.symm
    rw [same]

end Order

namespace Store

variable {env : Nat → Reaction} {s : Scene} {l : Ledger} {t : Text}

theorem order_eq (filled : t ≠ []) : order (some t) =
    match Order.ofText? t with
    | some o => .ok (some o)
    | none => .error (.defect (.value ("Cannot order payout requests by " ++ t.quoted))) := by
  cases t with
  | nil => exact absurd rfl filled
  | cons c t => rfl

/-- On a store in working order a listing has the rows at one end of the order that is asked for, and
what asks for no order is refused. The ledger stays as it was. -/
theorem lists_extremes (hold : s.database.Holds l) (healthy : ∀ n, (env n).fault = none)
    (ids : (l.map Row.id).Nodup) (status : Option Status) (filled : t ≠ [])
    (limit : Option Int) (inRange : ∀ n, limit = some n → n < 2 ^ 63) :
    ∃ s', s'.database.Holds l ∧
      ((∃ o rows, o.Spelled t ∧ (list status (some t) limit).play env s = (.ok rows, s') ∧
          l.Extremes status o limit rows) ∨
        (∀ o : Order, ¬o.Spelled t) ∧ (list status (some t) limit).play env s =
          (.error (.defect (.value ("Cannot order payout requests by " ++ t.quoted))), s')) := by
  obtain ⟨s₁, entered, hold₁⟩ := Job.play_enter healthy hold .list fun _ =>
    (Job.ofExcept (order (some t))).bind fun o => Job.session (.list status o limit)
  change (list status (some t) limit).play env s = _ at entered
  rw [order_eq filled] at entered
  cases named : Order.ofText? t with
  | none =>
    rw [named] at entered
    refine ⟨s₁, hold₁, .inr ⟨fun o spelled => ?_, entered⟩⟩
    cases named.symm.trans (Order.ofText?_eq_some_iff.mpr spelled)
  | some o =>
    rw [named] at entered
    have bound : Database.bind (.list status (some o) limit) = .ok () := by
      cases limit with
      | none => rfl
      | some n =>
        have small := inRange n rfl
        unfold Database.bind
        dsimp only
        split
        · exact if_pos ((Database.holdsInteger_iff n).mpr ⟨by omega, by omega⟩)
        · rfl
    obtain ⟨s₂, listed, hold₂⟩ :=
      Job.session_play (.list status (some o) limit) healthy hold₁ bound rfl
    exact ⟨s₂, hold₂, .inl ⟨o, _, Order.ofText?_eq_some_iff.mp named, entered.trans listed,
      Ledger.list_extremes ids status o limit⟩⟩

/-- Payouts of 5, 7 and 6 satoshis. -/
def three : Ledger :=
  [Ledger.newRow 1 "tb1a" "" 5 0, Ledger.newRow 2 "tb1b" "" 7 0, Ledger.newRow 3 "tb1c" "" 6 0]

theorem lists_extremes_largest : ∃ rows s', (list none (some "--amount") (some 2)).play ticking
    { database := { table := some three } } = (.ok rows, s') ∧ rows.length = 2 ∧
      three.Extremes none ⟨.amount, true⟩ (some 2) rows := by
  have named : Order.ofText? "--amount" = some ⟨.amount, true⟩ := Order.ofText?_name 2 .amount
  have hold : Database.Holds { table := some three } three := ⟨rfl, rfl, rfl⟩
  obtain ⟨s', -, listed⟩ := lists_extremes (t := "--amount")
    (s := { database := { table := some three } }) hold (fun _ => (rfl : (ticking _).fault = none))
    (by decide) none (by decide) (some 2) (by rintro _ ⟨⟩; decide)
  rcases listed with ⟨o, rows, spelled, played, extremes⟩ | ⟨unnamed, -⟩
  · obtain rfl := Option.some.inj (named.symm.trans (Order.ofText?_eq_some_iff.mpr spelled))
    exact ⟨rows, s', played, extremes.length, extremes⟩
  · exact absurd (Order.ofText?_eq_some_iff.mp named) (unnamed _)

end Store

end Faucet
