import Faucet.Money

/-!
Amount tiers. A requester picks a tier and is paid a random whole number of satoshis in its range,
which holds its lower end and not its upper one.
-/

set_option autoImplicit false

namespace Faucet

structure Tier where
  id : Int
  least : Decimal
  most : Decimal
deriving DecidableEq, Repr

namespace Tier

def width (t : Tier) : Except Failure Int := do
  let span ← Decimal.sub t.most t.least
  let sats ← Decimal.mul span Money.coin
  Money.wholeNumber sats

def amount (t : Tier) (draw : Int) : Except ArithmeticFault Decimal := do
  let extra ← Decimal.mul (Decimal.ofInt draw) Money.satoshi
  Decimal.quantize .halfEven (← Decimal.add t.least extra) (-8)

def table : List Tier :=
  [⟨1, .finite false 1 (-3), .finite false 9 (-3)⟩,
   ⟨2, .finite false 1 (-2), .finite false 9 (-2)⟩,
   ⟨3, .finite false 1 (-1), .finite false 9 (-1)⟩,
   ⟨4, .finite false 10 (-1), .finite false 20 (-1)⟩]

end Tier

/-- Which tiers may be asked for, and which one stands in for the others. -/
structure TierPolicy where
  tiers : List Tier := Tier.table
  enabled : List Int
  fallback : Int

namespace TierPolicy

def find? (p : TierPolicy) (id : Int) : Option Tier := p.tiers.find? fun t => t.id = id

/-- The enabled tiers that exist, in the order in which they were enabled. -/
def offered (p : TierPolicy) : List Tier := p.enabled.filterMap p.find?

def get? (p : TierPolicy) (id : Option Int) : Option Tier :=
  match id with
  | none => none
  | some id => if id ∈ p.enabled then p.find? id else none

def unknown (id : Option Int) : Failure :=
  .tier ("Invalid amount range: " ++
    match id with
    | some n => Text.ofInt n
    | none => "None")

/-- The tier that was asked for if it is enabled, else the fallback. -/
def resolve (p : TierPolicy) (id : Option Int) : Except Failure Tier :=
  match (p.get? id).orElse fun _ => p.get? (some p.fallback) with
  | some t => .ok t
  | none => .error (unknown id)

end TierPolicy

end Faucet
