import Faucet.Address
import Faucet.Quota
import Faucet.Tier

/-!
The intake of payout requests. The address is looked at first, then the quota of the source, then
the tier; the ledger has the last word on addresses that were used before.
-/

set_option autoImplicit false

namespace Faucet

namespace TierPolicy

def pick (p : TierPolicy) (tier : Option Int) : Job Decimal := do
  let t ← Job.ofExcept (p.resolve tier)
  let width ← Job.ofExcept t.width
  if width ≤ 0 then throw (.defect (.value "empty range for randrange()"))
  let n ← Job.draw (width.toNat - 1)
  Job.ofArithmetic (t.amount n.val)

end TierPolicy

structure Intake where
  tiers : TierPolicy
  quota : Quota

namespace Intake

def refuse (r : Refusal) (message : Text) : Job Receipt := return .refused r message

/-- Whether the quota allows the source one more request; nothing if the ledger could not tell. -/
def admitted? (i : Intake) (source : Text) : Job (Option Bool) := do
  try
    return some (← i.quota.allows source none)
  catch e =>
    if e.isStore then
      Job.log .error ("Rate limit lookup failed for " ++ source ++ ": " ++ e.message)
      return none
    else throw e

/-- The amount of a request, or the wording of a tier that cannot be used. -/
def amount (i : Intake) (tier : Option Int) : Job (Except Text Decimal) := do
  try
    return .ok (← i.tiers.pick tier)
  catch e =>
    match e with
    | .tier message => return .error message
    | e => throw e

def queue (address : Text) (amount : Decimal) (source : Text) : Job (Option Refusal) := do
  try
    let _ ← Store.create (some address) amount source
    return none
  catch e =>
    match e with
    | .store (.duplicate _) => return some .duplicateAddress
    | .store _ =>
      Job.log .error ("Failed to create transaction: " ++ e.message)
      return some .internal
    | e => throw e

def submit (i : Intake) (address : Text) (tier : Option Int) (source : Text) : Job Receipt := do
  match Address.validate address with
  | .error fault => refuse .invalidAddress fault.message
  | .ok address =>
    match ← i.admitted? source with
    | none => refuse .internal "Internal error"
    | some false =>
      refuse .rateLimited
        ("Rate limit exceeded (max " ++ Text.ofInt i.quota.most ++ " per 24h)")
    | some true =>
      match ← i.amount tier with
      | .error message => refuse .invalidTier message
      | .ok amount =>
        match ← queue address amount source with
        | some .duplicateAddress => refuse .duplicateAddress "Address already used"
        | some r => refuse r "Failed to queue address"
        | none =>
          Job.log .info ("Address queued: " ++ address ++ " (source: " ++ source ++ ", amount: "
            ++ amount.fixed8 ++ " BTC)")
          Job.ofExcept (Receipt.accepted amount)

end Intake

end Faucet
