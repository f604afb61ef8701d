import Faucet.Wallet.Payment
import Faucet.Binary64.Written
import Faucet.Moment

/-!
The last positive balance that the wallet reported, for display alone. A read that fails or finds
nothing leaves it as it was.
-/

set_option autoImplicit false

namespace Faucet.Purse

/-- The balances, unless the wallet fails in a way that is foreseen. -/
def read : Job (Option Balances) := do
  try
    return some (← Job.wallet .balances)
  catch e =>
    if e.isForeseen then
      Job.log .warning ("Failed to refresh wallet balance: " ++ e.message)
      return none
    else throw e

def refresh : Job Bool := do
  match ← read with
  | none => return false
  | some balances =>
    let balance ← Job.ofArithmetic balances.available
    if ← Job.ofArithmetic (balance.le .zero) then
      Job.log .debug "Wallet reported zero balance, keeping cached value"
      return false
    Job.cache balance
    Job.notify (.balanceRefreshed balance)
    return true

/-- Microseconds of a wait, nothing if it has no end. Seconds that are not above zero are no wait. -/
def spanOf? : Binary64 → Option Nat
  | .finite false m e => some (Span.microseconds m e)
  | .infinite false => none
  | _ => some 0

def pause (delay : Binary64) : Job Unit :=
  match spanOf? delay with
  | some us => Job.sleep us
  | none => Job.rest

def attemptFrom (attempts : Nat) (delay : Binary64) : Nat → Nat → Job Bool
  | 0, _ => return false
  | left + 1, attempt => do
    if ← refresh then return true
    if attempt < attempts then
      Job.log .info ("Initial balance read " ++ Text.ofNat attempt ++ "/" ++ Text.ofNat attempts
        ++ " got nothing, retrying in " ++ delay.toText ++ "s")
      pause delay
    attemptFrom attempts delay left (attempt + 1)

def fill (attempts : Int) (delay : Binary64) : Job Decimal := do
  if ← attemptFrom attempts.toNat delay attempts.toNat 1 then Job.cached
  else
    Job.log .warning ("No usable wallet balance after " ++ Text.ofInt attempts
      ++ " attempts; cached balance shows 0 until the next refresh")
    Job.cached

def fillAtStart : Job Decimal := fill 3 (.finite false (twoTo 52) (-51))

end Faucet.Purse
