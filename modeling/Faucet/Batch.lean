import Faucet.Ledger.Store
import Faucet.Wallet.Payment

/-!
One batch cycle: it takes the oldest pending payouts, skips all of them unless the wallet can cover
their sum, and otherwise claims and pays each of them by itself, so that no failure stands in the
way of the others.
-/

set_option autoImplicit false

namespace Faucet

structure Batch where
  size : Int
  memo : Text

namespace Batch

def skip (reason : Text) : Job CycleReport := do
  Job.notify (.batchSkipped reason)
  return { skipped := some reason }

/-- Claims a payout. Nothing is answered if the ledger failed or the payout is claimed already. -/
def claim (r : Row) : Job Bool := do
  try
    if ← Store.transition { id := r.id, source := .pending, target := .processing } then return true
    else
      Job.log .warning ("Transaction " ++ Text.ofInt r.id ++ " is no longer pending, skipping")
      return false
  catch e =>
    if e.isStore then
      Job.log .error ("Failed to update transaction " ++ Text.ofInt r.id ++ " to processing: "
        ++ e.message)
      return false
    else throw e

def errorText : Failure → Text
  | .defect d => "unexpected error: " ++ d.shown
  | e => e.message

def send (b : Batch) (r : Row) (feeRate : Decimal) : Job (Except Text Text) := do
  try
    return .ok (← Wallet.pay r.address r.amount feeRate b.memo)
  catch e =>
    if e.isForeseen then
      Job.log .error ("Failed to send to " ++ r.address ++ ": " ++ e.message)
    else
      Job.log .error ("Unexpected error sending to " ++ r.address ++ ": " ++ e.message)
    return .error (errorText e)

/-- Records the end of a claimed payout. A ledger that fails leaves it claimed, for the sweep of
stale payouts to find. -/
def record (r : Row) (target : Status) (txid error : Option Text) (note : Text) : Job Unit := do
  try
    let _ ← Store.transition { id := r.id, source := .processing, target, txid, error }
  catch e =>
    if e.isStore then
      Job.log .error ("Failed to update transaction " ++ Text.ofInt r.id ++ " to " ++ target.text
        ++ note ++ ": " ++ e.message)
    else throw e

/-- Claims and pays one payout. Answers how it ended, or nothing if it was left alone. -/
def pay (b : Batch) (r : Row) (feeRate : Decimal) : Job (Option Status) := do
  if ← claim r then
    match ← b.send r feeRate with
    | .error text =>
      record r .failed none (some text) []
      return some .failed
    | .ok txid =>
      record r .broadcast (some txid) none (" (txid: " ++ txid ++ ")")
      Job.log .info ("Sent " ++ r.amount.fixed8 ++ " BTC to " ++ r.address ++ " (txid: " ++ txid
        ++ ")")
      return some .broadcast
  else return none

def payAll (b : Batch) (feeRate : Decimal) : List Row → CycleReport → Job CycleReport
  | [], report => return report
  | r :: rest, report => do
    match ← b.pay r feeRate with
    | some .broadcast => payAll b feeRate rest { report with sent := report.sent + 1 }
    | some .failed => payAll b feeRate rest { report with failed := report.failed + 1 }
    | _ => payAll b feeRate rest report

def pending (b : Batch) : Job (Except Text (List Row)) := do
  try
    return .ok (← Store.list (some .pending) (some "id") (some b.size))
  catch e =>
    if e.isStore then
      Job.log .error ("Failed to query pending transactions: " ++ e.message)
      return .error ("store unavailable: " ++ e.message)
    else throw e

def balances : Job (Except Text Balances) := do
  try
    return .ok (← Job.wallet .balances)
  catch e =>
    if e.isForeseen then
      Job.log .error ("Failed to get wallet balance, skipping batch: " ++ e.message)
      return .error ("balance unavailable: " ++ e.message)
    else throw e

def shortfall (available needed : Decimal) (count : Nat) : Text :=
  "Insufficient balance: " ++ available.fixed8 ++ " BTC available - need " ++ needed.fixed8
    ++ " BTC for " ++ Text.ofNat count ++ " transactions"

def cycle (b : Batch) : Job CycleReport := do
  match ← b.pending with
  | .error reason => skip reason
  | .ok [] => return {}
  | .ok rows =>
    Job.log .info ("Processing batch of " ++ Text.ofNat rows.length ++ " transactions")
    let needed ← Job.ofArithmetic (Decimal.sum (rows.map Row.amount))
    Job.notify (.batchStarted rows.length needed)
    match ← balances with
    | .error reason => skip reason
    | .ok balances =>
      let available ← Job.ofArithmetic balances.available
      if ← Job.ofArithmetic (available.lt needed) then
        let reason := shortfall available needed rows.length
        Job.log .warning reason
        skip reason
      else
        let report ← b.payAll Fee.payoutRate rows { size := rows.length }
        Job.log .info ("Batch complete: " ++ Text.ofInt report.sent ++ " sent, "
          ++ Text.ofInt report.failed ++ " failed")
        Job.notify (.batchCompleted report)
        return report

end Batch

end Faucet
