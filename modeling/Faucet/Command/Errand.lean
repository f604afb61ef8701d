import Faucet.Command.Basic
import Faucet.Plan

/-!
What errands do and what they say. Whatever comes of an errand, the faucet is closed afterwards.
-/

set_option autoImplicit false

namespace Faucet

structure Ending where
  code : Nat := 0
  output : Text := []
  escaped : Option Failure := none

namespace Ending

def lines (ls : List Text) : Text := ls.flatMap (· ++ [10])

def misuse : Ending := { code := 2 }

def ofDefect (e : Failure) : Ending := { code := 1, escaped := some e }

def inBitcoin (d : Decimal) : Text := d.fixed8 ++ " BTC"

def ofReceipt (r : Receipt) : Ending :=
  if r.queued then
    { output := lines [r.message ++ " Amount: " ++ inBitcoin (r.amount.getD .zero)] }
  else
    let reason : Text := match r.refusal with
      | some refusal => refusal.text
      | none => "error"
    { code := 1, output := lines ["Rejected (" ++ reason ++ "): " ++ r.message] }

def ofMerge (r : MergeReport) : Ending :=
  match r.outcome with
  | .merged =>
    { output := lines [r.message, "txid: " ++ r.txid.getD "None",
        "address: " ++ r.address.getD "None",
        "estimated fee: " ++ inBitcoin (r.fee.getD .zero)] }
  | .skipped => { output := lines [r.message] }
  | .failed => { code := 1, output := lines [r.message] }

def ofStats (s : Stats) : Ending :=
  { output := lines ["pending:    " ++ Text.ofInt s.pending,
      "processing: " ++ Text.ofInt s.processing, "broadcast:  " ++ Text.ofInt s.broadcast,
      "failed:     " ++ Text.ofInt s.failed, "total sent: " ++ inBitcoin s.totalSent] }

def ofReconciled (n : Nat) : Ending :=
  { output := lines ["Marked " ++ Text.ofNat n ++ " stuck payouts as failed"] }

end Ending

/-- Does a job and closes the faucet, whatever came of it. -/
def Job.thenClose {α : Type} (j : Job α) : Job α := do
  let r ← j.outcome
  Upkeep.close
  Job.ofExcept r

namespace Errand

def work (p : Plan) : Errand → Job Ending
  | .submit address tier source => do
    return .ofReceipt (← (p.intake.submit address tier source).thenClose)
  | .merge => do return .ofMerge (← p.merge.run.thenClose)
  | .balance => do
    let balance ← Wallet.available.thenClose
    return { output := Ending.lines [Ending.inBitcoin balance] }
  | .stats => do return .ofStats (← Upkeep.stats.thenClose)
  | .reconcile => do return .ofReconciled (← p.reconcile.thenClose)

end Errand

namespace Command

def complaint? : Command → Option Text
  | .run => some "Faucet stopped: "
  | .errand .merge => some "Consolidation failed: "
  | .errand .balance => some "Failed to get wallet balance: "
  | .errand _ => none

end Command

end Faucet
