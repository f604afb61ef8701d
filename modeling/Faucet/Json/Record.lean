import Faucet.Ledger.Basic
import Faucet.Report
import Faucet.Tier
import Faucet.Wallet.Call

/-!
Records as JSON. Amounts are texts, so that no digit is lost, and whole numbers that many readers
would round are texts in an object of their own; the same holds for what a node sent.
-/

set_option autoImplicit false

namespace Faucet

namespace Json

def record (fs : List (String × Json)) : Json :=
  .object (fs.map fun f => ((f.1 : Text), f.2))

def ofOption {α : Type} (write : α → Json) : Option α → Json
  | none => .null
  | some a => write a

def ofDecimal (d : Decimal) : Json := .text d.toText

/-- A whole number that every reader keeps, or else its text. -/
def ofInt (n : Int) : Json :=
  if n.natAbs < twoTo 53 then .int n else record [("int", .text (Text.ofInt n))]

mutual

def exact : Json → Json
  | .int n => ofInt n
  | .decimal d => record [("decimal", ofDecimal d)]
  | .float x => record [("float", .text x.toText)]
  | .list xs => .list (exactItems xs)
  | .object fs => .object (exactFields fs)
  | v => v

def exactItems : List Json → List Json
  | [] => []
  | v :: vs => exact v :: exactItems vs

def exactFields : List (Text × Json) → List (Text × Json)
  | [] => []
  | (n, v) :: rest => (n, exact v) :: exactFields rest

end

end Json

open Json

def Row.toJson (r : Row) : Json :=
  record [("id", .int r.id), ("address", .text r.address), ("source", .text r.source),
    ("amount", ofDecimal r.amount), ("sats", .text (Text.ofInt r.sats)),
    ("status", .text r.status.text), ("txid", ofOption .text r.txid),
    ("error", ofOption .text r.error), ("created", .int r.created), ("updated", .int r.updated)]

def Receipt.toJson (r : Receipt) : Json :=
  record [("queued", .bool r.queued), ("error", ofOption (fun e => .text e.text) r.refusal),
    ("message", .text r.message), ("amount", ofOption ofDecimal r.amount)]

def MergeReport.toJson (r : MergeReport) : Json :=
  record [("outcome", .text r.outcome.text), ("count", .int r.count),
    ("total", ofDecimal r.total), ("txid", ofOption .text r.txid),
    ("address", ofOption .text r.address), ("fee", ofOption ofDecimal r.fee),
    ("output", ofOption ofDecimal r.output), ("reason", ofOption .text r.reason),
    ("message", .text r.message)]

def CycleReport.toJson (r : CycleReport) : Json :=
  record [("size", .int r.size), ("sent", .int r.sent), ("failed", .int r.failed),
    ("skipped_reason", ofOption .text r.skipped)]

def Health.toJson (h : Health) : Json :=
  record [("node_ok", .bool h.nodeOk), ("store_ok", .bool h.storeOk),
    ("node_error", ofOption .text h.nodeError), ("healthy", .bool h.healthy)]

def Stats.toJson (s : Stats) : Json :=
  record [("pending", .int s.pending), ("processing", .int s.processing),
    ("broadcast", .int s.broadcast), ("failed", .int s.failed),
    ("total_sent", ofDecimal s.totalSent), ("cached_balance", ofDecimal s.cachedBalance)]

def Tier.toJson (t : Tier) : Except Failure Json := do
  let width ← t.width
  return .list [.int t.id, ofDecimal t.least, ofDecimal t.most, .text (← Money.wholeText width)]

def Outputs.toJson (o : Outputs) : Json := .object (o.map fun p => (p.1, .text p.2))

def Unspent.toJson (u : Unspent) : Json :=
  record [("txid", exact u.txid), ("vout", exact u.vout), ("address", exact u.address),
    ("amount", ofDecimal u.amount), ("confirmations", exact u.confirmations),
    ("spendable", exact u.spendable), ("solvable", exact u.solvable), ("safe", exact u.safe)]

end Faucet
