import Faucet.Money
import Faucet.Text.Upper

/-!
What the faucet reports: the outcome of a request, of a batch, of a merge, its health and its
totals, and the log lines and events by which it tells of its progress.
-/

set_option autoImplicit false

namespace Faucet

inductive Level where
  | trace | debug | info | success | warning | error | critical
deriving DecidableEq, Repr

namespace Level

def all : List Level := [.trace, .debug, .info, .success, .warning, .error, .critical]

def text : Level → Text
  | .trace => "TRACE"
  | .debug => "DEBUG"
  | .info => "INFO"
  | .success => "SUCCESS"
  | .warning => "WARNING"
  | .error => "ERROR"
  | .critical => "CRITICAL"

def severity : Level → Nat
  | .trace => 5
  | .debug => 10
  | .info => 20
  | .success => 25
  | .warning => 30
  | .error => 40
  | .critical => 50

def ofName (name : Text) : Except Failure Level :=
  match all.find? fun l => l.text = name.upper with
  | some l => .ok l
  | none => .error (.defect (.value ("Level '" ++ name.upper ++ "' does not exist")))

end Level

def amountRule (field : Text) (d : Decimal) : List FieldFault :=
  if d.isFinite then [] else [⟨[field], "finite_number", none⟩]

def optionalAmountRule (field : Text) : Option Decimal → List FieldFault
  | none => []
  | some d => amountRule field d

def checked {α : Type} (record : Text) (faults : List FieldFault) (a : α) : Except Failure α :=
  if faults.isEmpty then .ok a else .error (.defect (.validation record faults))

inductive Refusal where
  | invalidAddress | rateLimited | duplicateAddress | invalidTier | internal
deriving DecidableEq, Repr

namespace Refusal

def all : List Refusal := [.invalidAddress, .rateLimited, .duplicateAddress, .invalidTier, .internal]

def text : Refusal → Text
  | .invalidAddress => "invalid_address"
  | .rateLimited => "rate_limited"
  | .duplicateAddress => "duplicate_address"
  | .invalidTier => "invalid_tier"
  | .internal => "internal"

def ofText? (t : Text) : Option Refusal := all.find? fun r => r.text = t

end Refusal

structure Receipt where
  queued : Bool
  refusal : Option Refusal := none
  message : Text := []
  amount : Option Decimal := none

namespace Receipt

def welcome : Text := "Address queued, coins are on the way!"

def accepted (amount : Decimal) : Except Failure Receipt :=
  checked "SubmitResult" (amountRule "amount" amount)
    { queued := true, message := welcome, amount := some amount }

def refused (refusal : Refusal) (message : Text) : Receipt :=
  { queued := false, refusal := some refusal, message }

end Receipt

/-- Counts of one batch cycle, or the reason why nothing was touched. -/
structure CycleReport where
  size : Int := 0
  sent : Int := 0
  failed : Int := 0
  skipped : Option Text := none
deriving DecidableEq

inductive MergeOutcome where
  | merged | skipped | failed
deriving DecidableEq, Repr

namespace MergeOutcome

def all : List MergeOutcome := [.merged, .skipped, .failed]

def text : MergeOutcome → Text
  | .merged => "consolidated"
  | .skipped => "skipped"
  | .failed => "failed"

def ofText? (t : Text) : Option MergeOutcome := all.find? fun o => o.text = t

end MergeOutcome

structure MergeReport where
  outcome : MergeOutcome
  count : Int := 0
  total : Decimal := .zero
  txid : Option Text := none
  address : Option Text := none
  fee : Option Decimal := none
  output : Option Decimal := none
  reason : Option Text := none

def isFilled : Option Text → Bool
  | some (_ :: _) => true
  | _ => false

namespace MergeReport

def exclusive (r : MergeReport) : List FieldFault :=
  match r.outcome with
  | .merged =>
    if isFilled r.txid && !isFilled r.reason then []
    else [⟨[], "value_error", some "consolidated result needs a txid and no reason"⟩]
  | o =>
    if isFilled r.reason && !isFilled r.txid then []
    else [⟨[], "value_error", some (o.text ++ " result needs a reason and no txid")⟩]

def fieldRules (r : MergeReport) : List FieldFault :=
  amountRule "total_amount" r.total ++ optionalAmountRule "estimated_fee" r.fee
    ++ optionalAmountRule "output_amount" r.output

/-- The fields are looked at one by one before they are looked at together. -/
def make (r : MergeReport) : Except Failure MergeReport :=
  let faults := fieldRules r
  checked "ConsolidationResult" (if faults.isEmpty then exclusive r else faults) r

def message (r : MergeReport) : Text :=
  match r.outcome with
  | .merged =>
    "Consolidated " ++ Text.ofInt r.count ++ " UTXOs (" ++ r.total.fixed8 ++ " BTC)"
  | _ => r.reason.getD []

end MergeReport

structure Health where
  nodeOk : Bool
  storeOk : Bool
  nodeError : Option Text := none

def Health.healthy (h : Health) : Bool := h.nodeOk && h.storeOk

structure Stats where
  pending : Int := 0
  processing : Int := 0
  broadcast : Int := 0
  failed : Int := 0
  totalSent : Decimal := .zero
  cachedBalance : Decimal := .zero

def Stats.make (s : Stats) : Except Failure Stats :=
  checked "FaucetStats" (amountRule "total_sent" s.totalSent
    ++ amountRule "cached_balance" s.cachedBalance) s

inductive Event where
  | batchStarted (size : Int) (required : Decimal)
  | batchSkipped (reason : Text)
  | batchCompleted (report : CycleReport)
  | mergeFinished (report : MergeReport)
  | balanceRefreshed (balance : Decimal)

/-- The log line of an event, for a run without an observer of its own. -/
def Event.line : Event → Level × Text
  | .batchStarted size required =>
    (.debug, "Batch started: " ++ Text.ofInt size ++ " requests, " ++ required.fixed8
      ++ " BTC required")
  | .batchSkipped reason => (.debug, "Batch skipped: " ++ reason)
  | .batchCompleted r =>
    (.debug, "Batch completed: " ++ Text.ofInt r.sent ++ " sent, " ++ Text.ofInt r.failed
      ++ " failed")
  | .mergeFinished r => (.debug, "Consolidation " ++ r.outcome.text ++ ": " ++ r.message)
  | .balanceRefreshed balance => (.trace, "Cached balance: " ++ balance.fixed8 ++ " BTC")

end Faucet
