import Faucet.Field.Basic
import Faucet.Report

/-!
Reports read from fields.
-/

set_option autoImplicit false

namespace Faucet

def MergeReport.ofFields (given : List (Text × Json)) : Except Failure MergeReport := do
  let r ← FormRead.finish "ConsolidationResult" do
    let outcome ← FormRead.required given "outcome" (Field.word MergeOutcome.ofText?) .skipped
    let count ← FormRead.field given "count" Field.int 0
    let total ← FormRead.field given "total_amount" Field.decimal .zero
    let txid ← FormRead.field given "txid" (Field.optional Field.text) none
    let address ← FormRead.field given "address" (Field.optional Field.text) none
    let fee ← FormRead.field given "estimated_fee" (Field.optional Field.decimal) none
    let output ← FormRead.field given "output_amount" (Field.optional Field.decimal) none
    let reason ← FormRead.field given "reason" (Field.optional Field.text) none
    return { outcome, count, total, txid, address, fee, output, reason : MergeReport }
  MergeReport.make r

def Health.ofFields (given : List (Text × Json)) : Except Failure Health :=
  FormRead.finish "HealthStatus" do
    let nodeOk ← FormRead.required given "node_ok" Field.bool false
    let storeOk ← FormRead.required given "store_ok" Field.bool false
    let nodeError ← FormRead.field given "node_error" (Field.optional Field.text) none
    return { nodeOk, storeOk, nodeError }

def CycleReport.ofFields (given : List (Text × Json)) : Except Failure CycleReport :=
  FormRead.finish "BatchReport" do
    let size ← FormRead.field given "size" Field.int 0
    let sent ← FormRead.field given "sent" Field.int 0
    let failed ← FormRead.field given "failed" Field.int 0
    let skipped ← FormRead.field given "skipped_reason" (Field.optional Field.text) none
    return { size, sent, failed, skipped }

def Stats.ofFields (given : List (Text × Json)) : Except Failure Stats :=
  FormRead.finish "FaucetStats" do
    let pending ← FormRead.field given "pending" Field.int 0
    let processing ← FormRead.field given "processing" Field.int 0
    let broadcast ← FormRead.field given "broadcast" Field.int 0
    let failed ← FormRead.field given "failed" Field.int 0
    let totalSent ← FormRead.field given "total_sent" Field.decimal .zero
    let cachedBalance ← FormRead.field given "cached_balance" Field.decimal .zero
    return { pending, processing, broadcast, failed, totalSent, cachedBalance }

def Receipt.ofFields (given : List (Text × Json)) : Except Failure Receipt :=
  FormRead.finish "SubmitResult" do
    let queued ← FormRead.required given "queued" Field.bool false
    let refusal ← FormRead.field given "error" (Field.optional (Field.word Refusal.ofText?)) none
    let message ← FormRead.field given "message" Field.text []
    let amount ← FormRead.field given "amount" (Field.optional Field.decimal) none
    return { queued, refusal, message, amount }

end Faucet
