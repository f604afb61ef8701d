import Faucet.Wallet.Payment

/-!
Merging of small outputs. Payouts leave the wallet with many small ones; the smallest of them that
are worth it are spent into a single new one at a low fixed rate.
-/

set_option autoImplicit false

namespace Faucet

structure Merge where
  threshold : Decimal := .finite false 1 (-3)
  least : Int := 2
  most : Int := 5
  feeRate : Decimal := Fee.mergeRate
  memo : Text := "<3 signet faucet <3"

namespace Merge

/-- Fewer outputs may be needed than are allowed, not more. -/
def validate (m : Merge) : Except Failure Merge :=
  if m.most < m.least then
    .error (.defect (.value ("invalid consolidation config, min: " ++ Text.ofInt m.least
      ++ " > max: " ++ Text.ofInt m.most)))
  else .ok m

def ascending (a b : Unspent) : Bool :=
  match Decimal.compare? a.amount b.amount with
  | some .gt => false
  | _ => true

def descending (a b : Unspent) : Bool := ascending b a

/-- Sorting needs an order between any two, so that a NaN among several amounts is a fault. -/
def sorted (before : Unspent → Unspent → Bool) (us : List Unspent) :
    Except ArithmeticFault (List Unspent) :=
  if 1 < us.length ∧ us.any (fun u => u.amount.isNaN) then .error .invalid
  else .ok (us.mergeSort before)

/-- Goes through outputs in order and takes those that may be spent, are not above the threshold and
not below the dust limit, until there are as many as are allowed. -/
def take (m : Merge) : Nat → List Unspent → Except ArithmeticFault (List Unspent)
  | _, [] => .ok []
  | taken, u :: rest => do
    if (← Decimal.lt m.threshold u.amount) || !u.spendable.truthy then take m taken rest
    else if ← u.amount.lt Money.dustLimit then take m taken rest
    else if m.most ≤ taken then return []
    else return u :: (← take m (taken + 1) rest)

def select (m : Merge) (us : List Unspent) : Except ArithmeticFault (List Unspent) := do
  take m 0 (← sorted ascending us)

def finish (r : MergeReport) : Job MergeReport := do
  let r ← Job.ofExcept (MergeReport.make r)
  Job.notify (.mergeFinished r)
  return r

structure Estimate where
  count : Nat
  total : Decimal
  size : Decimal
  fee : Decimal
  output : Decimal

/-- The memo takes an output of its own. The yield is cut to whole satoshis. -/
def estimate (m : Merge) (count : Nat) (total : Decimal) : Except ArithmeticFault Estimate := do
  let size ← Fee.size count (if m.memo.isEmpty then 1 else 2)
  let fee ← Fee.cost size m.feeRate
  let output ← Decimal.quantize .down (← Decimal.sub total fee) (-8)
  return { count, total, size, fee, output }

def mergedText (m : Merge) (e : Estimate) (address txid : Text) : Text :=
  "Consolidated " ++ Text.ofNat e.count ++ " UTXOs (" ++ e.total.fixed8 ++ " BTC) into " ++ address
    ++ ": ~" ++ e.size.toText ++ " vB at " ++ m.feeRate.toText ++ " sat/vB, fee " ++ e.fee.fixed8
    ++ " BTC, output " ++ e.output.fixed8 ++ " BTC (txid: " ++ txid ++ ")"

/-- Spends the candidates, largest first, into a new address. -/
def spend (m : Merge) (candidates : List Unspent) (e : Estimate) : Job MergeReport := do
  let address ← Job.wallet (.freshAddress "consolidated" "bech32")
  let inputs ← Job.ofArithmetic (sorted descending candidates)
  let outputs ← Job.ofExcept (Outputs.payment address e.output m.memo)
  let txid ← Job.wallet (.broadcast outputs none (some (inputs.map Unspent.outpoint)))
  Job.log .info (m.mergedText e address txid)
  finish
    { outcome := .merged, count := e.count, total := e.total, txid := some txid
      address := some address, fee := some e.fee, output := some e.output }

/-- Runs one merge. It is skipped if there are too few candidates and fails if they cannot cover the
fee. -/
def run (m : Merge) : Job MergeReport := do
  let us ← Job.wallet (.unspent 0 9999999)
  match ← Job.ofArithmetic (m.select us) with
  | [] =>
    finish { outcome := .skipped, reason := some ("No UTXOs smaller than " ++ m.threshold.fixed8
      ++ " BTC to consolidate") }
  | candidates =>
    let count := candidates.length
    let total ← Job.ofArithmetic (Decimal.sum (candidates.map (·.amount)))
    if (count : Int) < m.least then
      finish { outcome := .skipped, count := count, total := total,
               reason := some ("Found " ++ Text.ofNat count ++ " small UTXOs, need at least "
                ++ Text.ofInt m.least ++ " to consolidate") }
    else
      let e ← Job.ofArithmetic (m.estimate count total)
      if ← Job.ofArithmetic (e.output.le .zero) then
        Job.log .warning ("Consolidation of " ++ Text.ofNat count ++ " UTXOs (" ++ total.fixed8
          ++ " BTC) cannot cover fee of " ++ e.fee.fixed8 ++ " BTC")
        finish { outcome := .failed, count := count, total := total, fee := some e.fee,
                 reason := some "total amount too small to cover fees" }
      else m.spend candidates e

end Merge

end Faucet
