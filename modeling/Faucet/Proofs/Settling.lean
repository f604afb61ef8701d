import Faucet.Merge
import Faucet.Proofs.Promise

/-!
The course of a merge. It lists what the wallet holds, settles on candidates, and either reports
why it leaves them alone or asks for a new address and spends them into it.
-/

set_option autoImplicit false

namespace Faucet

namespace Decimal

variable {x y : Decimal} {mode : Rounding} {target : Int}

theorem not_infinite_of_quantize {n : Bool} : quantize mode x target ≠ .ok (.infinite n) := by
  intro h
  cases x with
  | finite s c e =>
    simp only [quantize] at h
    split at h
    · cases h
    · split at h
      · cases h
      · split at h <;> cases h
  | infinite s => cases h
  | nan s signalling payload =>
    cases signalling <;> cases h

theorem positive_of_quantize (cut : quantize mode x target = .ok y)
    (above : y.le .zero = .ok false) :
    ∃ c, y = .finite false c target ∧ 1 ≤ c ∧ c < 10 ^ 28 := by
  cases y with
  | infinite n => exact absurd cut not_infinite_of_quantize
  | nan n s p => cases above
  | finite n c e =>
    obtain ⟨rfl, few⟩ := quantize_finite cut
    have some : c ≠ 0 := by
      rintro rfl
      cases n <;> cases above
    cases n with
    | true =>
      have below : (Decimal.finite true c e).le .zero = .ok true := by
        unfold le order compare?
        simp [zero, some]
      cases below.symm.trans above
    | false => exact ⟨c, rfl, Nat.one_le_iff_ne_zero.mpr some, few⟩

end Decimal

namespace Merge

def nothingReport (m : Merge) : MergeReport :=
  { outcome := .skipped, reason := some ("No UTXOs smaller than " ++ m.threshold.fixed8
      ++ " BTC to consolidate") }

def tooFewReport (m : Merge) (count : Nat) (total : Decimal) : MergeReport :=
  { outcome := .skipped, count := count, total := total
    reason := some ("Found " ++ Text.ofNat count ++ " small UTXOs, need at least "
      ++ Text.ofInt m.least ++ " to consolidate") }

def uncoveredReport (count : Nat) (total fee : Decimal) : MergeReport :=
  { outcome := .failed, count := count, total := total, fee := some fee
    reason := some "total amount too small to cover fees" }

def mergedReport (e : Estimate) (address txid : Text) : MergeReport :=
  { outcome := .merged, count := e.count, total := e.total, txid := some txid
    address := some address, fee := some e.fee, output := some e.output }

def uncoveredText (count : Nat) (total fee : Decimal) : Text :=
  "Consolidation of " ++ Text.ofNat count ++ " UTXOs (" ++ total.fixed8 ++ " BTC) cannot cover fee of "
    ++ fee.fixed8 ++ " BTC"

/-- What becomes of candidates once their fee is known. -/
def conclude (m : Merge) (candidates : List Unspent) (total : Decimal) (e : Estimate) :
    Job MergeReport :=
  (Job.ofArithmetic (e.output.le .zero)).bind fun short =>
    if short then (Job.log .warning (uncoveredText candidates.length total e.fee)).bind fun _ =>
      finish (uncoveredReport candidates.length total e.fee)
    else m.spend candidates e

def settle (m : Merge) : List Unspent → Job MergeReport
  | [] => finish m.nothingReport
  | u :: us => (Job.ofArithmetic (Decimal.sum ((u :: us).map (·.amount)))).bind fun total =>
    if ((u :: us).length : Int) < m.least then finish (m.tooFewReport (u :: us).length total)
    else (Job.ofArithmetic (m.estimate (u :: us).length total)).bind (m.conclude (u :: us) total)

theorem run_eq (m : Merge) : m.run = (Job.wallet (.unspent 0 9999999)).bind fun us =>
    (Job.ofArithmetic (m.select us)).bind m.settle := by
  refine congrArg (Job.bind _) (funext fun us => congrArg (Job.bind _) (funext fun candidates => ?_))
  cases candidates with
  | nil => rfl
  | cons u us =>
    change (Job.ofArithmetic _).bind _ = (Job.ofArithmetic _).bind _
    refine congrArg (Job.bind _) (funext fun total => ?_)
    rfl

end Merge

end Faucet
