import Faucet.Batch
import Faucet.Duty
import Faucet.Intake
import Faucet.Merge
import Faucet.Settings.Basic
import Faucet.Upkeep
import Faucet.Wallet.Rpc

/-!
The parts of a faucet, put together from its settings, and what a long run of it does: how it opens,
and the duties that it then has until it is told to stop.
-/

set_option autoImplicit false

namespace Faucet

structure Plan where
  settings : Settings
  intake : Intake
  batch : Batch
  merge : Merge

namespace Plan

/-- Settings that were changed after they were read may not fit together. -/
def make (s : Settings) : Except Failure Plan := do
  let tiers ← match s.tiers with
    | .ok tiers => pure tiers
    | .error wording => throw (.defect (.value wording))
  let merge ← Merge.validate
    { threshold := s.mergeThreshold, least := s.mergeLeast, most := s.mergeMost
      feeRate := s.mergeFeeRate, memo := s.mergeMemo }
  return {
    settings := s
    intake :=
      { tiers := { enabled := tiers, fallback := s.defaultTier }
        quota := { most := s.mostPerSource, exempt := s.exempt } }
    batch := { size := s.batchSize, memo := s.payoutMemo }
    merge }

def rpc (s : Settings) : Except Failure Rpc :=
  Rpc.make s.rpcUrl s.rpcUser s.rpcPassword s.walletName

def autoMerge (p : Plan) : Job Unit := do
  let r ← p.merge.run
  match r.outcome with
  | .merged =>
    Job.log .info ("Auto-consolidation: " ++ r.message ++ " (txid: " ++ r.txid.getD "None" ++ ")")
  | o => Job.log .info ("Auto-consolidation " ++ o.text ++ ": " ++ r.message)

def reconcile (p : Plan) : Job Nat := Upkeep.reconcile p.settings.staleGrace

def greet (s : Settings) : Job Unit := do
  let _ ← Job.ofExcept (Level.ofName s.logLevel)
  Job.log .info "Starting signet faucet"
  Job.log .info ("Bitcoin RPC: " ++ s.rpcUrl ++ " (wallet: " ++ s.walletName ++ ")")
  Job.log .info ("Batch interval: " ++ s.batchInterval.toText ++ "s, batch size: "
    ++ Text.ofInt s.batchSize)
  Job.log .info ("Balance refresh interval: " ++ s.balanceRefreshInterval.toText ++ "s")

def mergesByItself (s : Settings) : Bool := s.autoMergeInterval.isPositive

/-- Nothing is paid before the wallet is there and what an earlier run left claimed is settled. -/
def settleIn (p : Plan) : Job Unit := do
  Upkeep.ensureWallet p.settings.walletName
  let _ ← p.reconcile
  let balance ← Purse.fillAtStart
  Job.log .info ("Initial wallet balance: " ++ balance.fixed8 ++ " BTC")
  if !mergesByItself p.settings then Job.log .info "Auto-consolidation disabled"

def duties (p : Plan) : List Duty :=
  let batches : Duty :=
    { name := "batch processor", interval := p.settings.batchInterval
      work := fun _ => do let _ ← p.batch.cycle }
  let refreshes : Duty :=
    { name := "balance refresher", interval := p.settings.balanceRefreshInterval
      work := fun _ => do let _ ← Purse.refresh }
  let merges : Duty :=
    { name := "auto-consolidation", interval := p.settings.autoMergeInterval
      work := fun _ => p.autoMerge }
  if mergesByItself p.settings then [batches, refreshes, merges] else [batches, refreshes]

def farewell (clean : Bool) : Job Unit :=
  if clean then Job.log .info "Faucet stopped gracefully"
  else Job.log .warning "Faucet forced to exit before background tasks finished"

end Plan

end Faucet
