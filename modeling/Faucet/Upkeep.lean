import Faucet.Ledger.Store
import Faucet.Purse

/-!
What a run does besides paying: it makes sure of its wallet, fails the payouts that an earlier run
left claimed, and tells of its state.
-/

set_option autoImplicit false

namespace Faucet.Upkeep

def nameIs (name : Text) : Json → Bool
  | .text t => t = name
  | _ => false

def loadedWallets : Job (List Json) := do
  try
    Job.wallet .wallets
  catch e =>
    if e.isForeseen then throw (.configuration (.walletsUnlisted e.message)) else throw e

def loadWallet (name : Text) : Job Unit := do
  try
    Job.wallet (.load name)
  catch e =>
    if e.isForeseen then throw (.configuration (.walletUnloadable name e.message)) else throw e

def ensureWallet (name : Text) : Job Unit := do
  if !(← loadedWallets).any (nameIs name) then
    Job.log .info ("'" ++ name ++ "' wallet not loaded, attempting to load it...")
    loadWallet name
    Job.log .info ("'" ++ name ++ "' wallet loaded successfully")
  Job.log .info ("Bitcoin RPC connection verified, '" ++ name ++ "' wallet loaded")

/-- Fails payouts that have been claimed for longer than a number of seconds. -/
def reconcile (grace : Binary64) : Job Nat := do
  let span ← Job.ofExcept (Span.ofSeconds grace)
  let count ← Store.failStale span none
  if count ≠ 0 then
    Job.log .warning ("Marked " ++ Text.ofNat count ++ " interrupted payouts as failed")
  return count

def stats : Job Stats := do
  let pending ← Store.count .pending
  let processing ← Store.count .processing
  let broadcast ← Store.count .broadcast
  let failed ← Store.count .failed
  let totalSent ← Store.totalBroadcast
  let cachedBalance ← Job.cached
  Job.ofExcept (Stats.make { pending, processing, broadcast, failed, totalSent, cachedBalance })

def nodeError : Job (Option Text) := do
  try
    let _ ← Job.wallet .chainInfo
    return none
  catch e => if e.isForeseen then return some e.message else throw e

def health : Job Health := do
  let nodeError ← nodeError
  let storeOk ← Store.ping
  return { nodeOk := nodeError.isNone, storeOk, nodeError }

def close : Job Unit := do
  Job.wallet .close
  Job.closeStore

end Faucet.Upkeep
