import Faucet.Field.Basic
import Faucet.Path
import Faucet.Text.Integer
import Faucet.Tier

/-!
The settings of a run. Every field has a default; a field that is given has to keep to its own rule,
and the fields together to a few more.
-/

set_option autoImplicit false

namespace Faucet

def Field.path : Json → FieldRead Path
  | .text t => .ok (.ofText t)
  | _ => .error "path_type"

structure Settings where
  rpcUrl : Text
  rpcUser : Text
  rpcPassword : Text
  rpcTimeout : Binary64
  walletName : Text
  dataDir : Path
  databaseUrl : Option Text
  batchInterval : Binary64
  batchSize : Int
  balanceRefreshInterval : Binary64
  autoMergeInterval : Binary64
  shutdownTimeout : Binary64
  staleGrace : Binary64
  enabledTiers : Text
  defaultTier : Int
  payoutMemo : Text
  mostPerSource : Int
  sourceAllowlist : Text
  mergeThreshold : Decimal
  mergeMost : Int
  mergeLeast : Int
  mergeFeeRate : Decimal
  mergeMemo : Text
  logLevel : Text

namespace Settings

def names : List Text :=
  ["rpc_url", "rpc_user", "rpc_password", "rpc_timeout", "wallet_name", "data_dir", "database_url",
   "batch_interval", "batch_size", "balance_refresh_interval", "auto_consolidation_interval",
   "shutdown_timeout", "stale_processing_grace", "enabled_amount_tiers", "default_amount_tier",
   "payout_memo", "max_withdrawals_per_source_24h", "source_allowlist",
   "consolidation_amount_threshold", "consolidation_max_utxos", "consolidation_min_utxos",
   "consolidation_fee_rate", "consolidation_memo", "log_level"]

def seconds (n : Nat) : Binary64 := .ofRatio false n 1

def memo : Text := "<3 signet faucet <3"

def fields (given : List (Text × Json)) : FormRead Settings := do
  let rpcUrl ← FormRead.field given "rpc_url" Field.text "http://127.0.0.1:38332"
  let rpcUser ← FormRead.field given "rpc_user" Field.text ""
  let rpcPassword ← FormRead.field given "rpc_password" Field.text ""
  let rpcTimeout ← FormRead.field given "rpc_timeout" Field.positive (seconds 5)
  let walletName ← FormRead.field given "wallet_name" Field.text "faucet"
  let dataDir ← FormRead.field given "data_dir" Field.path (.ofText "data")
  let databaseUrl ← FormRead.field given "database_url" (Field.optional Field.text) none
  let batchInterval ← FormRead.field given "batch_interval" Field.positive (seconds 60)
  let batchSize ← FormRead.field given "batch_size" (Field.atLeast 1) 50
  let balanceRefreshInterval ←
    FormRead.field given "balance_refresh_interval" Field.positive (seconds 300)
  let autoMergeInterval ←
    FormRead.field given "auto_consolidation_interval" Field.nonnegative (seconds 0)
  let shutdownTimeout ← FormRead.field given "shutdown_timeout" Field.positive (seconds 30)
  let staleGrace ← FormRead.field given "stale_processing_grace" Field.nonnegative (seconds 600)
  let enabledTiers ← FormRead.field given "enabled_amount_tiers" Field.text "1,2,3"
  let defaultTier ← FormRead.field given "default_amount_tier" Field.int 2
  let payoutMemo ← FormRead.field given "payout_memo" Field.text memo
  let mostPerSource ←
    FormRead.field given "max_withdrawals_per_source_24h" (Field.atLeast 0) 2
  let sourceAllowlist ← FormRead.field given "source_allowlist" Field.text "127.0.0.1"
  let mergeThreshold ← FormRead.field given "consolidation_amount_threshold" Field.positiveDecimal
    (.finite false 1 (-3))
  let mergeMost ← FormRead.field given "consolidation_max_utxos" (Field.atLeast 1) 5
  let mergeLeast ← FormRead.field given "consolidation_min_utxos" (Field.atLeast 1) 2
  let mergeFeeRate ←
    FormRead.field given "consolidation_fee_rate" Field.positiveDecimal Fee.mergeRate
  let mergeMemo ← FormRead.field given "consolidation_memo" Field.text memo
  let logLevel ← FormRead.field given "log_level" Field.text "INFO"
  return { rpcUrl, rpcUser, rpcPassword, rpcTimeout, walletName, dataDir, databaseUrl,
           batchInterval, batchSize, balanceRefreshInterval, autoMergeInterval, shutdownTimeout,
           staleGrace, enabledTiers, defaultTier, payoutMemo, mostPerSource, sourceAllowlist,
           mergeThreshold, mergeMost, mergeLeast, mergeFeeRate, mergeMemo, logLevel }

def unknownNames (given : List (Text × Json)) : FormRead Unit :=
  given.forM fun g => if g.1 ∈ names then pure () else FormRead.note g.1 "extra_forbidden"

def items (t : Text) : List Text := ((Text.splitOn 44 t).map Text.strip).filter (· ≠ [])

def tierOf (item : Text) : Except Text Int :=
  let refused : Text := "invalid amount tier: " ++ item ++ " (must be 1-4)"
  match Text.toInt? item with
  | none => .error refused
  | some n => if Tier.table.any fun t => t.id = n then .ok n else .error refused

def tiers (s : Settings) : Except Text (List Int) := (items s.enabledTiers).mapM tierOf

def exempt (s : Settings) : List Text := items s.sourceAllowlist

def agree (s : Settings) : Except Text Unit :=
  if s.mergeMost < s.mergeLeast then
    .error ("invalid consolidation config, min: " ++ Text.ofInt s.mergeLeast ++ " > max: "
      ++ Text.ofInt s.mergeMost)
  else do
    let tiers ← s.tiers
    if tiers.isEmpty then .error "at least one amount tier must be enabled"
    else if s.defaultTier ∉ tiers then
      .error ("default_amount_tier " ++ Text.ofInt s.defaultTier
        ++ " is not in enabled amount tiers")
    else .ok ()

def ofFields (given : List (Text × Json)) : Except Failure Settings := do
  let s ← FormRead.finish "Settings" do
    let s ← fields given
    unknownNames given
    return s
  match agree s with
  | .ok () => return s
  | .error wording =>
    if wording.isEncodable then
      throw (.defect (.validation "Settings" [⟨[], "value_error", some wording⟩]))
    else throw (.defect (.unencodable wording))

/-- Where the ledger is: where the settings say, or else in a file in the data directory. -/
def database (s : Settings) : Text :=
  match s.databaseUrl with
  | some (c :: cs) => c :: cs
  | _ => "sqlite:///" ++ (s.dataDir.child "faucet.db").text

def requireCredentials (s : Settings) : Except Failure Unit :=
  if s.rpcUser.isEmpty then .error (.configuration .userMissing)
  else if s.rpcPassword.isEmpty then .error (.configuration .passwordMissing)
  else .ok ()

end Settings

end Faucet
