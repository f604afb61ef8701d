import Faucet.Json.Record
import Faucet.Settings.Basic

/-!
Settings as fields by name: all of them to look at, and single ones to change in settings that have
been checked before. A change is not checked again.
-/

set_option autoImplicit false

namespace Faucet.Settings

open Json (ofOption ofInt ofDecimal) in
/-- All fields in the order of their names' list. Numbers with a fraction are texts. -/
def toJson (s : Settings) : Json :=
  Json.record [("rpc_url", .text s.rpcUrl), ("rpc_user", .text s.rpcUser),
    ("rpc_password", .text s.rpcPassword), ("rpc_timeout", .text s.rpcTimeout.toText),
    ("wallet_name", .text s.walletName), ("data_dir", .text s.dataDir.text),
    ("database_url", ofOption .text s.databaseUrl),
    ("batch_interval", .text s.batchInterval.toText), ("batch_size", ofInt s.batchSize),
    ("balance_refresh_interval", .text s.balanceRefreshInterval.toText),
    ("auto_consolidation_interval", .text s.autoMergeInterval.toText),
    ("shutdown_timeout", .text s.shutdownTimeout.toText),
    ("stale_processing_grace", .text s.staleGrace.toText),
    ("enabled_amount_tiers", .text s.enabledTiers),
    ("default_amount_tier", ofInt s.defaultTier), ("payout_memo", .text s.payoutMemo),
    ("max_withdrawals_per_source_24h", ofInt s.mostPerSource),
    ("source_allowlist", .text s.sourceAllowlist),
    ("consolidation_amount_threshold", ofDecimal s.mergeThreshold),
    ("consolidation_max_utxos", ofInt s.mergeMost),
    ("consolidation_min_utxos", ofInt s.mergeLeast),
    ("consolidation_fee_rate", ofDecimal s.mergeFeeRate),
    ("consolidation_memo", .text s.mergeMemo), ("log_level", .text s.logLevel)]

def wanted {α : Type} (old : α) (r : FieldRead α) : α := r.toOption.getD old

def texts (s : Settings) (name value : Text) : Settings :=
  if name = "rpc_url" then { s with rpcUrl := value }
  else if name = "rpc_user" then { s with rpcUser := value }
  else if name = "rpc_password" then { s with rpcPassword := value }
  else if name = "wallet_name" then { s with walletName := value }
  else if name = "database_url" then { s with databaseUrl := some value }
  else if name = "enabled_amount_tiers" then { s with enabledTiers := value }
  else if name = "payout_memo" then { s with payoutMemo := value }
  else if name = "source_allowlist" then { s with sourceAllowlist := value }
  else if name = "consolidation_memo" then { s with mergeMemo := value }
  else if name = "log_level" then { s with logLevel := value }
  else s

def amounts (s : Settings) (name : Text) (value : Json) : Settings :=
  let d (old : Decimal) : Decimal := (Decimal.ofText value.display).toOption.getD old
  if name = "consolidation_amount_threshold" then
    { s with mergeThreshold := d s.mergeThreshold }
  else if name = "consolidation_fee_rate" then
    { s with mergeFeeRate := d s.mergeFeeRate }
  else s

def counts (s : Settings) (name : Text) (value : Json) : Settings :=
  let n (old : Int) : Int := wanted old (Field.int value)
  if name = "batch_size" then { s with batchSize := n s.batchSize }
  else if name = "default_amount_tier" then { s with defaultTier := n s.defaultTier }
  else if name = "max_withdrawals_per_source_24h" then
    { s with mostPerSource := n s.mostPerSource }
  else if name = "consolidation_max_utxos" then { s with mergeMost := n s.mergeMost }
  else if name = "consolidation_min_utxos" then { s with mergeLeast := n s.mergeLeast }
  else s

def times (s : Settings) (name : Text) (value : Json) : Settings :=
  let x (old : Binary64) : Binary64 := wanted old (Field.binary value)
  if name = "rpc_timeout" then { s with rpcTimeout := x s.rpcTimeout }
  else if name = "batch_interval" then { s with batchInterval := x s.batchInterval }
  else if name = "balance_refresh_interval" then
    { s with balanceRefreshInterval := x s.balanceRefreshInterval }
  else if name = "auto_consolidation_interval" then
    { s with autoMergeInterval := x s.autoMergeInterval }
  else if name = "shutdown_timeout" then { s with shutdownTimeout := x s.shutdownTimeout }
  else if name = "stale_processing_grace" then { s with staleGrace := x s.staleGrace }
  else s

def change (s : Settings) (name : Text) (value : Json) : Settings :=
  match value with
  | .text t => ((s.texts name t).amounts name value).counts name value |>.times name value
  | _ => ((s.amounts name value).counts name value).times name value

end Faucet.Settings
