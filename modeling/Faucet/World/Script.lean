import Faucet.World.Basic

/-!
The scripted wallet and the scripted transport: what they answer, how long they take, and how their
scripts move on.
-/

set_option autoImplicit false

namespace Faucet

namespace ScriptedWallet

def delayOf (s : ScriptedWallet) (c : WalletCall) : Nat := (Entries.get? s.delays c.kind).getD 0

def takeHook (s : ScriptedWallet) (c : WalletCall) : List StoreStep × ScriptedWallet :=
  match Entries.get? s.hooks c.kind with
  | none => ([], s)
  | some steps => (steps, { s with hooks := s.hooks.filter fun h => h.1 ≠ c.kind })

def errorOf? (s : ScriptedWallet) (c : WalletCall) : Option Failure :=
  (Entries.get? s.errors c.kind).join

/-- The next transaction: the next one of the script, then numbers of 64 digits from one on. -/
def nextTxid (s : ScriptedWallet) : Text × ScriptedWallet :=
  match s.txids with
  | t :: rest => (t, { s with txids := rest })
  | [] => (Text.hex 64 (s.sent + 1), { s with sent := s.sent + 1 })

def refusalOf? (s : ScriptedWallet) (outputs : Outputs) : Option Failure :=
  outputs.findSome? fun o => (Entries.get? s.refusals o.1).join

def answer (s : ScriptedWallet) : (c : WalletCall) → Except Failure c.Answer × ScriptedWallet
  | .balances => (.ok s.balances, s)
  | .unspent .. => (.ok s.unspent, s)
  | .freshAddress .. => (.ok s.freshAddress, s)
  | .broadcast outputs _ _ =>
    match s.refusalOf? outputs with
    | some e => (.error e, s)
    | none =>
      let (txid, s) := s.nextTxid
      (.ok txid, s)
  | .wallets => (.ok (s.wallets.map .text), s)
  | .load name =>
    if name ∈ s.loadable then (.ok (), { s with wallets := s.wallets ++ [name] })
    else (.error (.node "loadwallet" (.other ("Wallet file not found: " ++ name))), s)
  | .chainInfo => (.ok (.object []), s)
  | .close => (.ok (), s)

end ScriptedWallet

namespace Transport

def unknownMethod : Scripted :=
  { reply := .octets 404 <| List.flatMap CodePoint.utf8 <| Text.ofString
      "\x7b\"result\":null,\"error\":\x7b\"code\":-32601,\"message\":\"Method not found\"\x7d\x7d" }

/-- The next answer of a method; the last one stays. -/
def next (t : Transport) (method : Text) : Scripted × Transport :=
  match Entries.get? t method with
  | none | some [] => (unknownMethod, t)
  | some [s] => (s, t)
  | some (s :: rest) => (s, Entries.put t method rest)

def wrapped (id : Nat) (raw : Text) : Text :=
  "\x7b\"result\":" ++ raw ++ ",\"error\":null,\"id\":" ++ Text.ofNat id ++ "\x7d"

def replyTo (id : Nat) : ScriptedReply → Except Failure Reply
  | .raises true detail => .ok (.timedOut detail)
  | .raises false detail => .ok (.lost detail)
  | .octets status body => .ok (.response status body)
  | .result status raw => .ok (.response status ((wrapped id raw).flatMap CodePoint.utf8))
  | .broken => .error (.defect (.key "result"))

end Transport

end Faucet
