import Faucet.Json.Reader
import Faucet.Json.Writer
import Faucet.Job.Basic

/-!
The wallet of a node, reached by JSON-RPC over HTTP. Each call of the wallet is a short exchange of
requests; what a reply lacks or has too much of is a fault of the request that it answers.
-/

set_option autoImplicit false

namespace Faucet

/-- Where the node is, how a request shows who asks, and which of the node's wallets is meant. -/
structure Rpc where
  url : Text
  authorization : Text
  wallet : Text

namespace Rpc

def authorizationFor (user password : Text) : Except Failure Text :=
  match user.utf8?, password.utf8? with
  | some u, some p => .ok ("Basic " ++ Text.ofOctetsBase64 (u ++ 58 :: p))
  | none, _ => .error (.defect (.unencodable user))
  | _, none => .error (.defect (.unencodable password))

def make (url user password wallet : Text) : Except Failure Rpc := do
  return { url := url.trimRight (· = 47), authorization := ← authorizationFor user password, wallet }

def walletUrl (r : Rpc) : Text := r.url ++ "/wallet/" ++ r.wallet

def previewLength : Nat := 200

def preview (body : Octets) : Text :=
  let t := Text.ofUtf8Lenient body
  if previewLength < t.length then t.take previewLength ++ "..." else t

mutual

/-- What keeps a value from being sent, if anything does: a decimal or a number that JSON has no
text for. -/
def unsendable? : Json → Option Defect
  | .decimal _ => some (.wrongType "Object of type Decimal is not JSON serializable")
  | .float x =>
    match x with
    | .finite .. => none
    | _ => some (.value "Out of range float values are not JSON compliant")
  | .list items => unsendableItem? items
  | .object fields => unsendableField? fields
  | _ => none

def unsendableItem? : List Json → Option Defect
  | [] => none
  | v :: vs => (unsendable? v).orElse fun _ => unsendableItem? vs

def unsendableField? : List (Text × Json) → Option Defect
  | [] => none
  | (_, v) :: rest => (unsendable? v).orElse fun _ => unsendableField? rest

end

def bodyText (id : Nat) (method : Text) (params : List Json) : Text :=
  Json.write false (.object
    [("jsonrpc", .text "2.0"), ("id", .int id), ("method", .text method), ("params", .list params)])

def checkBody (id : Nat) (method : Text) (params : List Json) : Except Failure Unit :=
  match unsendableItem? params with
  | some d => .error (.defect d)
  | none =>
    let body := bodyText id method params
    if body.isEncodable then .ok () else .error (.defect (.unencodable body))

def readFailure (method : Text) (status : Nat) (body : Octets) : Json.ReadError → Failure
  | .malformed => .node method (.badReply status (preview body))
  | .outOfRange fault => .defect (.arithmetic fault)
  | .tooLong digits =>
    .defect (.value ("Exceeds the limit (4300 digits) for integer string conversion: value has "
      ++ Text.ofNat digits
      ++ " digits; use sys.set_int_max_str_digits() to increase the limit"))
  | .tooDeep =>
    .defect (.named "RecursionError"
      "maximum recursion depth exceeded while decoding a JSON array from a unicode string")

def readBody (method : Text) (status : Nat) (body : Octets) : Except Failure Json :=
  match Json.decode body with
  | .error fault => .error (.defect (.undecodable fault))
  | .ok t => match Json.ofText t with
    | .ok v => .ok v
    | .error e => .error (readFailure method status body e)

def reported? (reply : Json) : Option NodeFault :=
  match (reply.field? "error").getD .null with
  | .object [] => none
  | .object fields =>
    let code := (Json.lookup "code" fields).getD (.text "unknown")
    let message := (Json.lookup "message" fields).getD (.text (Json.shown (.object fields)))
    some (.reported code message)
  | other => if other.truthy then some (.reported (.text "unknown") (.text other.display)) else none

/-- The result in a reply. Refused credentials come before the body is looked at, an error that the
body reports before the status of the reply. -/
def result (method : Text) (status : Nat) (body : Octets) : Except Failure Json :=
  if status = 401 then .error (.node method .unauthorized)
  else if status = 403 then .error (.node method .forbidden)
  else do
    let reply ← readBody method status body
    match reply with
    | .object _ =>
      match reported? reply with
      | some fault => throw (.node method fault)
      | none =>
        if status ≠ 200 then throw (.node method (.badReply status (preview body)))
        else return (reply.field? "result").getD .null
    | _ => throw (.node method (.unexpected (preview body)))

def target (url : Text) : Except Failure Url := do
  let u ← (Url.ofText url).mapError .defect
  return u.requested

def checkService (u : Url) : Except Failure Unit :=
  if u.service.any Charset.ascii.lacks then .error (.defect (.unencodable u.service .ascii))
  else .ok ()

def checkTarget (u : Url) : Except Failure Unit :=
  if u.isAbsolute then .ok ()
  else .error (.defect (.value ("unknown url type: " ++ u.text.quoted)))

/-- One request. Its number is used up even if its parameters cannot be sent. -/
def call (r : Rpc) (method : Text) (params : List Json) (onWallet : Bool := true) : Job Json := do
  let id ← Job.requestId
  let url := if onWallet then r.walletUrl else r.url
  let target ← Job.ofExcept (target url)
  Job.ofExcept (checkBody id method params)
  Job.ofExcept (checkService target)
  match ← Job.send { url := target, authorization := r.authorization, id, method, params } with
  | .timedOut detail =>
    Job.log .error ("RPC call timed out: " ++ method ++ " - " ++ detail)
    throw (.node method (.timedOut detail))
  | .lost detail =>
    Job.log .error ("RPC call failed: " ++ method ++ " - " ++ detail)
    throw (.node method (.unsent url detail))
  | .response status body =>
    Job.ofExcept (checkTarget target)
    Job.ofExcept (result method status body)

def wrongType (method expected : Text) (v : Json) : Failure :=
  .node method (.wrongType expected v.typeName)

def expectText (method : Text) : Json → Except Failure Text
  | .text t => .ok t
  | v => .error (wrongType method "str" v)

def expectList (method : Text) : Json → Except Failure (List Json)
  | .list items => .ok items
  | v => .error (wrongType method "list" v)

def expectObject (method : Text) : Json → Except Failure (List (Text × Json))
  | .object fields => .ok fields
  | v => .error (wrongType method "dict" v)

def malformedTuple {α : Type} (message : Text) : Except Failure α :=
  .error (.defect (.value message))

inductive TupleKind where
  | finite (exponent : Int)
  | infinite
  | nan (signalling : Bool)

def tupleWord (word refusal : Text) : Json → Except Failure Int
  | .int n =>
    if -(twoTo 63 : Int) ≤ n ∧ n < twoTo 63 then .ok n
    else .error (.defect (.overflow ("Python int too large to convert to C " ++ word)))
  | .bool b => .ok (if b then 1 else 0)
  | _ => malformedTuple refusal

def tupleSign (v : Json) : Except Failure Bool := do
  let refusal : Text := "sign must be an integer with the value 0 or 1"
  let n ← tupleWord "long" refusal v
  if n = 0 then return false
  else if n = 1 then return true
  else malformedTuple refusal

def tupleKind : Json → Except Failure TupleKind
  | .text t =>
    if t = "F" then .ok .infinite
    else if t = "n" then .ok (.nan false)
    else if t = "N" then .ok (.nan true)
    else malformedTuple "string argument in the third position must be 'F', 'n' or 'N'"
  | v => (tupleWord "ssize_t" "exponent must be an integer" v).map .finite

def tupleDigits : Json → Except Failure (List Nat)
  | .list items => items.mapM fun v => do
    let n ← tupleWord "long" refusal v
    if 0 ≤ n ∧ n ≤ 9 then return n.toNat else malformedTuple refusal
  | _ => malformedTuple refusal
where
  refusal : Text := "coefficient must be a tuple of digits"

/-- A number given as sign, digits and exponent, the exponent being a letter for what is no finite
number. -/
def tupleAmount (sign digits exponent : Json) : Except Failure Decimal := do
  let negative ← tupleSign sign
  let kind ← tupleKind exponent
  let c := Text.natOfDigits (← tupleDigits digits)
  match kind with
  | .infinite => return .infinite negative
  | .nan signalling => return .nan negative signalling c
  | .finite e =>
    if Decimal.readable c e then return .finite negative c e
    else throw (.defect (.arithmetic .invalid))

def amount : Json → Except Failure Decimal
  | .int n => .ok (.ofInt n)
  | .bool b => .ok (.ofInt (if b then 1 else 0))
  | .decimal d => .ok d
  | .float x => .ok x.toDecimal
  | .text t => (liftM (Decimal.ofText t) : Except Failure Decimal)
  | .list [sign, digits, exponent] => tupleAmount sign digits exponent
  | .list _ => malformedTuple "argument must be a sequence of length 3"
  | v => .error (.defect (.wrongType ("conversion from " ++ v.typeName
      ++ " to Decimal is not supported")))

def balancesOf (v : Json) : Except Failure Balances := do
  let reply ← expectObject "getbalances" v
  let mine ← expectObject "getbalances" ((Json.lookup "mine" reply).getD (.object []))
  let part (name : Text) : Except Failure Decimal :=
    amount ((Json.lookup name mine).getD (.int 0))
  return { trusted := ← part "trusted", untrusted := ← part "untrusted_pending",
           immature := ← part "immature" }

def noFields (v : Json) : Defect :=
  match v with
  | .text _ => .wrongType "string indices must be integers, not 'str'"
  | .list _ => .wrongType "list indices must be integers or slices, not str"
  | .decimal _ => .wrongType "'decimal.Decimal' object is not subscriptable"
  | v => .wrongType ("'" ++ v.typeName ++ "' object is not subscriptable")

def unspentOf : Json → Except Failure Unspent
  | .object fields => do
    let need (name : Text) : Except Failure Json :=
      match Json.lookup name fields with
      | some v => .ok v
      | none => .error (.defect (.key name))
    let optional (name : Text) (v : Json) : Json := (Json.lookup name fields).getD v
    let txid ← need "txid"
    let vout ← need "vout"
    let amount ← amount (← need "amount")
    return { txid, vout, amount
             address := optional "address" (.text [])
             confirmations := optional "confirmations" (.int 0)
             spendable := optional "spendable" (.bool false)
             solvable := optional "solvable" (.bool false)
             safe := optional "safe" (.bool false) }
  | v => .error (.defect (noFields v))

/-- A label is sent if there is one or if a kind of address follows it. -/
def addressParams (label kind : Text) : List Json :=
  if kind.isEmpty then (if label.isEmpty then [] else [.text label]) else [.text label, .text kind]

def outputsJson (outputs : Outputs) : Json :=
  .object (outputs.map fun o => (o.1, .text o.2))

def fund (r : Rpc) (raw : Text) (feeRate : Option Decimal) : Job Text := do
  let options ← match feeRate with
    | none => pure []
    | some rate =>
      if ← Job.ofArithmetic (Decimal.lt .zero rate) then
        pure [.object [("fee_rate", .text rate.fixed8)]]
      else pure []
  let method : Text := "fundrawtransaction"
  let funded ← Job.ofExcept (expectObject method (← r.call method (.text raw :: options)))
  Job.log .debug ("Funded transaction, fee: "
    ++ ((Json.lookup "fee" funded).getD .null).display ++ " BTC")
  Job.ofExcept (expectText method ((Json.lookup "hex" funded).getD .null))

def sign (r : Rpc) (raw : Text) : Job Text := do
  let method : Text := "signrawtransactionwithwallet"
  let signed ← Job.ofExcept (expectObject method (← r.call method [.text raw]))
  if !((Json.lookup "complete" signed).getD .null).truthy then throw (.node method .unsigned)
  Job.ofExcept (expectText method ((Json.lookup "hex" signed).getD .null))

/-- Creates, funds, signs and sends a transaction. With inputs of its own it needs no funding. -/
def broadcast (r : Rpc) (outputs : Outputs) (feeRate : Option Decimal)
    (inputs : Option (List Json)) : Job Text := do
  let created ← r.call "createrawtransaction" [.list (inputs.getD []), outputsJson outputs]
  let raw ← Job.ofExcept (expectText "createrawtransaction" created)
  let raw ← match inputs with
    | none => r.fund raw feeRate
    | some _ => pure raw
  let signed ← r.sign raw
  let sent ← r.call "sendrawtransaction" [.text signed]
  let txid ← Job.ofExcept (expectText "sendrawtransaction" sent)
  Job.log .info ("Broadcast transaction: " ++ txid)
  return txid

def handle (r : Rpc) : (c : WalletCall) → Job c.Answer
  | .balances => do Job.ofExcept (balancesOf (← r.call "getbalances" []))
  | .unspent least most => do
    let listed ← r.call "listunspent" [.int least, .int most]
    Job.ofExcept (do (← expectList "listunspent" listed).mapM unspentOf)
  | .freshAddress label kind => do
    Job.ofExcept (expectText "getnewaddress"
      (← r.call "getnewaddress" (addressParams label kind)))
  | .broadcast outputs feeRate inputs => r.broadcast outputs feeRate inputs
  | .wallets => do
    Job.ofExcept (expectList "listwallets" (← r.call "listwallets" [] false))
  | .load name => do
    let _ ← r.call "loadwallet" [.text name] false
    return ()
  | .chainInfo => do
    let info ← r.call "getblockchaininfo" [] false
    let _ ← Job.ofExcept (expectObject "getblockchaininfo" info)
    return info
  | .close => return ()

end Rpc

/-- A job whose wallet calls, if there is a node to talk to, become exchanges with it. -/
def Job.via {α : Type} (node : Option Rpc) (j : Job α) : Job α :=
  match node with
  | some r => j.through r.handle
  | none => j

end Faucet
