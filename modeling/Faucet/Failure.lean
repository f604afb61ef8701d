import Faucet.Json.Basic
import Faucet.Text.Decoded
import Faucet.Ledger.Status

/-!
What can go wrong. A `Failure` is either one that the faucet foresees, kept as its cause, or a
`Defect`, which nothing foresees and which is reported by name. Each has one wording.
-/

set_option autoImplicit false

namespace Faucet

inductive NodeFault where
  | timedOut (detail : Text)
  | unsent (url detail : Text)
  | unauthorized
  | forbidden
  | badReply (status : Nat) (preview : Text)
  | unexpected (preview : Text)
  | wrongType (expected got : Text)
  | unsigned
  | tooLow (amount : Decimal)
  | reported (code message : Json)
  | denied (message : Text)
  | other (message : Text)

namespace NodeFault

def message : NodeFault → Text
  | .timedOut detail => "timed out: " ++ detail
  | .unsent url detail => "failed to send request to " ++ url ++ ": " ++ detail
  | .unauthorized => "authentication failed (401) - check RPC user/password"
  | .forbidden => "forbidden (403) - check rpcallowip settings"
  | .badReply status preview => "HTTP " ++ Text.ofNat status ++ ": " ++ preview
  | .unexpected preview => "unexpected response: " ++ preview
  | .wrongType expected got => "unexpected response: expected " ++ expected ++ ", got " ++ got
  | .unsigned => "transaction signing incomplete"
  | .tooLow amount => "Amount too low: " ++ amount.fixed8 ++ " BTC"
  | .reported code text => "RPC error " ++ code.display ++ ": " ++ text.display
  | .denied text => text
  | .other text => text

end NodeFault

inductive DatabaseFault where
  | cannotOpen
  | notDatabase
  | badAddress (reason : Text)
  | readOnly
  | missingTable
  | sumOverflow
deriving DecidableEq, Repr

def DatabaseFault.message : DatabaseFault → Text
  | .cannotOpen => "(sqlite3.OperationalError) unable to open database file"
  | .notDatabase => "(sqlite3.DatabaseError) file is not a database"
  | .badAddress reason => "(sqlite3.OperationalError) " ++ reason
  | .readOnly => "(sqlite3.OperationalError) attempt to write a readonly database"
  | .missingTable => "(sqlite3.OperationalError) no such table: payout_requests"
  | .sumOverflow => "(sqlite3.OperationalError) integer overflow"

inductive TransitionFault where
  | terminal (status : Status)
  | noEdge (source target : Status)
  | txidMissing
  | errorMissing
  | other (message : Text)

def TransitionFault.message : TransitionFault → Text
  | .terminal status => status.text ++ " is a terminal status"
  | .noEdge source target => source.text ++ " -> " ++ target.text ++ " is not a valid transition"
  | .txidMissing => "broadcast requires a txid"
  | .errorMissing => "failed requires error text"
  | .other text => text

inductive Conflict where
  | addressTaken
  | addressMissing
deriving DecidableEq, Repr

def Conflict.message : Conflict → Text
  | .addressTaken => "(sqlite3.IntegrityError) UNIQUE constraint failed: payout_requests.address"
  | .addressMissing =>
    "(sqlite3.IntegrityError) NOT NULL constraint failed: payout_requests.address"

inductive StoreFault where
  | database (fault : DatabaseFault)
  | uninitialized (fault : DatabaseFault)
  | notPositive (amount : Decimal)
  | notInserted (address : Option Text) (conflict : Conflict)
  | duplicate (address : Text)
  | transition (fault : TransitionFault)
  | other (message : Text)

def StoreFault.message : StoreFault → Text
  | .database fault => "store operation failed: " ++ fault.message
  | .uninitialized fault => "failed to initialize database: " ++ fault.message
  | .notPositive amount => "amount must be positive, got " ++ amount.toText
  | .notInserted address conflict =>
    "failed to insert payout request for " ++ address.getD "None" ++ ": " ++ conflict.message
  | .duplicate address => "Address already used: " ++ address
  | .transition fault => fault.message
  | .other text => text

inductive AddressFault where
  | empty
  | mainnet
  | malformed
  | other (message : Text)

def AddressFault.message : AddressFault → Text
  | .empty => "address cannot be empty"
  | .mainnet => "mainnet address?"
  | .malformed => "invalid signet address format, must be bech32 (tb1...)"
  | .other text => text

inductive ConfigurationFault where
  | userMissing
  | passwordMissing
  | walletsUnlisted (detail : Text)
  | walletUnloadable (wallet detail : Text)
  | other (message : Text)

def ConfigurationFault.message : ConfigurationFault → Text
  | .userMissing => "bitcoin RPC user required (set FAUCET_RPC_USER)"
  | .passwordMissing => "bitcoin RPC password required (set FAUCET_RPC_PASSWORD)"
  | .walletsUnlisted detail => "failed to list wallets: " ++ detail
  | .walletUnloadable wallet detail =>
    "'" ++ wallet ++ "' wallet not found or failed to load - please create it with: "
      ++ "bitcoin-cli -signet createwallet " ++ wallet ++ " (error: " ++ detail ++ ")"
  | .other text => text

inductive UrlFault where
  | tooLong
  | unprintable (c : CodePoint) (position : Nat)
  | shortAddress (host : Text)
  | longAddress (host : Text)
  | name (host : Text)
  | port (written : Text)
  | slashes
  | colon

def UrlFault.message : UrlFault → Text
  | .tooLong => "URL too long"
  | .unprintable c position =>
    "Invalid non-printable ASCII character in URL, " ++ Text.quoted [c] ++ " at position "
      ++ Text.ofNat position ++ "."
  | .shortAddress host => "Invalid IPv4 address: " ++ host.quoted
  | .longAddress host => "Invalid IPv6 address: " ++ host.quoted
  | .name host => "Invalid IDNA hostname: " ++ host.quoted
  | .port written => "Invalid port: " ++ written.quoted
  | .slashes => "Relative URLs cannot have a path starting with '//'"
  | .colon => "Relative URLs cannot have a path starting with ':'"

/-- One refused field of a record: where it stands, what rule it breaks, and the wording if the rule
is one of the faucet's own. -/
structure FieldFault where
  location : List Text
  rule : Text
  wording : Option Text := none

inductive Charset where
  | unicode
  | ascii
deriving DecidableEq, Repr

namespace Charset

def name : Charset → Text
  | .unicode => "utf-8"
  | .ascii => "ascii"

def lacks : Charset → CodePoint → Bool
  | .unicode, c => c.isSurrogate
  | .ascii, c => 128 ≤ c.val

def reason : Charset → Text
  | .unicode => "surrogates not allowed"
  | .ascii => "ordinal not in range(128)"

end Charset

/-- A failure that no caller foresees. -/
inductive Defect where
  | value (message : Text)
  | key (name : Text)
  | overflow (message : Text)
  | runtime (message : Text)
  | arithmetic (fault : ArithmeticFault)
  | wrongType (message : Text)
  | unencodable (text : Text) (charset : Charset := .unicode)
  | undecodable (fault : DecodeFault)
  | url (fault : UrlFault)
  | validation (record : Text) (faults : List FieldFault)
  | named (name message : Text)

namespace Defect

def name : Defect → Text
  | .value _ => "ValueError"
  | .key _ => "KeyError"
  | .overflow _ => "OverflowError"
  | .runtime _ => "RuntimeError"
  | .arithmetic .overflow => "Overflow"
  | .arithmetic .divisionByZero => "DivisionByZero"
  | .arithmetic _ => "InvalidOperation"
  | .wrongType _ => "TypeError"
  | .unencodable .. => "UnicodeEncodeError"
  | .undecodable _ => "UnicodeDecodeError"
  | .url _ => "InvalidURL"
  | .validation .. => "ValidationError"
  | .named name _ => name

def firstGap (charset : Charset) (t : Text) : Nat × Nat :=
  let start := (t.takeWhile fun c => !charset.lacks c).length
  (start, start + ((t.drop start).takeWhile charset.lacks).length)

def arithmeticMessage : ArithmeticFault → Text
  | .invalid => "[<class 'decimal.InvalidOperation'>]"
  | .malformed => "[<class 'decimal.ConversionSyntax'>]"
  | .overflow => "[<class 'decimal.Overflow'>]"
  | .divisionByZero => "[<class 'decimal.DivisionByZero'>]"

def unencodableMessage (charset : Charset) (t : Text) : Text :=
  let (start, stop) := firstGap charset t
  let place : Text :=
    if stop = start + 1 then
      "character '" ++ ((t.drop start).take 1).flatMap Text.numericEscape ++ "' in position "
        ++ Text.ofNat start
    else "characters in position " ++ Text.ofNat start ++ "-" ++ Text.ofNat (stop - 1)
  "'" ++ charset.name ++ "' codec can't encode " ++ place ++ ": " ++ charset.reason

def faultCount (n : Nat) : Text :=
  Text.ofNat n ++ (if n = 1 then " validation error" else " validation errors")

def message : Defect → Text
  | .value text | .overflow text | .runtime text | .wrongType text | .named _ text => text
  | .key name => name.quoted
  | .arithmetic fault => arithmeticMessage fault
  | .unencodable text charset => unencodableMessage charset text
  | .undecodable fault => fault.message
  | .url fault => fault.message
  | .validation record faults => faultCount faults.length ++ " for " ++ record

/-- Name and contents, the way an unexpected failure is kept in a payout's record. -/
def shown : Defect → Text
  | .arithmetic fault => name (.arithmetic fault) ++ "(" ++ arithmeticMessage fault ++ ")"
  | .unencodable text charset =>
    let (start, stop) := firstGap charset text
    "UnicodeEncodeError(" ++ charset.name.quoted ++ ", " ++ text.quoted ++ ", " ++ Text.ofNat start
      ++ ", " ++ Text.ofNat stop ++ ", " ++ charset.reason.quoted ++ ")"
  | .undecodable fault => "UnicodeDecodeError(" ++ fault.parts ++ ")"
  | .key text => "KeyError(" ++ text.quoted ++ ")"
  | d => d.name ++ "(" ++ d.message.quoted ++ ")"

end Defect

inductive Failure where
  | faucet (message : Text)
  | configuration (fault : ConfigurationFault)
  | node (step : Text) (fault : NodeFault)
  | store (fault : StoreFault)
  | tier (message : Text)
  | address (fault : AddressFault)
  | defect (d : Defect)

namespace Failure

def message : Failure → Text
  | .faucet text | .tier text => text
  | .configuration fault => fault.message
  | .node step fault => step ++ " failed: " ++ fault.message
  | .store fault => fault.message
  | .address fault => fault.message
  | .defect d => d.message

def isForeseen : Failure → Bool
  | .defect _ => false
  | _ => true

def isStore : Failure → Bool
  | .store _ => true
  | _ => false

end Failure

instance : MonadLift (Except ArithmeticFault) (Except Failure) where
  monadLift
    | .ok a => .ok a
    | .error e => .error (.defect (.arithmetic e))

end Faucet
