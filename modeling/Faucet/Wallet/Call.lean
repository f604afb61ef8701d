import Faucet.Report
import Faucet.Url

/-!
What a wallet node is asked for and what it answers. The node owns the keys: it funds, signs and
broadcasts. What it tells of an output and is only passed back to it is kept as it came.
-/

set_option autoImplicit false

namespace Faucet

structure Balances where
  trusted : Decimal := .zero
  untrusted : Decimal := .zero
  immature : Decimal := .zero

/-- What the faucet may spend: confirmed coins and its own unconfirmed ones. -/
def Balances.available (b : Balances) : Except ArithmeticFault Decimal :=
  Decimal.add b.trusted b.untrusted

structure Unspent where
  txid : Json
  vout : Json
  address : Json
  amount : Decimal
  confirmations : Json
  spendable : Json
  solvable : Json
  safe : Json

def Unspent.outpoint (u : Unspent) : Json := .object [("txid", u.txid), ("vout", u.vout)]

/-- Amount texts by address, and the memo under its own key. -/
abbrev Outputs := Entries Text Text

namespace Outputs

def memoKey : Text := "data"

/-- One payment and, unless it is empty, a memo in hexadecimal. -/
def payment (address : Text) (amount : Decimal) (memo : Text) : Except Failure Outputs :=
  let outputs := [(address, amount.fixed8)]
  if memo.isEmpty then .ok outputs
  else match memo.utf8? with
    | some octets => .ok (Entries.put outputs memoKey (Text.ofOctetsHex octets))
    | none => .error (.defect (.unencodable memo))

end Outputs

inductive WalletCall where
  | balances
  | unspent (least most : Int)
  | freshAddress (label kind : Text)
  | broadcast (outputs : Outputs) (feeRate : Option Decimal) (inputs : Option (List Json))
  | wallets
  | load (name : Text)
  | chainInfo
  | close

inductive CallKind where
  | balances | unspent | freshAddress | broadcast | wallets | load | chainInfo | close
deriving DecidableEq, Repr

def WalletCall.kind : WalletCall → CallKind
  | .balances => .balances
  | .unspent .. => .unspent
  | .freshAddress .. => .freshAddress
  | .broadcast .. => .broadcast
  | .wallets => .wallets
  | .load _ => .load
  | .chainInfo => .chainInfo
  | .close => .close

abbrev WalletCall.Answer : WalletCall → Type
  | .balances => Balances
  | .unspent .. => List Unspent
  | .freshAddress .. => Text
  | .broadcast .. => Text
  | .wallets => List Json
  | .load _ => Unit
  | .chainInfo => Json
  | .close => Unit

structure Request where
  url : Url
  authorization : Text
  id : Nat
  method : Text
  params : List Json

inductive Reply where
  | response (status : Nat) (body : Octets)
  | timedOut (detail : Text)
  | lost (detail : Text)

end Faucet
