import Faucet.Report
import Faucet.Moment

/-!
The ledger of payout requests. A row is its own history: no row is ever removed, and only its
status, the time of its last change and the two texts that end it ever change. Rows stand in the
order in which they were created, which is the order of their numbers.
-/

set_option autoImplicit false

namespace Faucet

structure Row where
  id : Int
  address : Text
  source : Text
  sats : Int
  status : Status
  txid : Option Text
  error : Option Text
  created : Moment
  updated : Moment
deriving DecidableEq

namespace Row

def amount (r : Row) : Decimal := Money.ofSats r.sats

def label (r : Row) : Text :=
  "PayoutRequest#" ++ Text.ofInt r.id ++ " <" ++ r.address ++ " " ++ r.amount.fixed8 ++ " "
    ++ r.status.text ++ ">"

end Row

inductive OrderKey where
  | id | created | amount
deriving DecidableEq, Repr

structure Order where
  key : OrderKey
  descending : Bool
deriving DecidableEq, Repr

namespace Order

def keyOf (k : OrderKey) (r : Row) : Int :=
  match k with
  | .id => r.id
  | .created => r.created
  | .amount => r.sats

/-- The order that a text names: a key, with dashes in front for a descending one. -/
def ofText? (t : Text) : Option Order :=
  let descending := Text.startsWith "-" t
  match t.dropWhile (· = 45) with
  | name =>
    if name = "id" then some ⟨.id, descending⟩
    else if name = "created_at" then some ⟨.created, descending⟩
    else if name = "amount" then some ⟨.amount, descending⟩
    else none

/-- Rows in order. Equal rows keep the order of their creation, except that the creation times of
the whole ledger are read backwards when they descend. -/
def sort (o : Order) (whole : Bool) (rows : List Row) : List Row :=
  let ascending := fun a b => decide (keyOf o.key a ≤ keyOf o.key b)
  if o.descending then
    if o.key = .created ∧ whole then (rows.mergeSort ascending).reverse
    else rows.mergeSort fun a b => ascending b a
  else rows.mergeSort ascending

end Order

abbrev Ledger := List Row

namespace Ledger

def byId? (l : Ledger) (id : Int) : Option Row := l.find? fun r => r.id = id

def byAddress? (l : Ledger) (address : Text) : Option Row := l.find? fun r => r.address = address

def nextId (l : Ledger) : Int := l.foldl (fun n r => max n r.id) 0 + 1

def newRow (id : Int) (address source : Text) (sats : Int) (now : Moment) : Row :=
  { id, address, source, sats, status := .pending, txid := none, error := none
    created := now, updated := now }

/-- Rows of a status, or all, in an order, as many as a positive limit allows. -/
def list (l : Ledger) (status : Option Status) (order : Option Order) (limit : Option Int) :
    List Row :=
  let found := match status with
    | none => l
    | some s => l.filter fun r => r.status = s
  let sorted := match order with
    | none => found
    | some o => o.sort status.isNone found
  match limit with
  | none => sorted
  | some n => if 0 < n then sorted.take n.toNat else sorted

def count (l : Ledger) (status : Status) : Nat := (l.filter fun r => r.status = status).length

def countFrom (l : Ledger) (source : Text) (since : Moment) : Nat :=
  (l.filter fun r => r.source = source && since < r.created).length

def broadcastSats : Ledger → Int
  | [] => 0
  | r :: rest => (if r.status = .broadcast then r.sats else 0) + broadcastSats rest

def stale (l : Ledger) (cutoff : Moment) : List Row :=
  l.filter fun r => r.status = .processing && r.updated < cutoff

structure Change where
  id : Int
  source : Status
  target : Status
  txid : Option Text := none
  error : Option Text := none
deriving DecidableEq

def Change.applies (c : Change) (r : Row) : Bool := r.id = c.id && r.status = c.source

def Change.row (c : Change) (now : Moment) (r : Row) : Row :=
  { r with
    status := c.target
    updated := now
    txid := c.txid.orElse fun _ => r.txid
    error := c.error.orElse fun _ => r.error }

/-- The change takes place in the row that is still in the status it starts from, if there is
one. -/
def apply (l : Ledger) (c : Change) (now : Moment) : Ledger :=
  l.map fun r => if c.applies r then c.row now r else r

def touches (l : Ledger) (c : Change) : Bool := l.any c.applies

end Ledger

end Faucet
