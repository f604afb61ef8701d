import Faucet.Ledger.Basic

/-!
The database that holds the ledger. Every statement is a transaction of its own: it takes place as
a whole or leaves the ledger as it was. A statement first needs a database that opens, then the
table, then arguments that the database can hold.
-/

set_option autoImplicit false

namespace Faucet

inductive Statement where
  | ping
  | insert (address : Option Text) (source : Text) (sats : Int) (now : Moment)
  | byAddress (address : Option Text)
  | byId (id : Int)
  | list (status : Option Status) (order : Option Order) (limit : Option Int)
  | count (status : Status)
  | countFrom (source : Option Text) (since : Moment)
  | broadcastSats
  | update (change : Ledger.Change) (now : Moment)
  | stale (cutoff : Moment)

abbrev Statement.Answer : Statement → Type
  | .ping => Unit
  | .insert .. => Except Conflict Row
  | .byAddress _ => Option Row
  | .byId _ => Option Row
  | .list .. => List Row
  | .count _ => Nat
  | .countFrom .. => Nat
  | .broadcastSats => Int
  | .update .. => Bool
  | .stale _ => List Row

/-- A database: why it cannot be used, if it cannot, whether it can only be read, whether it outlives
its connection, and its table if that has been made. -/
structure Database where
  refusal : Option DatabaseFault := none
  readOnly : Bool := false
  lasting : Bool := false
  table : Option Ledger := none

namespace Database

def leastInteger : Int := -9223372036854775808

def greatestInteger : Int := 9223372036854775807

def holdsInteger (n : Int) : Bool := leastInteger ≤ n && n ≤ greatestInteger

def bindInteger (n : Int) : Except Failure Unit :=
  if holdsInteger n then .ok ()
  else .error (.defect (.overflow "Python int too large to convert to SQLite INTEGER"))

def bindText (t : Text) : Except Failure Unit :=
  if t.isEncodable then .ok () else .error (.defect (.unencodable t))

def bindOptional : Option Text → Except Failure Unit
  | none => .ok ()
  | some t => bindText t

def bind : Statement → Except Failure Unit
  | .insert address source sats _ => do
    bindOptional address
    bindText source
    bindInteger sats
  | .byAddress address => bindOptional address
  | .byId id => bindInteger id
  | .list _ _ (some limit) => if 0 < limit then bindInteger limit else .ok ()
  | .countFrom source _ => bindOptional source
  | .update c _ => do
    bindOptional c.txid
    bindOptional c.error
    bindInteger c.id
  | _ => .ok ()

def insert (l : Ledger) (address : Option Text) (source : Text) (sats : Int) (now : Moment) :
    Except Conflict Row × Ledger :=
  match address with
  | none => (.error .addressMissing, l)
  | some address =>
    if (l.byAddress? address).isSome then (.error .addressTaken, l)
    else
      let row := Ledger.newRow l.nextId address source sats now
      (.ok row, l ++ [row])

/-- What a statement answers and what it leaves of the ledger, its arguments being in order. -/
def perform (l : Ledger) : (s : Statement) → Except Failure s.Answer × Ledger
  | .ping => (.ok (), l)
  | .insert address source sats now =>
    let (r, l) := insert l address source sats now
    (.ok r, l)
  | .byAddress none => (.ok none, l)
  | .byAddress (some address) => (.ok (l.byAddress? address), l)
  | .byId id => (.ok (l.byId? id), l)
  | .list status order limit => (.ok (l.list status order limit), l)
  | .count status => (.ok (l.count status), l)
  | .countFrom none _ => (.ok 0, l)
  | .countFrom (some source) since => (.ok (l.countFrom source since), l)
  | .broadcastSats =>
    let total := l.broadcastSats
    (if holdsInteger total then .ok total else .error (.store (.database .sumOverflow)), l)
  | .update change now => (.ok (l.touches change), l.apply change now)
  | .stale cutoff => (.ok (l.stale cutoff), l)

def tableless : Statement → Bool
  | .ping => true
  | _ => false

/-- A statement that writes, whether or not it changes anything. -/
def writes : Statement → Bool
  | .insert .. | .update .. => true
  | _ => false

def run (d : Database) (s : Statement) : Except Failure s.Answer × Database :=
  match d.refusal, d.table with
  | some fault, _ => (.error (.store (.database fault)), d)
  | none, none =>
    if tableless s then ((perform [] s).1, d) else (.error (.store (.database .missingTable)), d)
  | none, some l => match bind s with
    | .error e => (.error e, d)
    | .ok () =>
      if d.readOnly && writes s then (.error (.store (.database .readOnly)), d)
      else
        let (r, l) := perform l s
        (r, { d with table := some l })

def prepare (d : Database) : Except Failure Unit × Database :=
  match d.refusal with
  | some fault => (.error (.store (.uninitialized fault)), d)
  | none =>
    if d.readOnly && d.table.isNone then (.error (.store (.uninitialized .readOnly)), d)
    else (.ok (), { d with table := some (d.table.getD []) })

def dropTable (d : Database) : Database := { d with table := none }

/-- Ends the connection, and with it a database that does not outlive one. -/
def close (d : Database) : Database := if d.lasting then d else { d with table := none }

def rows (d : Database) : List Row := d.table.getD []

end Database

end Faucet
