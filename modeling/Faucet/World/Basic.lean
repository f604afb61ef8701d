import Faucet.Folder
import Faucet.Ledger.Store
import Faucet.Quota
import Faucet.Settings.Basic
import Faucet.Wallet.Rpc

/-!
A world for jobs to run in, without a node, a clock or chance: time is virtual, the wallet follows a
script, the random numbers are given, and store operations can be made to fail at will. All that is
asked of the wallet, all events and all log lines are written down.
-/

set_option autoImplicit false

namespace Faucet

inductive FaultPoint where
  | session
  | create
  | list
  | countFrom
  | transition (target : Option Text)

namespace FaultPoint

def atMethod : FaultPoint → StoreMethod → Bool
  | .create, .create => true
  | .list, .list => true
  | .countFrom, .countFrom => true
  | .transition none, .transition _ => true
  | .transition (some t), .transition change => t = change.target.text
  | _, _ => false

def atSession : FaultPoint → Bool
  | .session => true
  | _ => false

end FaultPoint

mutual

inductive StoreStep where
  | create (address : Option Text) (amount : Text) (source : Option Text)
  | get (id : Int)
  | label (id : Int)
  | getByAddress (address : Option Text)
  | list (status : Option Text) (orderBy : Option Text) (limit : Option Int)
  | count (status : Text)
  | countFrom (source : Option Text) (since : Int)
  | total
  | transition (id : Int) (source target : Text) (txid error : Option Text)
  | failStale (olderThan : Int) (now : Option Int)
  | ping
  | createTables
  | closeStore
  | dropTable
  | fault (faults : List Fault)
  | clock (us : Int)
  | advance (us : Int)
  | allowed (source : Text) (now : Option Int)

/-- A failure to come: it lets `skip` calls pass and then strikes `times` times. -/
inductive Fault where
  | mk (point : FaultPoint) (skip times : Nat) (effect : FaultEffect)

/-- A fault refuses the call, or lets something else happen just before it. -/
inductive FaultEffect where
  | refuse (message : Text)
  | run (steps : List StoreStep)

end

inductive StepAnswer where
  | nothing
  | row (r : Row)
  | rowOrNone (r : Option Row)
  | label (t : Text)
  | ids (ids : List Int)
  | count (n : Int)
  | amount (d : Decimal)
  | flag (b : Bool)
  | receipt (r : Receipt)

structure ScriptedWallet where
  balances : Balances := {}
  unspent : List Unspent := []
  wallets : List Text := ["faucet"]
  loadable : List Text := ["faucet"]
  txids : List Text := []
  freshAddress : Text := "tb1qfresh"
  errors : Entries CallKind (Option Failure) := []
  refusals : Entries Text (Option Failure) := []
  delays : Entries CallKind Nat := []
  hooks : Entries CallKind (List StoreStep) := []
  sent : Nat := 0

inductive ScriptedReply where
  | raises (timeout : Bool) (detail : Text)
  | octets (status : Nat) (body : Octets)
  /-- Raw JSON text, to be wrapped up as the result of the request. -/
  | result (status : Nat) (raw : Text)
  | broken

structure Scripted where
  reply : ScriptedReply
  delay : Nat := 0

/-- Answers by method, used in turn, the last one again and again. -/
abbrev Transport := Entries Text (List Scripted)

inductive Entry where
  | call (c : WalletCall)
  | request (r : Request)
  | event (e : Event)
  | deed (name : Text) (answer : StepAnswer)
  | connect (s : Settings)

inductive Observer where
  | recording
  | logging
deriving DecidableEq

structure World where
  /-- Microseconds since the start of 1970. It may show what is no moment. -/
  clock : Int := 1700000000000000
  elapsed : Nat := 0
  folder : Folder := {}
  database : Database := {}
  faults : List Fault := []
  wallet : ScriptedWallet := {}
  transport : Transport := []
  requests : Nat := 0
  draws : List Int := []
  purse : Decimal := .zero
  quota : Quota := { most := 0 }
  observer : Observer := .recording
  trace : List (Nat × Entry) := []
  logs : List (Level × Text) := []

namespace World

def now (w : World) : Except Failure Moment := Moment.sinceEpoch w.clock

def elapse (w : World) (us : Nat) : World :=
  { w with elapsed := w.elapsed + us, clock := w.clock + us }

def record (w : World) (e : Entry) : World := { w with trace := (w.elapsed, e) :: w.trace }

def logLine (w : World) (level : Level) (message : Text) : World :=
  { w with logs := (level, message) :: w.logs }

def notify (w : World) (e : Event) : World :=
  match w.observer with
  | .recording => w.record (.event e)
  | .logging => w.logLine e.line.1 e.line.2

end World

end Faucet
