import Faucet.Ledger.Database
import Faucet.Wallet.Call

/-!
Work that depends on the world, as a value. A job is done, has failed, or asks one question and goes
on with the answer. Whoever runs it decides what happens between two questions: other jobs may run,
time may pass, and the job may be given up.
-/

set_option autoImplicit false

namespace Faucet

inductive StoreMethod where
  | create
  | list
  | countFrom
  | transition (change : Ledger.Change)
deriving DecidableEq

inductive Query where
  | enter (method : StoreMethod)
  | session (statement : Statement)
  | prepare
  | closeStore
  | wallet (call : WalletCall)
  /-- A payment is announced before anything about it is looked at. -/
  | payment (address : Text) (amount : Decimal)
  | send (request : Request)
  /-- The number of the next request, counted from one. -/
  | requestId
  | log (level : Level) (message : Text)
  | notify (event : Event)
  | now
  /-- A number from zero up to and with `most`. -/
  | draw (most : Nat)
  | cached
  | cache (balance : Decimal)
  | sleep (span : Nat)
  /-- A wait that has no end. Whoever keeps to the clock does not answer it. -/
  | rest

abbrev Query.Answer : Query → Type
  | .enter _ => Except Failure Unit
  | .session s => Except Failure s.Answer
  | .prepare => Except Failure Unit
  | .closeStore => Unit
  | .wallet c => Except Failure c.Answer
  | .payment .. => Unit
  | .send _ => Except Failure Reply
  | .requestId => Nat
  | .log .. => Unit
  | .notify _ => Unit
  | .now => Except Failure Moment
  | .draw most => Fin (most + 1)
  | .cached => Decimal
  | .cache _ => Unit
  | .sleep _ => Unit
  | .rest => Unit

inductive Job (α : Type) : Type where
  | done (a : α)
  | fail (e : Failure)
  | ask (q : Query) (next : q.Answer → Job α)

namespace Job

variable {α β : Type}

def bind : Job α → (α → Job β) → Job β
  | .done a, f => f a
  | .fail e, _ => .fail e
  | .ask q next, f => .ask q fun r => bind (next r) f

def rescue : Job α → (Failure → Job α) → Job α
  | .done a, _ => .done a
  | .fail e, f => f e
  | .ask q next, f => .ask q fun r => rescue (next r) f

instance : Monad Job where
  pure := .done
  bind := bind

instance : MonadExceptOf Failure Job where
  throw := .fail
  tryCatch := rescue

def outcome : Job α → Job (Except Failure α)
  | .done a => .done (.ok a)
  | .fail e => .done (.error e)
  | .ask q next => .ask q fun r => outcome (next r)

def ofExcept : Except Failure α → Job α
  | .ok a => .done a
  | .error e => .fail e

def ofArithmetic : Except ArithmeticFault α → Job α
  | .ok a => .done a
  | .error e => .fail (.defect (.arithmetic e))

/-- Answers every call to the wallet by a job. -/
def through (handle : (c : WalletCall) → Job c.Answer) : Job α → Job α
  | .done a => .done a
  | .fail e => .fail e
  | .ask (.wallet c) next => (handle c).outcome.bind fun r => through handle (next r)
  | .ask (.enter m) next => .ask (.enter m) fun r => through handle (next r)
  | .ask (.session s) next => .ask (.session s) fun r => through handle (next r)
  | .ask .prepare next => .ask .prepare fun r => through handle (next r)
  | .ask .closeStore next => .ask .closeStore fun r => through handle (next r)
  | .ask (.payment a d) next => .ask (.payment a d) fun r => through handle (next r)
  | .ask (.send r) next => .ask (.send r) fun r => through handle (next r)
  | .ask .requestId next => .ask .requestId fun r => through handle (next r)
  | .ask (.log l m) next => .ask (.log l m) fun r => through handle (next r)
  | .ask (.notify e) next => .ask (.notify e) fun r => through handle (next r)
  | .ask .now next => .ask .now fun r => through handle (next r)
  | .ask (.draw n) next => .ask (.draw n) fun r => through handle (next r)
  | .ask .cached next => .ask .cached fun r => through handle (next r)
  | .ask (.cache d) next => .ask (.cache d) fun r => through handle (next r)
  | .ask (.sleep d) next => .ask (.sleep d) fun r => through handle (next r)
  | .ask .rest next => .ask .rest fun r => through handle (next r)

def enter (m : StoreMethod) : Job Unit := .ask (.enter m) ofExcept

def session (s : Statement) : Job s.Answer := .ask (.session s) ofExcept

def prepare : Job Unit := .ask .prepare ofExcept

def closeStore : Job Unit := .ask .closeStore .done

def wallet (c : WalletCall) : Job c.Answer := .ask (.wallet c) ofExcept

def payment (address : Text) (amount : Decimal) : Job Unit := .ask (.payment address amount) .done

def send (r : Request) : Job Reply := .ask (.send r) ofExcept

def requestId : Job Nat := .ask .requestId .done

def log (level : Level) (message : Text) : Job Unit := .ask (.log level message) .done

def notify (e : Event) : Job Unit := .ask (.notify e) .done

def now : Job Moment := .ask .now ofExcept

def draw (most : Nat) : Job (Fin (most + 1)) := .ask (.draw most) .done

def cached : Job Decimal := .ask .cached .done

def cache (d : Decimal) : Job Unit := .ask (.cache d) .done

def sleep (span : Nat) : Job Unit := .ask (.sleep span) .done

def rest : Job Unit := .ask .rest .done

end Job

end Faucet
