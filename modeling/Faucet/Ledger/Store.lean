import Faucet.Job.Basic

/-!
The operations on the ledger, as jobs over single transactions. Checks on what is asked for come
before anything is sent to the database.
-/

set_option autoImplicit false

namespace Faucet.Store

/-- Queues a new payout. An address is paid once only, whatever became of its payout. -/
def create (address : Option Text) (amount : Decimal) (source : Text) : Job Row := do
  Job.enter .create
  if ← Job.ofArithmetic (amount.le .zero) then throw (.store (.notPositive amount))
  let now ← Job.now
  let sats ← Job.ofExcept (Money.toSats amount)
  match ← Job.session (.insert address source sats now) with
  | .ok row => return row
  | .error conflict =>
    match ← Job.session (.byAddress address) with
    | some found => throw (.store (.duplicate found.address))
    | none => throw (.store (.notInserted address conflict))

def get (id : Int) : Job (Option Row) := Job.session (.byId id)

def getByAddress (address : Option Text) : Job (Option Row) := Job.session (.byAddress address)

def order : Option Text → Except Failure (Option Order)
  | none | some [] => .ok none
  | some t => match Order.ofText? t with
    | some o => .ok (some o)
    | none => .error (.defect (.value ("Cannot order payout requests by " ++ t.quoted)))

def list (status : Option Status) (orderBy : Option Text) (limit : Option Int) :
    Job (List Row) := do
  Job.enter .list
  let o ← Job.ofExcept (order orderBy)
  Job.session (.list status o limit)

def count (status : Status) : Job Nat := Job.session (.count status)

def countFrom (source : Option Text) (since : Moment) : Job Nat := do
  Job.enter .countFrom
  Job.session (.countFrom source since)

def totalBroadcast : Job Decimal := return Money.ofSats (← Job.session .broadcastSats)

/-- What the life of a payout allows: an edge from a status that is not terminal, with the text that
its end needs. -/
def permit (c : Ledger.Change) : Except TransitionFault Unit :=
  if c.source.isTerminal then .error (.terminal c.source)
  else if c.target ∉ c.source.next then .error (.noEdge c.source c.target)
  else if c.target = .broadcast ∧ !isFilled c.txid then .error .txidMissing
  else if c.target = .failed ∧ !isFilled c.error then .error .errorMissing
  else .ok ()

/-- Moves a payout on if it is still in the status that the change starts from, and says whether it
was. -/
def transition (c : Ledger.Change) : Job Bool := do
  Job.enter (.transition c)
  match permit c with
  | .error fault => throw (.store (.transition fault))
  | .ok () =>
    let now ← Job.now
    Job.session (.update c now)

def interrupted : Text :=
  "interrupted while processing; check the wallet for a broadcast to this address before "
    ++ "resubmitting"

def failInterrupted (r : Row) : Ledger.Change :=
  { id := r.id, source := .processing, target := .failed, error := some interrupted }

def failEach : List Row → Nat → Job Nat
  | [], failed => return failed
  | r :: rest, failed => do
    if ← transition (failInterrupted r) then
      Job.log .warning ("Marked stuck payout #" ++ Text.ofInt r.id ++ " to " ++ r.address
        ++ " as failed (processing since " ++ r.updated.text ++ ")")
      failEach rest (failed + 1)
    else failEach rest failed

/-- Fails the payouts that were claimed longer ago than a span. Such a payout may or may not have
been made, so that it is never queued again. -/
def failStale (olderThan : Span) (now : Option Moment) : Job Nat := do
  let now ← match now with
    | some m => pure m
    | none => Job.now
  let cutoff ← Job.ofExcept (Moment.before now olderThan)
  let rows ← Job.session (.stale cutoff)
  failEach rows 0

def ping : Job Bool := do
  try
    Job.session .ping
    return true
  catch e =>
    if e.isStore then
      Job.log .warning ("Store health check failed: " ++ e.message)
      return false
    else throw e

end Faucet.Store
