import Faucet.World.Run

/-!
Steps with the store, taken in a world. Statuses, amounts and times are read before anything is
done. The depth bounds how far faults and hooks may set each other off.
-/

set_option autoImplicit false

namespace Faucet

namespace StoreStep

def status (t : Text) : Except Failure Status :=
  match Status.ofText? t with
  | some s => .ok s
  | none => .error (.defect (.value (t.quoted ++ " is not a valid PayoutStatus")))

def optionalStatus : Option Text → Except Failure (Option Status)
  | none => .ok none
  | some t => return some (← status t)

def optionalMoment : Option Int → Except Failure (Option Moment)
  | none => .ok none
  | some us => return some (← Moment.sinceEpoch us)

def job (quota : Quota) : StoreStep → Job StepAnswer
  | .create address amount source => do
    let amount ← Job.ofArithmetic (Decimal.ofText amount)
    return .row (← Store.create address amount (source.getD []))
  | .get id => return .rowOrNone (← Store.get id)
  | .label id => do
    match ← Store.get id with
    | some r => return .label r.label
    | none => return .label "None"
  | .getByAddress address => return .rowOrNone (← Store.getByAddress address)
  | .list s orderBy limit => do
    let s ← Job.ofExcept (optionalStatus s)
    return .ids ((← Store.list s orderBy limit).map (·.id))
  | .count s => do
    let s ← Job.ofExcept (status s)
    return .count (← Store.count s)
  | .countFrom source since => do
    let since ← Job.ofExcept (Moment.sinceEpoch since)
    return .count (← Store.countFrom source since)
  | .total => return .amount (← Store.totalBroadcast)
  | .transition id source target txid error => do
    let source ← Job.ofExcept (status source)
    let target ← Job.ofExcept (status target)
    return .flag (← Store.transition { id, source, target, txid, error })
  | .failStale olderThan now => do
    let olderThan ← Job.ofExcept (Span.ofMicroseconds olderThan)
    let now ← Job.ofExcept (optionalMoment now)
    return .count (← Store.failStale olderThan now)
  | .ping => return .flag (← Store.ping)
  | .createTables => do
    Job.prepare
    return .nothing
  | .closeStore => do
    Job.closeStore
    return .nothing
  | .allowed source now => do
    let now ← Job.ofExcept (optionalMoment now)
    return .flag (← quota.allows source now)
  | .dropTable | .fault _ | .clock _ | .advance _ => return .nothing

def take (stepper : World.Stepper) (s : StoreStep) (w : World) :
    Except Failure StepAnswer × World :=
  match s with
  | .dropTable => (.ok .nothing, { w with database := w.database.dropTable })
  | .fault faults => (.ok .nothing, { w with faults })
  | .clock us => (.ok .nothing, { w with clock := us })
  | .advance us => (.ok .nothing, { w with clock := w.clock + us })
  | s => (s.job w.quota).complete stepper w

/-- Takes a step whose faults and hooks may set off further ones to a depth. -/
def takeWithin : Nat → World.Stepper
  | 0, _, w => (.ok (), w)
  | depth + 1, s, w =>
    let (r, w) := take (takeWithin depth) s w
    (r.map fun _ => (), w)

def depth : Nat := 1000

def stepper : World.Stepper := takeWithin depth

end StoreStep

namespace World

def take (w : World) (s : StoreStep) : Except Failure StepAnswer × World :=
  s.take StoreStep.stepper w

def run {α : Type} (w : World) (j : Job α) : Except Failure α × World :=
  j.complete StoreStep.stepper w

end World

end Faucet
