import Faucet.Plan
import Faucet.World.Roster

/-!
A long run of the faucet in virtual time. It opens, keeps its duties until a stop is asked for, lets
the work at hand come to its end, and closes. Meanwhile others act from outside.
-/

set_option autoImplicit false

namespace Faucet

inductive Deed where
  | stop
  | signal
  | submit (address : Text) (tier : Option Int) (source : Text)
  | script (change : ScriptedWallet → ScriptedWallet)
  | step (s : StoreStep)

structure Act where
  time : Nat
  name : Text
  deed : Deed

inductive Stage where
  | opening (work : Paused Unit)
  | watching
  | draining (deadline : Option Nat)
  | closing (outcome : Except Failure Bool) (work : Paused Unit)
  | over (outcome : Except Failure Bool)

structure Watch where
  plan : Plan
  node : Option Rpc
  stage : Stage
  roster : Roster := {}
  finish : Option Nat := none

namespace Watch

def outcome? (c : Watch) : Option (Except Failure Bool) :=
  match c.stage with
  | .over outcome => some outcome
  | _ => none

/-- The run is over once the closing is; a failure to close is what remains of it. -/
def afterClosing (outcome : Except Failure Bool) (c : Watch) (w : World) : Paused Unit → Watch
  | .ended (.ok ()) => { c with stage := .over outcome, finish := some w.elapsed }
  | .ended (.error e) => { c with stage := .over (.error e), finish := some w.elapsed }
  | work => { c with stage := .closing outcome work }

def close (outcome : Except Failure Bool) (c : Watch) (w : World) : Watch × World :=
  let (work, w) := (Upkeep.close.via c.node).advance StoreStep.stepper w
  (c.afterClosing outcome w work, w)

def leave (clean : Bool) (c : Watch) (w : World) : Watch × World :=
  let (_, w) := (Plan.farewell clean).complete StoreStep.stepper w
  c.close (.ok clean) w

def drained (c : Watch) (w : World) : Watch × World :=
  if c.roster.isIdle then c.leave true (w.logLine .info Roster.stoppedLine) else (c, w)

def noticed (c : Watch) (w : World) : Watch × World :=
  if c.roster.stopping then
    let deadline := (Duty.spanOf? c.plan.settings.shutdownTimeout).map (w.elapsed + ·)
    { c with stage := .draining deadline }.drained w
  else (c, w)

def duties (c : Watch) : List Duty :=
  c.plan.duties.map fun d => { d with work := fun n => (d.work n).via c.node }

def takeUp (c : Watch) (w : World) : Watch × World :=
  let (roster, w) := (c.duties.foldl Roster.add c.roster).start w
  { c with stage := .watching, roster }.noticed w

def settle (c : Watch) (w : World) : Watch × World :=
  match c.stage with
  | .opening (.ended (.ok ())) => c.takeUp w
  | .opening (.ended (.error e)) => c.close (.error e) w
  | .watching => c.noticed w
  | .draining _ => c.drained w
  | .closing outcome work => (c.afterClosing outcome w work, w)
  | _ => (c, w)

/-- Begins a run: its greeting, what has to be done before anything has to be closed again, and the
way up to its first wait. -/
def begin (plan : Plan) (node : Option Rpc) (before : Job Unit) (w : World) : Watch × World :=
  let c : Watch := { plan, node, stage := .watching }
  match (do Plan.greet plan.settings; before : Job Unit).complete StoreStep.stepper w with
  | (.error e, w) => ({ c with stage := .over (.error e), finish := some w.elapsed }, w)
  | (.ok (), w) =>
    let (work, w) := (plan.settleIn.via node).advance StoreStep.stepper w
    { c with stage := .opening work }.settle w

def wake? (c : Watch) : Option Nat :=
  match c.stage with
  | .opening work => work.wake?
  | .draining deadline => deadline
  | .closing _ work => work.wake?
  | _ => none

def wake (c : Watch) (w : World) : Watch × World :=
  match c.stage with
  | .opening work =>
    let (work, w) := work.resume StoreStep.stepper w
    { c with stage := .opening work }.settle w
  | .draining _ =>
    let (roster, w) := c.roster.dismiss c.plan.settings.shutdownTimeout w
    { c with roster }.leave false w
  | .closing outcome work =>
    let (work, w) := work.resume StoreStep.stepper w
    (c.afterClosing outcome w work, w)
  | _ => (c, w)

def due? (c : Watch) : Option (Nat × Option Nat) :=
  match c.wake?, c.roster.due? with
  | none, none => none
  | some t, none => some (t, none)
  | none, some (t, i) => some (t, some i)
  | some t, some (u, i) => if t ≤ u then some (t, none) else some (u, some i)

def step (t : Nat) (task : Option Nat) (c : Watch) (w : World) : Watch × World :=
  let w := w.elapse (t - w.elapsed)
  match task with
  | none => c.wake w
  | some i =>
    let (roster, w) := c.roster.wake i w
    { c with roster }.settle w

/-- Lets happen what has to before a time, if there is one, for so many steps at most. Without a time
it goes on as long as the run has an end in sight. -/
def runWithin (limit : Option Nat) : Nat → Watch → World → Watch × World
  | 0, c, w => (c, w)
  | fuel + 1, c, w =>
    let isLate : Nat → Bool := fun t =>
      match limit with
      | some l => l ≤ t
      | none => match c.stage with
        | .watching => true
        | _ => false
    match c.outcome?, c.due? with
    | none, some (t, task) =>
      if isLate t then (c, w)
      else
        let (c, w) := c.step t task w
        runWithin limit fuel c w
    | _, _ => (c, w)

def signalLine : Text := "Received shutdown signal, finishing current work..."

def stop (c : Watch) (w : World) : Watch × World :=
  let (roster, w) := c.roster.stop w
  ({ c with roster }, w)

/-- Something is done from outside. What fails there leaves no trace. -/
def perform (a : Act) (c : Watch) (w : World) : Watch × World :=
  match a.deed with
  | .stop => { c with }.stop (w.record (.deed a.name .nothing))
  | .signal => c.stop ((w.logLine .info signalLine).record (.deed a.name .nothing))
  | .submit address tier source =>
    match (c.plan.intake.submit address tier source).complete StoreStep.stepper w with
    | (.ok r, w) => (c, w.record (.deed a.name (.receipt r)))
    | (.error _, w) => (c, w)
  | .script change =>
    (c, { w with wallet := change w.wallet }.record (.deed a.name .nothing))
  | .step s => match w.take s with
    | (.ok answer, w) => (c, w.record (.deed a.name answer))
    | (.error _, w) => (c, w)

def runActs : List Act → Watch → World → Watch × World
  | [], c, w => c.runWithin none Roster.patience w
  | a :: rest, c, w =>
    let (c, w) := c.runWithin (some a.time) (4 * (a.time + 1 - w.elapsed) + 4) w
    if c.outcome?.isSome then (c, w)
    else
      let (c, w) := c.perform a (w.elapse (a.time - w.elapsed))
      let (c, w) := c.settle w
      runActs rest c w

def run (plan : Plan) (node : Option Rpc) (before : Job Unit) (acts : List Act) (w : World) :
    Watch × World :=
  let (c, w) := begin plan node before w
  c.runActs (acts.mergeSort fun x y => x.time ≤ y.time) w

end Watch

end Faucet
