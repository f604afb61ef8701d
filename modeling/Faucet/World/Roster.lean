import Faucet.Duty
import Faucet.Power
import Faucet.World.Step

/-!
Duties in virtual time. A task waits, works, waits again, and comes to its end when a stop has been
asked for: at once if it waits, after its work if it works. Whoever does not come to an end in time
is sent home in the middle of its work.
-/

set_option autoImplicit false

namespace Faucet

inductive Phase where
  | unstarted
  /-- Waits until a time, if there is one, as the one whose wait began after so many others. -/
  | waiting (wake : Option Nat) (turn : Nat)
  | working (work : Paused Unit)
  | finished
  | cancelled

structure Task where
  duty : Duty
  phase : Phase := .unstarted
  ticks : Nat := 0

namespace Task

def wake? (t : Task) : Option Nat :=
  match t.phase with
  | .waiting wake _ => wake
  | .working work => work.wake?
  | _ => none

def isStarted (t : Task) : Bool :=
  match t.phase with
  | .unstarted => false
  | _ => true

def isActive (t : Task) : Bool :=
  match t.phase with
  | .waiting .. | .working _ => true
  | _ => false

def turn? (t : Task) : Option Nat :=
  match t.phase with
  | .waiting _ turn => some turn
  | _ => none

end Task

inductive Mark where
  | began
  | ended
  | failed (e : Failure)
  | cancelled
  | stopAsked

structure Roster where
  tasks : List Task := []
  stopping : Bool := false
  turn : Nat := 0
  /-- Marks with the time and the name of the task, the latest first. -/
  history : List (Nat × Text × Mark) := []

namespace Roster

def add (r : Roster) (d : Duty) : Roster := { r with tasks := r.tasks ++ [{ duty := d }] }

def setTask (r : Roster) (i : Nat) (t : Task) : Roster := { r with tasks := r.tasks.set i t }

def mark (r : Roster) (w : World) (name : Text) (m : Mark) : Roster :=
  { r with history := (w.elapsed, name, m) :: r.history }

def finish (i : Nat) (t : Task) (r : Roster) (w : World) : Roster × World :=
  (r.setTask i { t with phase := .finished }, w.logLine .info t.duty.stopLine)

def rest (i : Nat) (t : Task) (r : Roster) (w : World) : Roster × World :=
  if r.stopping then r.finish i t w
  else
    let wake := t.duty.span?.map (w.elapsed + ·)
    ({ r.setTask i { t with phase := .waiting wake r.turn } with turn := r.turn + 1 }, w)

def settle (i : Nat) (t : Task) (r : Roster) (w : World) : Paused Unit → Roster × World
  | .ended (.ok ()) =>
    (r.mark w t.duty.name .ended).rest i { t with ticks := t.ticks + 1 } w
  | .ended (.error e) =>
    (r.mark w t.duty.name (.failed e)).rest i { t with ticks := t.ticks + 1 }
      (w.logLine .error (t.duty.failLine e))
  | work => (r.setTask i { t with phase := .working work }, w)

def wake (i : Nat) (r : Roster) (w : World) : Roster × World :=
  match r.tasks[i]? with
  | none => (r, w)
  | some t => match t.phase with
    | .waiting .. =>
      let r := r.mark w t.duty.name .began
      let (work, w) := (t.duty.work t.ticks).advance StoreStep.stepper w
      r.settle i t w work
    | .working work =>
      let (work, w) := work.resume StoreStep.stepper w
      r.settle i t w work
    | _ => (r, w)

def startTask (i : Nat) (r : Roster) (w : World) : Roster × World :=
  match r.tasks[i]? with
  | none => (r, w)
  | some t =>
    if t.isStarted then (r, w) else r.rest i t (w.logLine .info t.duty.startLine)

def start (r : Roster) (w : World) : Roster × World :=
  (List.range r.tasks.length).foldl (fun s i => s.1.startTask i s.2) (r, w)

def line (r : Roster) : List Nat :=
  let waiting := r.tasks.zipIdx.filterMap fun p => p.1.turn?.map fun turn => (turn, p.2)
  (waiting.mergeSort fun x y => x.1 ≤ y.1).map (·.2)

def finishAt (i : Nat) (r : Roster) (w : World) : Roster × World :=
  match r.tasks[i]? with
  | none => (r, w)
  | some t => r.finish i t w

/-- A stop is asked for: those who wait come to their end, in the order of their line. -/
def stop (r : Roster) (w : World) : Roster × World :=
  if r.stopping then (r, w)
  else
    let r := { r.mark w [] .stopAsked with stopping := true }
    r.line.foldl (fun s i => s.1.finishAt i s.2) (r, w)

def earlier : Option (Nat × Nat) → Option (Nat × Nat) → Option (Nat × Nat)
  | none, y => y
  | x, none => x
  | some x, some y => if y.1 < x.1 then some y else some x

def due? (r : Roster) : Option (Nat × Nat) :=
  (r.tasks.zipIdx.map fun p => p.1.wake?.map fun t => (t, p.2)).foldl earlier none

def isIdle (r : Roster) : Bool := !r.tasks.any Task.isActive

def runWithin (limit : Option Nat) : Nat → Roster → World → Roster × World
  | 0, r, w => (r, w)
  | fuel + 1, r, w =>
    match r.due? with
    | none => (r, w)
    | some (t, i) =>
      if limit.all (t < ·) then
        let (r, w) := r.wake i (w.elapse (t - w.elapsed))
        runWithin limit fuel r w
      else (r, w)

/-- Steps that a roster can take in a span of time: with each one a task moves on by a microsecond at
least. -/
def steps (r : Roster) (span : Nat) : Nat := r.tasks.length * (span + 1) + 1

def runTo (time : Nat) (r : Roster) (w : World) : Roster × World :=
  let (r, w) := r.runWithin (some time) (r.steps (time - w.elapsed)) w
  (r, w.elapse (time - w.elapsed))

def cancelAt (i : Nat) (r : Roster) (w : World) : Roster × World :=
  match r.tasks[i]? with
  | none => (r, w)
  | some t => match t.phase with
    | .working _ =>
      ((r.mark w t.duty.name .cancelled).setTask i
        { t with phase := .cancelled, ticks := t.ticks + 1 }, w)
    | _ => (r, w)

def forcedLine (r : Roster) (timeout : Binary64) : Text :=
  "Shutdown timeout of " ++ timeout.toText ++ "s exceeded, forcing exit of: "
    ++ Text.join ", " ((r.tasks.filter Task.isActive).map fun t => t.duty.name)

def dismiss (timeout : Binary64) (r : Roster) (w : World) : Roster × World :=
  (List.range r.tasks.length).foldl (fun s i => s.1.cancelAt i s.2)
    (r, w.logLine .warning (r.forcedLine timeout))

def stoppedLine : Text := "All background tasks stopped"

def patience : Nat := tenTo 18

def next? (r : Roster) (w : World) : Option (Roster × World) :=
  r.due?.map fun (t, i) => r.wake i (w.elapse (t - w.elapsed))

def Next (later now : Roster × World) : Prop := now.1.next? now.2 = some later

/-- Lets tasks do what they have to until nothing is due any more. Tasks that have been told to stop
come to that point, however long it takes. -/
def runOut (r : Roster) (w : World) : Roster × World :=
  have : Nonempty (Roster × World) := ⟨(r, w)⟩
  WellFounded.partialExtrinsicFix Next
    (fun now runOut =>
      match turn : now.1.next? now.2 with
      | none => now
      | some later => runOut later turn)
    (r, w)

def runUntil (deadline : Option Nat) (r : Roster) (w : World) : Roster × World :=
  match deadline with
  | some time => r.runWithin (some time) (r.steps (time - w.elapsed)) w
  | none => r.runOut w

/-- Lets the tasks come to their end for a number of seconds, and dismisses those who have not.
Answers whether all of them have. -/
def drain (timeout : Binary64) (r : Roster) (w : World) : Bool × Roster × World :=
  let deadline := (Duty.spanOf? timeout).map (w.elapsed + ·)
  let (r, w) := r.runUntil deadline w
  if r.isIdle then (true, r, w.logLine .info stoppedLine)
  else
    let (r, w) := r.dismiss timeout (w.elapse (deadline.getD w.elapsed - w.elapsed))
    (false, r, w)

/-- Asks for a stop and waits for the tasks to come to their end. Without any time to wait even those
who only had to be told are dismissed, though nothing is lost by it. -/
def shutdown (timeout : Binary64) (r : Roster) (w : World) : Bool × Roster × World :=
  if !r.tasks.any Task.isStarted then
    let (r, w) := r.stop w
    (true, r, w)
  else if timeout.isPositive ∨ r.isIdle then
    let (r, w) := r.stop w
    r.drain timeout w
  else
    let (r, w) := r.dismiss timeout w
    let (r, w) := r.stop w
    (false, r, w)

end Roster

end Faucet
