import Faucet.Command.Errand
import Faucet.Settings.Environment
import Faucet.World.Watch

/-!
Commands, carried out in a world: the settings are read, the faucet is put together, the command does
its work. A command that cannot go on says why in the log and ends.
-/

set_option autoImplicit false

namespace Faucet

abbrev Continued (α : Type) := Except Ending α × World

namespace World

variable {α : Type}

/-- Goes on with a result. A failure ends the command, and is told in the log if it was foreseen. -/
def told (opening : Text) (r : Except Failure α) (w : World) : Continued α :=
  match r with
  | .ok a => (.ok a, w)
  | .error e =>
    if e.isForeseen then (.error { code := 1 }, w.logLine .error (opening ++ e.message))
    else (.error (.ofDefect e), w)

/-- Goes on with a result. Any failure gets out. -/
def untold (r : Except Failure α) (w : World) : Continued α := (r.mapError .ofDefect, w)

end World

def Failure.isInvalidRecord : Failure → Bool
  | .defect (.validation ..) => true
  | _ => false

namespace Invocation

def askedLevel (i : Invocation) : Option Text := i.level.filter fun t => !t.isEmpty

/-- Settings that do not hold. Even to say so takes a level of logging. -/
def complain (i : Invocation) (e : Failure) (w : World) : Ending × World :=
  match Level.ofName (i.askedLevel.getD "INFO") with
  | .error e => (.ofDefect e, w)
  | .ok _ => ({ code := 1 }, w.logLine .error ("Invalid configuration: " ++ e.message))

def settings (i : Invocation) (sources : Sources) (w : World) : Continued Settings :=
  match Settings.ofSources sources with
  | .error e =>
    if e.isInvalidRecord then
      let (ending, w) := i.complain e w
      (.error ending, w)
    else (.error (.ofDefect e), w)
  | .ok s =>
    let s := { s with logLevel := i.askedLevel.getD s.logLevel }
    w.untold ((Level.ofName s.logLevel).map fun _ => s)

end Invocation

structure Assembly where
  rpc : Rpc
  place : Place
  plan : Plan

namespace World

def assemble (needsNode : Bool) (s : Settings) (w : World) : Except Failure Assembly × World :=
  match if needsNode then s.requireCredentials else .ok () with
  | .error e => (.error e, w)
  | .ok () =>
    let w := w.record (.connect s)
    let found : Except Failure (Rpc × Place × Database) := do
      let rpc ← Plan.rpc s
      let made ← if isFilled s.databaseUrl then pure [] else w.folder.make s.dataDir
      let place ← Place.ofUrl s.database
      return (rpc, place, ← w.folder.database made place)
    match found with
    | .error e => (.error e, w)
    | .ok (rpc, place, database) =>
      match { w with database }.run Job.prepare with
      | (.error e, w) => (.error e, w)
      | (.ok (), w) => ((Plan.make s).map fun plan => { rpc, place, plan }, w)

end World

namespace Command

def endingOf (c : Watch) : Except Failure Ending :=
  match c.outcome? with
  | none | some (.ok true) => .ok {}
  | some (.ok false) => .ok { code := 2 }
  | some (.error e) => .error e

def work (a : Assembly) (acts : List Act) (c : Command) (w : World) :
    Except Failure Ending × World :=
  match c with
  | .run =>
    let (watch, w) := Watch.run a.plan (some a.rpc) (pure ()) acts w
    (endingOf watch, w)
  | .errand e => w.run ((e.work a.plan).via (some a.rpc))

def perform (a : Assembly) (acts : List Act) (c : Command) (w : World) : Continued Ending :=
  let (r, w) := c.work a acts w
  match c.complaint? with
  | some opening => w.told opening r
  | none => w.untold r

end Command

namespace Invocation

def run (i : Invocation) (sources : Sources) (acts : List Act) (w : World) : Ending × World :=
  match i.settings sources w with
  | (.error ending, w) => (ending, w)
  | (.ok s, w) =>
    let (r, w) := w.assemble i.command.needsNode s
    match w.told "" r with
    | (.error ending, w) => (ending, w)
    | (.ok a, w) =>
      let (r, w) := i.command.perform a acts w
      let ending := match r with
        | .ok ending | .error ending => ending
      (ending, { w with folder := w.folder.keep a.place w.database })

end Invocation

end Faucet
