import Faucet.World.Command

/-!
The command line. A command is carried out in a world of its own: no node answers it, time passes only
where the faucet waits, and its files last as long as the command. Settings come from the environment
and from a file in the working directory, random numbers from the system.
-/

set_option autoImplicit false

namespace Faucet.Main

def shown (t : Text) : String := String.ofList (t.map fun c => Char.ofNat c.val)

def variableName (field : Text) : Text := Text.upper (Sources.opening ++ field)

def environment : IO (Entries Text Text) :=
  Settings.names.filterMapM fun field => do
    let value ← IO.getEnv (shown (variableName field))
    return value.map fun v => (variableName field, Text.ofString v)

def settingsFile : IO (Option Text) := do
  try
    let t ← IO.FS.readFile ".env"
    return some (Text.ofString t)
  catch _ => return none

def randomNumber : IO Int := do
  let octets ← IO.getRandomBytes 8
  return octets.foldl (fun n b => n * 256 + b.toNat) 0

/-- Log lines that are not below a level, each with the name of its own level. -/
def linesFrom (least : Level) (logs : List (Level × Text)) : List Text :=
  (logs.filter fun l => least.severity ≤ l.1.severity).map fun l => l.1.text ++ " - " ++ l.2

def levelOf (i : Invocation) (sources : Sources) : Level :=
  let name : Text := match Settings.ofSources sources with
    | .ok s => i.askedLevel.getD s.logLevel
    | .error _ => i.askedLevel.getD "INFO"
  (Level.ofName name).toOption.getD .info

def usage : Text :=
  "usage: faucet run|submit|consolidate|balance|stats|reconcile [arguments] [--log-level LEVEL]"

def perform (i : Invocation) : IO UInt32 := do
  let sources : Sources := { environment := ← environment, file := ← settingsFile }
  let w : World := { draws := [← randomNumber], observer := .logging }
  let (ending, w) := i.run sources [] w
  for l in linesFrom (levelOf i sources) w.logs.reverse do
    IO.eprintln (shown l)
  IO.print (shown ending.output)
  if let some e := ending.escaped then IO.eprintln (shown e.message)
  return ending.code.toUInt32

end Faucet.Main

def main (args : List String) : IO UInt32 :=
  match Faucet.Invocation.ofArguments? (args.map Faucet.Text.ofString) with
  | some i => Faucet.Main.perform i
  | none => do
    IO.eprintln (Faucet.Main.shown Faucet.Main.usage)
    return Faucet.Ending.misuse.code.toUInt32
