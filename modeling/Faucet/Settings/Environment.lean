import Faucet.Settings.Basic
import Faucet.Settings.EnvFile
import Faucet.Text.Lower

/-!
Where settings come from: fields that are given outright, the variables of the environment, and
those of a file, in this order of precedence. The case of their names does not matter.
-/

set_option autoImplicit false

namespace Faucet

structure Sources where
  given : List (Text × Json) := []
  environment : Entries Text Text := []
  file : Option Text := none

namespace Sources

def opening : Text := "faucet_"

/-- Names in small letters, the last of two that become the same having its way. -/
def folded (vs : EnvFile.Variables) : EnvFile.Variables :=
  Entries.merge [] (vs.map fun v => (v.1.lowered, v.2))

/-- Given fields under the names of the settings. The case of a name does not matter, and of two that
are the same but for it the first one counts; what is no name of the settings is left as it is. -/
def named (given : List (Text × Json)) : List (Text × Json) :=
  let known := Settings.names.filterMap fun name =>
    (given.find? fun g => g.1.lowered = name).map fun g => (name, g.2)
  known ++ given.filter fun g => g.1.lowered ∉ Settings.names

def environmentVariables (s : Sources) : EnvFile.Variables :=
  folded (s.environment.map fun e => (e.1, some e.2))

def fileVariables (s : Sources) : EnvFile.Variables :=
  match s.file with
  | none => []
  | some t => folded (EnvFile.values s.environment t)

def fieldsOf (vs : EnvFile.Variables) : List (Text × Json) :=
  Settings.names.filterMap fun name =>
    match Entries.get? vs (opening ++ name) with
    | some (some v) => some (name, .text v)
    | _ => none

def isKnown (name : Text) : Bool :=
  decide (name ∈ Settings.names) || Settings.names.any fun n => opening ++ n = name

def strangers (vs : EnvFile.Variables) : List (Text × Json) :=
  vs.filterMap fun v =>
    match v.2 with
    | some (c :: cs) => if isKnown v.1 then none else some (v.1, .text (c :: cs))
    | _ => none

def fields (s : Sources) : List (Text × Json) :=
  let file := s.fileVariables
  Entries.merge [] (fieldsOf file ++ strangers file ++ fieldsOf s.environmentVariables
    ++ named s.given)

end Sources

def Settings.ofSources (s : Sources) : Except Failure Settings := Settings.ofFields s.fields

end Faucet
