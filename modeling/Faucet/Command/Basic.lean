import Faucet.Command.Arguments
import Faucet.Field.Basic

/-!
What the faucet is told to do on a command line: to run until it is stopped, or an errand that it is
done with at once.
-/

set_option autoImplicit false

namespace Faucet

inductive Errand where
  | submit (address : Text) (tier : Option Int) (source : Text)
  | merge
  | balance
  | stats
  | reconcile
deriving DecidableEq

inductive Command where
  | run
  | errand (e : Errand)
deriving DecidableEq

def Errand.needsNode : Errand → Bool
  | .merge | .balance => true
  | .submit .. | .stats | .reconcile => false

def Command.needsNode : Command → Bool
  | .run => true
  | .errand e => e.needsNode

structure Invocation where
  command : Command
  level : Option Text := none
deriving DecidableEq

namespace Invocation

def levelSwitch : Switch := { name := "log-level", letter := 108 }

def tierSwitch : Switch := { name := "tier", letter := 116 }

def sourceSwitch : Switch := { name := "source", letter := 115 }

def localSource : Text := "127.0.0.1"

def tier? : Option Text → Option (Option Int)
  | none => some none
  | some t => ((Field.spelled Field.intOfText t).toOption).map some

def submission? (args : List Text) : Option Invocation :=
  match Arguments.sort? [tierSwitch, sourceSwitch, levelSwitch] args with
  | some a => match a.positional with
    | [address] => (tier? (a.value? tierSwitch)).map fun tier =>
        { command := .errand (.submit address tier ((a.value? sourceSwitch).getD localSource))
          level := a.value? levelSwitch }
    | _ => none
  | none => none

def plain? (command : Command) (args : List Text) : Option Invocation :=
  match Arguments.sort? [levelSwitch] args with
  | some a => if a.positional.isEmpty then some { command, level := a.value? levelSwitch } else none
  | none => none

def named? (name : Text) (args : List Text) : Option Invocation :=
  if name = "run" then plain? .run args
  else if name = "submit" then submission? args
  else if name = "consolidate" then plain? (.errand .merge) args
  else if name = "balance" then plain? (.errand .balance) args
  else if name = "stats" then plain? (.errand .stats) args
  else if name = "reconcile" then plain? (.errand .reconcile) args
  else none

/-- An invocation by its arguments; nothing if they make no sense. Two dashes may go before the name
of the command. -/
def ofArguments? : List Text → Option Invocation
  | [] => none
  | [45, 45] :: name :: args => named? name args
  | name :: args => named? name args

end Invocation

end Faucet
