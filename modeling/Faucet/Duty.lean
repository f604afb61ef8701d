import Faucet.Job.Basic
import Faucet.Binary64.Written
import Faucet.Moment

/-!
Work that is done again and again. The pause before each turn is the same; it begins when the turn
before it has ended, so that two turns of one duty never overlap.
-/

set_option autoImplicit false

namespace Faucet

structure Duty where
  name : Text
  interval : Binary64
  work : Nat → Job Unit

namespace Duty

def make (name : Text) (interval : Binary64) (work : Nat → Job Unit) : Except Failure Duty :=
  if interval.isPositive ∨ interval.isNaN then .ok { name, interval, work }
  else
    .error (.defect (.value
      (name ++ ": interval must be positive, got " ++ interval.toText)))

/-- Microseconds in a positive number of seconds, at least one; nothing if it has no end. -/
def spanOf? : Binary64 → Option Nat
  | .finite _ m e => some (max 1 (Span.microseconds m e))
  | _ => none

def span? (d : Duty) : Option Nat := spanOf? d.interval

def startLine (d : Duty) : Text :=
  "Starting " ++ d.name ++ " with interval: " ++ d.interval.toText ++ "s"

def failLine (d : Duty) (e : Failure) : Text := d.name ++ " failed: " ++ e.message

def stopLine (d : Duty) : Text := d.name ++ " received shutdown signal, stopped"

end Duty

end Faucet
