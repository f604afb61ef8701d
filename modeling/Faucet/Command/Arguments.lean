import Faucet.Entries
import Faucet.Text.Basic

/-!
The arguments of a command, sorted into positional ones and the values of options. An option is named
in full after two dashes or by a letter after one, and takes a value: what follows it at once, or else
the next argument, whatever that looks like. After two dashes alone everything is positional.
-/

set_option autoImplicit false

namespace Faucet

structure Switch where
  name : Text
  letter : CodePoint
deriving DecidableEq

structure Arguments where
  positional : List Text := []
  values : List (Switch × Text) := []

namespace Arguments

inductive Shape where
  | positional
  | switch (s : Switch) (value : Option Text)
  | stop
  | unknown

/-- An option in full: what stands before an equals sign is its name. -/
def fullShape (known : List Switch) (t : Text) : Shape :=
  let name := t.takeWhile (· ≠ 61)
  match known.find? fun s => s.name = name with
  | none => .unknown
  | some s => match t.dropWhile (· ≠ 61) with
    | [] => .switch s none
    | _ :: value => .switch s (some value)

def shortShape (known : List Switch) (letter : CodePoint) (value : Text) : Shape :=
  match known.find? fun s => s.letter = letter with
  | none => .unknown
  | some s => .switch s (if value.isEmpty then none else some value)

def shape (known : List Switch) : Text → Shape
  | [45, 45] => .stop
  | 45 :: 45 :: t => fullShape known t
  | 45 :: letter :: value => shortShape known letter value
  | _ => .positional

def addPositional (t : Text) (a : Arguments) : Arguments :=
  { a with positional := t :: a.positional }

def addValue (s : Switch) (t : Text) (a : Arguments) : Arguments :=
  { a with values := (s, t) :: a.values }

/-- Sorts arguments; nothing if there is an unknown option or one without its value. -/
def sort? (known : List Switch) : List Text → Option Arguments
  | [] => some {}
  | t :: rest =>
    match shape known t with
    | .positional => (sort? known rest).map (addPositional t)
    | .switch s (some value) => (sort? known rest).map (addValue s value)
    | .switch s none => match rest with
      | [] => none
      | value :: rest => (sort? known rest).map (addValue s value)
    | .stop => some { positional := rest }
    | .unknown => none

/-- The value of an option. Of several ones the last counts. -/
def value? (a : Arguments) (s : Switch) : Option Text := Entries.get? a.values.reverse s

end Arguments

end Faucet
