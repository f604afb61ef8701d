import Faucet.Failure
import Faucet.Binary64.Written
import Faucet.Text.Blank

/-!
Reading the fields of a record from JSON values or from texts. A reader is lenient where nothing is
lost: a text that spells a number is that number. What it refuses it names by the rule that was
broken.
-/

set_option autoImplicit false

namespace Faucet

abbrev FieldRead (α : Type) := Except Text α

namespace Field

def text : Json → FieldRead Text
  | .text t => .ok t
  | _ => .error "string_type"

/-- A value other than a text read from a text, which needs a UTF-8 form for that. -/
def spelled {α : Type} (read : Text → FieldRead α) (t : Text) : FieldRead α :=
  if t.isEncodable then read t else .error "string_unicode"

def optional {α : Type} (read : Json → FieldRead α) : Json → FieldRead (Option α)
  | .null => .ok none
  | v => return some (← read v)

/-- The rest of a number after zeros in front of it, one of which stays before a point or at the
end. -/
def afterZeros? : CodePoint → Text → Option Text
  | last, [] => some [last]
  | last, c :: cs =>
    if c = 48 ∨ c = 95 then afterZeros? c cs
    else if c.isDigit then some (c :: cs)
    else if c = 46 then some (last :: c :: cs)
    else none

def withoutLeadingZeros? : Text → Option Text
  | [] => none
  | c :: cs =>
    if c = 48 then afterZeros? c cs
    else if c.isDigit then some (c :: cs)
    else none

def withoutZeroPlaces (t : Text) : Text :=
  match t.dropWhile (· ≠ 46) with
  | _ :: place :: places =>
    if (place :: places).all (· = 48) then t.takeWhile (· ≠ 46) else t
  | _ => t

def hasDouble (c : CodePoint) : Text → Bool
  | a :: b :: rest => (a = c && b = c) || hasDouble c (b :: rest)
  | _ => false

/-- Underscores count for nothing if each stands between two other code points. -/
def withoutUnderscores? (t : Text) : Option Text :=
  if t.head? = some 95 ∨ t.getLast? = some 95 ∨ hasDouble 95 t then none
  else some (t.filter (· ≠ 95))

def plainDigits? (t : Text) : Option Text := do
  let t ← withoutLeadingZeros? t
  let t := withoutZeroPlaces t
  return (withoutUnderscores? t).getD t

def intOfDigits (t : Text) : FieldRead Nat :=
  if 4300 < (t.takeWhile CodePoint.isDigit).length then .error "int_parsing_size"
  else if t.isEmpty ∨ !t.all CodePoint.isDigit then .error "int_parsing"
  else .ok (Text.natOfDigits (t.map fun c => c.val - 48))

def intOfText (t : Text) : FieldRead Int :=
  let (negative, rest) : Bool × Text := match t.trim CodePoint.isSpace with
    | 45 :: rest => (true, rest)
    | 43 :: rest => (false, rest)
    | rest => (false, rest)
  match plainDigits? rest with
  | none => .error "int_parsing"
  | some digits => do
    let n ← intOfDigits digits
    return if negative then -(n : Int) else n

def intOfBinary : Binary64 → FieldRead Int
  | .finite n m e =>
    let unit := twoTo (-e).toNat
    if m % unit ≠ 0 then .error "int_from_float"
    else
      let whole : Int := Binary64.floorMagnitude m e
      if twoTo 63 ≤ whole then .error "int_parsing_size"
      else .ok (if n then -whole else whole)
  | _ => .error "finite_number"

def int : Json → FieldRead Int
  | .int n => .ok n
  | .bool b => .ok (if b then 1 else 0)
  | .decimal d => intOfBinary (.ofDecimal d)
  | .float x => intOfBinary x
  | .text t => spelled intOfText t
  | _ => .error "int_type"

def binaryOfText (t : Text) : FieldRead Binary64 :=
  match Binary64.ofText? (t.trim CodePoint.isSpace) with
  | some x => .ok x
  | none => match (withoutUnderscores? t).bind Binary64.ofText? with
    | some x => .ok x
    | none => .error "float_parsing"

def binary : Json → FieldRead Binary64
  | .int n =>
    match Binary64.ofRatio (n < 0) n.natAbs 1 with
    | .infinite _ => .error "float_type"
    | x => .ok x
  | .bool b => .ok (.ofRatio false (if b then 1 else 0) 1)
  | .decimal d => .ok (.ofDecimal d)
  | .float x => .ok x
  | .text t => spelled binaryOfText t
  | _ => .error "float_type"

def decimalOfText (t : Text) : FieldRead Decimal :=
  match Decimal.ofText t with
  | .ok d => if d.isFinite then .ok d else .error "finite_number"
  | .error _ => .error "decimal_parsing"

/-- A finite decimal. A number with a fraction is taken by its shortest text. -/
def decimal : Json → FieldRead Decimal
  | .int n => .ok (.ofInt n)
  | .decimal d => decimalOfText (Binary64.ofDecimal d).toText
  | .float x => decimalOfText x.toText
  | .text t => decimalOfText t
  | _ => .error "decimal_type"

def yes : List Text := ["1", "on", "t", "true", "y", "yes"]

def no : List Text := ["0", "off", "f", "false", "n", "no"]

def boolOfText (t : Text) : FieldRead Bool :=
  if Text.lower t ∈ yes then .ok true
  else if Text.lower t ∈ no then .ok false
  else .error "bool_parsing"

def bool : Json → FieldRead Bool
  | .bool b => .ok b
  | .text t => spelled boolOfText t
  | .int n =>
    if n = 0 then .ok false
    else if n = 1 then .ok true
    else .error (if -(twoTo 63 : Int) ≤ n ∧ n < twoTo 63 then "bool_parsing" else "bool_type")
  | .decimal d =>
    match intOfBinary (.ofDecimal d) with
    | .ok 0 => .ok false
    | .ok 1 => .ok true
    | .ok _ => .error "bool_parsing"
    | .error _ => .error "bool_type"
  | _ => .error "bool_type"

def word {α : Type} (read? : Text → Option α) : Json → FieldRead α
  | .text t => spelled (fun t => (read? t).elim (.error "enum") .ok) t
  | _ => .error "enum"

def ensure {α : Type} (rule : Text) (holds : α → Bool) (read : Json → FieldRead α) (v : Json) :
    FieldRead α := do
  let a ← read v
  if holds a then return a else throw rule

def atLeast (least : Int) : Json → FieldRead Int :=
  ensure "greater_than_equal" (fun n => least ≤ n) int

def positive : Json → FieldRead Binary64 := ensure "greater_than" Binary64.isPositive binary

def nonnegative : Json → FieldRead Binary64 :=
  ensure "greater_than_equal" Binary64.isNonnegative binary

def positiveDecimal : Json → FieldRead Decimal :=
  ensure "greater_than" (fun d => Decimal.compare? .zero d == some .lt) decimal

end Field

abbrev FormRead (α : Type) := StateM (List FieldFault) α

namespace FormRead

def note (name rule : Text) : FormRead Unit := modify (· ++ [⟨[name], rule, none⟩])

/-- A field that is given, or its default. A field at fault counts as its default from there on. -/
def field {α : Type} (given : List (Text × Json)) (name : Text) (read : Json → FieldRead α)
    (default : α) : FormRead α :=
  match Json.lookup name given with
  | none => pure default
  | some v => match read v with
    | .ok a => pure a
    | .error rule => do
      note name rule
      return default

def required {α : Type} (given : List (Text × Json)) (name : Text) (read : Json → FieldRead α)
    (instead : α) : FormRead α :=
  match Json.lookup name given with
  | none => do
    note name "missing"
    return instead
  | some _ => field given name read instead

def finish {α : Type} (record : Text) (r : FormRead α) : Except Failure α :=
  let (a, faults) := r.run []
  if faults.isEmpty then .ok a else .error (.defect (.validation record faults))

end FormRead

end Faucet
