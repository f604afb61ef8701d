import Faucet.Entries
import Faucet.Text.Blank

/-!
Files that bind variables, one to a line. A value stands bare, up to a comment, or in quotes, where
it may run over several lines. A line that is not of this form is left out. A bound value may refer
to a variable that was bound before it.
-/

set_option autoImplicit false

namespace Faucet.EnvFile

structure Binding where
  name : Text
  value : Option Text

def isGap (c : CodePoint) : Bool := c.isBlank && c ≠ 10

def unifyLines : Text → Text
  | [] => []
  | [c] => if c = 13 then [10] else [c]
  | c :: d :: rest =>
    if c = 13 then
      if d = 10 then 10 :: unifyLines rest else 10 :: unifyLines (d :: rest)
    else c :: unifyLines (d :: rest)

/-- What stands before the closing quote, and what after it. What follows a backslash does not close,
whatever it is. -/
def quotedSpan (quote : CodePoint) : Text → Option (Text × Text)
  | [] => none
  | [c] => if c = quote then some ([], []) else none
  | c :: d :: rest =>
    if c = quote then some ([], d :: rest)
    else if c = 92 then (quotedSpan quote rest).map fun s => (c :: d :: s.1, s.2)
    else (quotedSpan quote (d :: rest)).map fun s => (c :: s.1, s.2)

def doubleEscapes : List (Nat × CodePoint) :=
  [(92, 92), (39, 39), (34, 34), (97, 7), (98, 8), (102, 12), (110, 10), (114, 13), (116, 9),
   (118, 11)]

def singleEscapes : List (Nat × CodePoint) := [(92, 92), (39, 39)]

def unescape (escapes : List (Nat × CodePoint)) : Text → Text
  | [] => []
  | [c] => [c]
  | c :: d :: rest =>
    if c = 92 then
      match escapes.find? fun e => e.1 = d.val with
      | some e => e.2 :: unescape escapes rest
      | none => c :: unescape escapes (d :: rest)
    else c :: unescape escapes (d :: rest)

/-- A bare value ends where a blank stands before a number sign. -/
def beforeComment : Text → Text
  | [] => []
  | [c] => [c]
  | c :: d :: rest => if c.isBlank ∧ d = 35 then [] else c :: beforeComment (d :: rest)

def isLineEnd (c : CodePoint) : Bool := c = 10

abbrev Part (α : Type) : Type := Except Text (α × Text)

def inQuotes (quote : CodePoint) (escapes : List (Nat × CodePoint)) (start t : Text) : Part Text :=
  match quotedSpan quote t with
  | some (inner, rest) => .ok (unescape escapes inner, rest)
  | none => .error start

/-- A value, from the equals sign on. Blanks in front of a bare value are no part of it, but what
follows one of them may be a comment already. -/
def readValue (t : Text) : Part Text :=
  match t.dropWhile isGap with
  | 39 :: rest => inQuotes 39 singleEscapes (39 :: rest) rest
  | 34 :: rest => inQuotes 34 doubleEscapes (34 :: rest) rest
  | _ =>
    let line := t.takeWhile fun c => !isLineEnd c
    .ok ((beforeComment line).trim CodePoint.isBlank, t.dropWhile fun c => !isLineEnd c)

def isNamePart (c : CodePoint) : Bool := c ≠ 61 && c ≠ 35 && !c.isBlank

def readName (t : Text) : Part (Option Text) :=
  match t with
  | 35 :: _ => .ok (none, t)
  | 39 :: rest =>
    let inner := rest.takeWhile (· ≠ 39)
    match inner, rest.dropWhile (· ≠ 39) with
    | _ :: _, _ :: after => .ok (some inner, after)
    | _, _ => .error t
  | _ =>
    let bare := t.takeWhile isNamePart
    if bare.isEmpty then .error t else .ok (some bare, t.dropWhile isNamePart)

def afterExport (t : Text) : Text :=
  match Text.after? "export" t with
  | some (c :: rest) => if isGap c then rest.dropWhile isGap else t
  | _ => t

def afterComment (t : Text) : Text :=
  match t.dropWhile isGap with
  | 35 :: rest => rest.dropWhile fun c => !isLineEnd c
  | _ => t

def readLineEnd (t : Text) : Part Unit :=
  match t.dropWhile isGap with
  | [] => .ok ((), [])
  | c :: rest => if isLineEnd c then .ok ((), rest) else .error t

def readOptionalValue (t : Text) : Part (Option Text) :=
  match t.dropWhile isGap with
  | 61 :: rest => (readValue rest).map fun v => (some v.1, v.2)
  | rest => .ok (none, rest)

def readBinding (t : Text) : Part (Option Binding) :=
  (readName (afterExport t)).bind fun name =>
    (readOptionalValue name.2).bind fun value =>
      (readLineEnd (afterComment value.2)).map fun stop =>
        (name.1.map fun n => ⟨n, value.1⟩, stop.2)

/-- One statement and what follows it. After a mistake the rest of the line is left out. -/
def statement (t : Text) : Option Binding × Text :=
  match t.dropWhile CodePoint.isBlank with
  | [] => (none, [])
  | c :: rest => match readBinding (c :: rest) with
    | .ok r => r
    | .error stopped => (none, (stopped.dropWhile fun d => !isLineEnd d).drop 1)

def bindingsWithin : Nat → Text → List Binding
  | 0, _ => []
  | _ + 1, [] => []
  | fuel + 1, t =>
    let (b, rest) := statement t
    b.toList ++ bindingsWithin fuel rest

def withoutMark : Text → Text
  | 0xFEFF :: t => t
  | t => t

def bindings (t : Text) : List Binding :=
  let t := unifyLines (withoutMark t)
  bindingsWithin t.length t

/-- A reference to a variable, after its opening brace: the name, a default after a colon and a dash,
and what follows the closing brace. -/
def reference? (t : Text) : Option (Text × Text × Text) :=
  let name := t.takeWhile fun c => c ≠ 125 ∧ c ≠ 58
  match t.drop name.length with
  | 125 :: rest => some (name, [], rest)
  | 58 :: 45 :: rest => match rest.dropWhile (· ≠ 125) with
    | 125 :: after => some (name, rest.takeWhile (· ≠ 125), after)
    | _ => none
  | _ => none

/-- Replaces references. `known` finds a variable; one that is known without a value is empty. -/
def substituteWithin (known : Text → Option (Option Text)) : Nat → Text → Text
  | 0, t => t
  | _ + 1, [] => []
  | fuel + 1, c :: rest =>
    let plain := c :: substituteWithin known fuel rest
    match c, rest with
    | 36, 123 :: inner => match reference? inner with
      | some (name, default, after) =>
        let found : Text := match known name with
          | some v => v.getD []
          | none => default
        found ++ substituteWithin known fuel after
      | none => plain
    | _, _ => plain

def substitute (known : Text → Option (Option Text)) (t : Text) : Text :=
  substituteWithin known t.length t

abbrev Variables := Entries Text (Option Text)

/-- The variables that a file binds, its own ones going before those of the environment wherever it
refers to one. -/
def values (environment : Entries Text Text) (t : Text) : Variables :=
  (bindings t).foldl (fun vs b =>
    let known (name : Text) : Option (Option Text) :=
      match Entries.get? vs name with
      | some v => some v
      | none => (Entries.get? environment name).map some
    Entries.put vs b.name (b.value.map (substitute known))) []

end Faucet.EnvFile
