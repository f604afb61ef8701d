import Faucet.Json.Basic
import Faucet.Text.Decoded

/-!
Reading JSON. The grammar is the strict one with three more words, `NaN`, `Infinity` and
`-Infinity`. What is no JSON is told apart from JSON whose numbers or nesting are too large.
-/

set_option autoImplicit false

namespace Faucet.Json

inductive ReadError where
  | malformed
  | outOfRange (fault : ArithmeticFault)
  | tooLong (digits : Nat)
  | tooDeep
deriving DecidableEq, Repr

abbrev Read (α : Type) := Except ReadError α

def maxDigits : Nat := 4300

def maxDepth : Nat := 960

def isSpace (c : CodePoint) : Bool := c = 32 || c = 9 || c = 10 || c = 13

def skipSpace (t : Text) : Text := t.dropWhile isSpace

def word? (value : Json) (w : Text) (t : Text) : Option (Json × Text) :=
  (Text.after? w t).map fun rest => (value, rest)

def hex4? : Text → Option (Nat × Text)
  | a :: b :: c :: d :: rest => do
    let a ← a.hexValue?
    let b ← b.hexValue?
    let c ← c.hexValue?
    let d ← d.hexValue?
    return (((a * 16 + b) * 16 + c) * 16 + d, rest)
  | _ => none

/-- The digits of an escape after `\u`. A high surrogate takes the escape after it along if that is a
low one. -/
def unicodeEscape? (t : Text) : Option (CodePoint × Text) := do
  let (high, rest) ← hex4? t
  let lone := (CodePoint.ofNat high, rest)
  if Text.isHighSurrogate high then
    match rest with
    | 92 :: 117 :: more => match hex4? more with
      | some (low, after) =>
        if Text.isLowSurrogate low then some (CodePoint.ofNat (Text.joinPair high low), after)
        else some lone
      | none => none
    | _ => some lone
  else some lone

def simpleEscape? (c : CodePoint) : Option CodePoint :=
  if c = 34 ∨ c = 92 ∨ c = 47 then some c
  else if c = 98 then some 8
  else if c = 102 then some 12
  else if c = 110 then some 10
  else if c = 114 then some 13
  else if c = 116 then some 9
  else none

def string : Nat → Text → Read (Text × Text)
  | 0, _ => .error .malformed
  | _ + 1, [] => .error .malformed
  | fuel + 1, c :: cs =>
    if c = 34 then .ok ([], cs)
    else if c.val < 32 then .error .malformed
    else if c = 92 then
      match cs with
      | [] => .error .malformed
      | 117 :: rest => match unicodeEscape? rest with
        | none => .error .malformed
        | some (d, rest) => do
          let (t, rest) ← string fuel rest
          return (d :: t, rest)
      | e :: rest => match simpleEscape? e with
        | none => .error .malformed
        | some d => do
          let (t, rest) ← string fuel rest
          return (d :: t, rest)
    else do
      let (t, rest) ← string fuel cs
      return (c :: t, rest)

def wholeDigits? (t : Text) : Option (List Nat × Text) :=
  match t with
  | 48 :: rest => some ([0], rest)
  | _ => match Decimal.spanDigits t with
    | ([], _) => none
    | found => some found

def fraction? : Text → Option (List Nat × Text)
  | 46 :: rest => match Decimal.spanDigits rest with
    | ([], _) => none
    | found => some found
  | _ => none

def exponent? : Text → Option (Int × Text)
  | c :: cs =>
    if c = 101 ∨ c = 69 then
      let (negative, cs) : Bool × Text := match cs with
        | 45 :: r => (true, r)
        | 43 :: r => (false, r)
        | r => (false, r)
      match Decimal.spanDigits cs with
      | ([], _) => none
      | (ds, rest) =>
        some (if negative then -(Text.natOfDigits ds : Int) else Text.natOfDigits ds, rest)
    else none
  | [] => none

def number (negative : Bool) (t : Text) : Read (Json × Text) :=
  match wholeDigits? t with
  | none => .error .malformed
  | some (whole, rest) =>
    let (places, rest₁) := (fraction? rest).getD ([], rest)
    let (exponent, rest₂) := (exponent? rest₁).getD (0, rest₁)
    if rest₂.length = rest.length then
      if maxDigits < whole.length then .error (.tooLong whole.length)
      else
        let n := Text.natOfDigits whole
        .ok (.int (if negative then -(n : Int) else n), rest)
    else
      let c := Text.natOfDigits (whole ++ places)
      let e := exponent - places.length
      if Decimal.readable c e then .ok (.decimal (.finite negative c e), rest₂)
      else .error (.outOfRange .invalid)

mutual

def value : Nat → Nat → Text → Read (Json × Text)
  | 0, _, _ => .error .malformed
  | _ + 1, _, [] => .error .malformed
  | fuel + 1, depth, c :: cs =>
    if c = 34 then do
      let (t, rest) ← string (cs.length + 1) cs
      return (.text t, rest)
    else if c = 123 ∨ c = 91 then
      if maxDepth ≤ depth then .error .tooDeep
      else if c = 123 then
        match skipSpace cs with
        | 125 :: rest => .ok (.object [], rest)
        | rest => do
          let (fields, rest) ← members fuel (depth + 1) [] rest
          return (.object fields, rest)
      else
        match skipSpace cs with
        | 93 :: rest => .ok (.list [], rest)
        | rest => do
          let (items, rest) ← elements fuel (depth + 1) rest
          return (.list items, rest)
    else if c = 45 then
      match word? (.float (.infinite true)) "Infinity" cs with
      | some found => .ok found
      | none => number true cs
    else
      let words := (word? .null "null" (c :: cs)).orElse fun _ =>
        (word? (.bool true) "true" (c :: cs)).orElse fun _ =>
        (word? (.bool false) "false" (c :: cs)).orElse fun _ =>
        (word? (.float .nan) "NaN" (c :: cs)).orElse fun _ =>
        word? (.float (.infinite false)) "Infinity" (c :: cs)
      match words with
      | some found => .ok found
      | none => number false (c :: cs)

def elements : Nat → Nat → Text → Read (List Json × Text)
  | 0, _, _ => .error .malformed
  | fuel + 1, depth, t => do
    let (v, rest) ← value fuel depth t
    match skipSpace rest with
    | 44 :: rest => do
      let (vs, rest) ← elements fuel depth (skipSpace rest)
      return (v :: vs, rest)
    | 93 :: rest => return ([v], rest)
    | _ => .error .malformed

def members : Nat → Nat → List (Text × Json) → Text → Read (List (Text × Json) × Text)
  | 0, _, _, _ => .error .malformed
  | fuel + 1, depth, fields, t =>
    match t with
    | 34 :: cs => do
      let (name, rest) ← string (cs.length + 1) cs
      match skipSpace rest with
      | 58 :: rest => do
        let (v, rest) ← value fuel depth (skipSpace rest)
        match skipSpace rest with
        | 44 :: rest => members fuel depth (Entries.put fields name v) (skipSpace rest)
        | 125 :: rest => return (Entries.put fields name v, rest)
        | _ => .error .malformed
      | _ => .error .malformed
    | _ => .error .malformed

end

def ofText (t : Text) : Read Json :=
  let t := skipSpace t
  match value (t.length + 1) 0 t with
  | .error e => .error e
  | .ok (v, rest) => if (skipSpace rest).isEmpty then .ok v else .error .malformed

/-- The encoding of a body, told from a byte order mark or else from where the zero octets are among
the first four. -/
def encodingOf : Octets → Encoding
  | 0 :: 0 :: 0xFE :: 0xFF :: _ => .utf32 true
  | 0xFF :: 0xFE :: 0 :: 0 :: _ => .utf32 false
  | 0xFE :: 0xFF :: _ => .utf16 true
  | 0xFF :: 0xFE :: _ => .utf16 false
  | a :: b :: c :: d :: _ =>
    if a = 0 then (if b = 0 then .utf32 true else .utf16 true)
    else if b = 0 then (if c = 0 ∧ d = 0 then .utf32 false else .utf16 false)
    else .utf8
  | [a, b] => if a = 0 then .utf16 true else if b = 0 then .utf16 false else .utf8
  | _ => .utf8

def markLength : Octets → Nat
  | 0 :: 0 :: 0xFE :: 0xFF :: _ | 0xFF :: 0xFE :: 0 :: 0 :: _ => 4
  | 0xFE :: 0xFF :: _ | 0xFF :: 0xFE :: _ => 2
  | _ => 0

/-- The text of a body. The mark of UTF-8 is no part of the body, the other marks are. -/
def decode : Octets → Except DecodeFault Text
  | 0xEF :: 0xBB :: 0xBF :: rest => Encoding.utf8.decode 0 rest
  | bs => (encodingOf bs).decode (markLength bs) bs

end Faucet.Json
