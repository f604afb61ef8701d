import Faucet.Decimal.Basic
import Faucet.Text.Blank
import Faucet.Text.Digit

/-!
Decimal numbers as text: the reader, the plain form with all digits of the coefficient, and the
form with a fixed number of places.
-/

set_option autoImplicit false

namespace Faucet.Decimal

def spanDigits : Text → List Nat × Text
  | [] => ([], [])
  | c :: cs =>
    if c.isDigit then
      let (ds, rest) := spanDigits cs
      ((c.val - 48) :: ds, rest)
    else ([], c :: cs)

def readExponent? : Text → Option Int
  | [] => some 0
  | c :: cs =>
    if c = 101 ∨ c = 69 then
      let (negative, cs) : Bool × Text := match cs with
        | 45 :: r => (true, r)
        | 43 :: r => (false, r)
        | r => (false, r)
      match spanDigits cs with
      | ([], _) => none
      | (ds, []) => some (if negative then -(Text.natOfDigits ds : Int) else Text.natOfDigits ds)
      | (_, _ :: _) => none
    else none

def readable (c : Nat) (e : Int) : Bool :=
  let top : Int := 999999999999999999
  let bottom : Int := -1999999999999999997
  if c = 0 then bottom ≤ e && e ≤ top else bottom ≤ e && Text.digitCount c + e - 1 ≤ top

def readFinite (negative : Bool) (t : Text) : Except ArithmeticFault Decimal :=
  let (whole, rest) := spanDigits t
  let (places, rest) : List Nat × Text := match rest with
    | 46 :: r => spanDigits r
    | r => ([], r)
  if whole = [] ∧ places = [] then .error .malformed
  else match readExponent? rest with
    | none => .error .malformed
    | some e =>
      let c := Text.natOfDigits (whole ++ places)
      let e := e - places.length
      if readable c e then .ok (.finite negative c e) else .error .invalid

def readNaN (negative signalling : Bool) (t : Text) : Except ArithmeticFault Decimal :=
  match spanDigits t with
  | (ds, []) => .ok (.nan negative signalling (Text.natOfDigits ds))
  | _ => .error .malformed

def readUnsigned (negative : Bool) (t : Text) : Except ArithmeticFault Decimal :=
  let small := t.lower
  if small = "inf" ∨ small = "infinity" then .ok (.infinite negative)
  else match Text.after? "nan" small, Text.after? "snan" small with
    | some rest, _ => readNaN negative false rest
    | none, some rest => readNaN negative true rest
    | none, none => readFinite negative t

def plainDigit? (c : CodePoint) : Option CodePoint :=
  if 0 < c.val && c.val ≤ 127 then some c
  else if c.isBlank then some 32
  else c.digitValue?.map fun d => CodePoint.ofNat (48 + d)

/-- Reads a number. Blanks around it and underscores within it do not count. -/
def ofText (t : Text) : Except ArithmeticFault Decimal :=
  match ((t.strip.filter (· ≠ 95)).mapM plainDigit?) with
  | none => .error .malformed
  | some (45 :: r) => readUnsigned true r
  | some (43 :: r) => readUnsigned false r
  | some r => readUnsigned false r

def signText (negative : Bool) : Text := if negative then "-" else ""

def payloadText (payload : Nat) : Text := if payload = 0 then "" else Text.ofNat payload

def nanText (negative signalling : Bool) (payload : Nat) : Text :=
  signText negative ++ (if signalling then "sNaN" else "NaN") ++ payloadText payload

def pointed (digits : Text) (places : Nat) : Text :=
  let digits := List.replicate (places + 1 - digits.length) 48 ++ digits
  digits.take (digits.length - places) ++ "." ++ digits.drop (digits.length - places)

/-- Every digit of the coefficient is written. The exponent is written apart when it is positive or
the first digit stands more than six places behind the point. -/
def toText : Decimal → Text
  | .infinite n => signText n ++ "Infinity"
  | .nan n s p => nanText n s p
  | .finite n c e =>
    let digits := Text.ofNat c
    let top : Int := digits.length + e
    signText n ++
      if e = 0 then digits
      else if e < 0 ∧ -6 < top then pointed digits (-e).toNat
      else
        let mantissa := if digits.length = 1 then digits else pointed digits (digits.length - 1)
        mantissa ++ (if top - 1 < 0 then "E-" else "E+") ++ Text.ofNat (top - 1).natAbs

/-- Exactly eight places, a half going to the even neighbour. Nothing limits the digits. -/
def fixed8 : Decimal → Text
  | .infinite n => signText n ++ "Infinity"
  | .nan n s p => nanText n s p
  | .finite n c e =>
    let digits : Text :=
      if c ≠ 0 ∧ -8 ≤ e then Text.ofNat c ++ List.replicate (e + 8).toNat 48
      else Text.ofNat (rescale .halfEven c e (-8))
    signText n ++ pointed digits 8

end Faucet.Decimal
