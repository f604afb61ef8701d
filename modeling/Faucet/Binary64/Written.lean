import Faucet.Binary64.Basic
import Faucet.Decimal.Written

/-!
Binary numbers as texts. A number is written with the fewest digits that read back as it, and of those
the nearest to it, positional from 10^-4 up to 10^16. A text that spells a number reads as the number
nearest to it.
-/

set_option autoImplicit false

namespace Faucet.Binary64

/-- The reals that read back as a number, over one denominator: its value, both ends, and whether
the ends belong. -/
structure Interval where
  value : Nat
  low : Nat
  high : Nat
  denominator : Nat
  closed : Bool

/-- Below a power of two the spacing halves, so that the lower end is nearer. -/
def interval (m : Nat) (e : Int) : Interval :=
  let scale := twoTo e.toNat
  let narrow := m = twoTo 52 ∧ leastExponent < e
  { value := 4 * m * scale
    low := (if narrow then 4 * m - 1 else 4 * m - 2) * scale
    high := (4 * m + 2) * scale
    denominator := 4 * twoTo (-e).toNat
    closed := m % 2 = 0 }

def Interval.has (i : Interval) (q : Nat) (k : Int) : Bool :=
  let point := q * tenTo k.toNat * i.denominator
  let low := i.low * tenTo (-k).toNat
  let high := i.high * tenTo (-k).toNat
  if i.closed then low ≤ point && point ≤ high else low < point && point < high

/-- The nearer of the value's two neighbours on the grid of step `10 ^ k` that read back. -/
def Interval.onGrid? (i : Interval) (k : Int) : Option Nat :=
  let value := i.value * tenTo (-k).toNat
  let step := i.denominator * tenTo k.toNat
  let q := value / step
  let r := value % step
  match i.has q k, i.has (q + 1) k with
  | true, true => some (if 2 * r < step ∨ (2 * r = step ∧ q % 2 = 0) then q else q + 1)
  | true, false => some q
  | false, true => some (q + 1)
  | false, false => none

def Interval.magnitude (i : Interval) : Int :=
  let whole := i.value / i.denominator
  if whole ≠ 0 then Text.digitCount whole
  else
    -- for a fraction count the digits of its inverse
    let inverse := i.denominator / i.value
    let digits := Text.digitCount inverse
    if i.value * tenTo digits < i.denominator then -(digits : Int)
    else if i.value * tenTo (digits - 1) < i.denominator then -((digits : Int) - 1)
    else -((digits : Int) - 2)

def Interval.shortest (i : Interval) (p : Int) : Nat → Nat → Nat × Int
  | 0, _ => (0, 0)
  | fuel + 1, n =>
    match i.onGrid? (p - n) with
    | some q => (q, p - n)
    | none => Interval.shortest i p fuel (n + 1)

def significant : Nat → Nat → Int → Nat × Int
  | 0, q, k => (q, k)
  | fuel + 1, q, k => if q ≠ 0 ∧ q % 10 = 0 then significant fuel (q / 10) (k + 1) else (q, k)

def shortestDigits (m : Nat) (e : Int) : Nat × Int :=
  let i := interval m e
  let (q, k) := i.shortest i.magnitude 18 1
  significant 20 q k

def exponentText (x : Int) : Text :=
  (if x < 0 then "e-" else "e+") ++ Text.padded 2 x.natAbs

def toText : Binary64 → Text
  | .nan => "nan"
  | .infinite n => if n then "-inf" else "inf"
  | .finite n m e =>
    let sign : Text := if n then "-" else ""
    if m = 0 then sign ++ "0.0"
    else
      let (q, k) := shortestDigits m e
      let digits := Text.ofNat q
      let top : Int := digits.length + k
      sign ++
        if -4 < top ∧ top ≤ 16 then
          if 0 ≤ k then digits ++ (List.replicate k.toNat 48 : Text) ++ ".0"
          else if 0 < top then digits.take top.toNat ++ "." ++ digits.drop top.toNat
          else "0." ++ (List.replicate (-top).toNat 48 : Text) ++ digits
        else
          let mantissa := if digits.length = 1 then digits else digits.take 1 ++ "." ++ digits.drop 1
          mantissa ++ exponentText (top - 1)

def ofText? (t : Text) : Option Binary64 :=
  let (negative, rest) : Bool × Text := match t with
    | 45 :: r => (true, r)
    | 43 :: r => (false, r)
    | r => (false, r)
  let small := Text.lower rest
  if small = "inf" ∨ small = "infinity" then some (.infinite negative)
  else if small = "nan" then some .nan
  else
    let (whole, rest) := Decimal.spanDigits rest
    let (places, rest) : List Nat × Text := match rest with
      | 46 :: r => Decimal.spanDigits r
      | r => ([], r)
    if whole = [] ∧ places = [] then none
    else (Decimal.readExponent? rest).map fun e =>
      .ofScientific negative (Text.natOfDigits (whole ++ places)) (e - places.length)

def withoutSpacing? : Text → Option Text
  | [] => some []
  | c :: 95 :: d :: rest =>
    if c.isDigit && d.isDigit then (withoutSpacing? (d :: rest)).map (c :: ·) else none
  | c :: rest => if c = 95 then none else (withoutSpacing? rest).map (c :: ·)

/-- A number that may have digits of any script, underscores between digits and blanks around. -/
def ofLooseText? (t : Text) : Option Binary64 :=
  ((t.strip.mapM Decimal.plainDigit?).bind withoutSpacing?).bind ofText?

end Faucet.Binary64
