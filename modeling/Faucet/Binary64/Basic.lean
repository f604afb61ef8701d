import Faucet.Decimal.Basic

/-!
Binary floating point numbers of 64 bits, kept as an exact significand and a power of two. A ratio
of whole numbers becomes the nearest of them, a tie going to the even significand.
-/

set_option autoImplicit false

namespace Faucet

/-- `finite n m e` stands for `m * 2 ^ e` with the sign `n`. The significand has 53 bits at most, and
fewer only at the smallest exponent. -/
inductive Binary64 where
  | finite (negative : Bool) (significand : Nat) (exponent : Int)
  | infinite (negative : Bool)
  | nan
deriving DecidableEq, Repr

namespace Binary64

def leastExponent : Int := -1074

def greatestExponent : Int := 971

def ofZero (negative : Bool) : Binary64 := .finite negative 0 leastExponent

def scaled (n d : Nat) (e : Int) : Nat × Nat :=
  (n * twoTo (-e).toNat, d * twoTo e.toNat)

/-- The exponent at which the ratio has 53 bits before the point, or the least one. -/
def exponentFor (n d : Nat) : Int :=
  let guess : Int := (n.log2 : Int) - d.log2 - 52
  let (a, b) := scaled n d guess
  let e := if a < twoTo 52 * b then guess - 1 else guess
  max e leastExponent

/-- The nearest number to `n / d`, for a positive `d`. -/
def ofRatio (negative : Bool) (n d : Nat) : Binary64 :=
  if n = 0 then ofZero negative
  else
    let e := exponentFor n d
    let (a, b) := scaled n d e
    let m := Rounding.halfEven.quotient a b
    let (m, e) := if m = twoTo 53 then (twoTo 52, e + 1) else (m, e)
    if greatestExponent < e then .infinite negative else .finite negative m e

/-- The nearest number to `c * 10 ^ e`. Far out of range nothing has to be computed. -/
def ofScientific (negative : Bool) (c : Nat) (e : Int) : Binary64 :=
  let top := Text.digitCount c + e
  if c = 0 then ofZero negative
  else if 400 < top then .infinite negative
  else if top < -400 then ofZero negative
  else ofRatio negative (c * tenTo e.toNat) (tenTo (-e).toNat)

def ofDecimal : Decimal → Binary64
  | .finite n c e => ofScientific n c e
  | .infinite n => .infinite n
  | .nan .. => .nan

def isZero : Binary64 → Bool
  | .finite _ m _ => m = 0
  | _ => false

def isNaN : Binary64 → Bool
  | .nan => true
  | _ => false

def isPositive : Binary64 → Bool
  | .finite n m _ => !n && m ≠ 0
  | .infinite n => !n
  | .nan => false

def isNonnegative : Binary64 → Bool
  | .finite n m _ => !n || m = 0
  | .infinite n => !n
  | .nan => false

def toDecimal : Binary64 → Decimal
  | .infinite n => .infinite n
  | .nan => .nan false false 0
  | .finite n m e =>
    if m = 0 then .finite n 0 0
    else if 0 ≤ e then .finite n (m * twoTo e.toNat) 0
    else
      -- twos common to the significand and the denominator are taken out first
      let k := (-e).toNat
      let rec halve : Nat → Nat → Nat × Nat
        | m, 0 => (m, 0)
        | m, k + 1 => if m % 2 = 0 then halve (m / 2) k else (m, k + 1)
      let (m, k) := halve m k
      .finite n (m * Nat.pow 5 k) (-(k : Int))

def floorMagnitude (m : Nat) (e : Int) : Nat :=
  if 0 ≤ e then m * twoTo e.toNat else m / twoTo (-e).toNat

end Binary64

end Faucet
