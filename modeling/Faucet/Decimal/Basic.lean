import Faucet.Power
import Faucet.Text.Basic

/-!
Decimal numbers with a coefficient, an exponent and a sign, and arithmetic that rounds to 28
significant digits, half to even. Results that the working range cannot hold are faults, and a
result below it is rounded to its last place.
-/

set_option autoImplicit false

namespace Faucet

inductive Decimal where
  | finite (negative : Bool) (coefficient : Nat) (exponent : Int)
  | infinite (negative : Bool)
  /-- Not a number. A payload of zero is the same as none. -/
  | nan (negative signalling : Bool) (payload : Nat)
deriving DecidableEq, Repr

inductive ArithmeticFault where
  | invalid
  | malformed
  | overflow
  | divisionByZero
deriving DecidableEq, Repr

inductive Rounding where
  | halfEven
  | down
deriving DecidableEq, Repr

def Rounding.quotient (mode : Rounding) (n d : Nat) : Nat :=
  match mode with
  | .down => n / d
  | .halfEven =>
    let q := n / d
    let r := n % d
    if 2 * r < d then q else if d < 2 * r then q + 1 else if q % 2 = 0 then q else q + 1

namespace Decimal

def zero : Decimal := .finite false 0 0

instance : Inhabited Decimal := ⟨zero⟩

def ofInt (n : Int) : Decimal := .finite (n < 0) n.natAbs 0

def isFinite : Decimal → Bool
  | .finite .. => true
  | _ => false

def isNaN : Decimal → Bool
  | .nan .. => true
  | _ => false

def precision : Nat := 28

def maxExponent : Int := 999999

def tiny : Int := -1000026

def dropDigits (mode : Rounding) (c k : Nat) : Nat :=
  if Text.digitCount c < k then 0 else mode.quotient c (tenTo k)

def fit (negative : Bool) (c : Nat) (e : Int) : Except ArithmeticFault Decimal :=
  if c = 0 then .ok (.finite negative 0 (max tiny (min e maxExponent)))
  else if maxExponent < Text.digitCount c + e - 1 then .error .overflow
  else
    let last := max tiny (Text.digitCount c + e - precision)
    if last ≤ e then .ok (.finite negative c e)
    else
      let rounded := dropDigits .halfEven c (last - e).toNat
      if Text.digitCount rounded ≤ precision then .ok (.finite negative rounded last)
      else if maxExponent < last + precision then .error .overflow
      else .ok (.finite negative (rounded / 10) (last + 1))

/-- A quiet operand passes through an operation, with a payload cut to precision; a signalling one
is a fault. -/
def passNaN (negative signalling : Bool) (payload : Nat) : Except ArithmeticFault Decimal :=
  if signalling then .error .invalid else .ok (.nan negative false (payload % tenTo precision))

def nanOf? : Decimal → Decimal → Option (Except ArithmeticFault Decimal)
  | .nan n true p, _ => some (passNaN n true p)
  | _, .nan n true p => some (passNaN n true p)
  | .nan n s p, _ => some (passNaN n s p)
  | _, .nan n s p => some (passNaN n s p)
  | _, _ => none

/-- Sum of two signed magnitudes. An exact zero is positive unless both parts are negative. -/
def addSigned (n₁ : Bool) (c₁ : Nat) (n₂ : Bool) (c₂ : Nat) : Bool × Nat :=
  if n₁ = n₂ then (n₁, c₁ + c₂)
  else if c₂ < c₁ then (n₁, c₁ - c₂)
  else if c₁ < c₂ then (n₂, c₂ - c₁)
  else (false, 0)

/-- A part so small that it lies below every digit that rounding looks at can be replaced by a
single unit just there, which keeps the shift of the other part short. -/
def raise (c₁ : Nat) (e₁ : Int) (c₂ : Nat) (e₂ : Int) : Nat × Int :=
  let digits := Text.digitCount c₁
  let floor := e₁ - 1 + (if precision < digits then 0 else (digits : Int) - precision - 1)
  if c₁ ≠ 0 ∧ Text.digitCount c₂ + e₂ - 1 < floor then (if c₂ = 0 then 0 else 1, floor) else (c₂, e₂)

def addAligned (n₁ : Bool) (c₁ : Nat) (e₁ : Int) (n₂ : Bool) (c₂ : Nat) (e₂ : Int) :
    Except ArithmeticFault Decimal :=
  let (c₂, e₂) := raise c₁ e₁ c₂ e₂
  let c₁ := if c₁ = 0 then 0 else c₁ * tenTo (e₁ - e₂).toNat
  let (n, c) := addSigned n₁ c₁ n₂ c₂
  fit n c e₂

def add (x y : Decimal) : Except ArithmeticFault Decimal :=
  match nanOf? x y with
  | some r => r
  | none => match x, y with
    | .infinite a, .infinite b => if a = b then .ok (.infinite a) else .error .invalid
    | .infinite a, _ => .ok (.infinite a)
    | _, .infinite b => .ok (.infinite b)
    | .finite n₁ c₁ e₁, .finite n₂ c₂ e₂ =>
      if e₂ ≤ e₁ then addAligned n₁ c₁ e₁ n₂ c₂ e₂ else addAligned n₂ c₂ e₂ n₁ c₁ e₁
    | .nan n s p, _ => passNaN n s p
    | _, .nan n s p => passNaN n s p

def negate : Decimal → Decimal
  | .finite n c e => .finite (!n) c e
  | .infinite n => .infinite (!n)
  | .nan n s p => .nan n s p

def sub (x y : Decimal) : Except ArithmeticFault Decimal := add x (negate y)

def mul (x y : Decimal) : Except ArithmeticFault Decimal :=
  match nanOf? x y with
  | some r => r
  | none => match x, y with
    | .infinite a, .infinite b => .ok (.infinite (a != b))
    | .infinite a, .finite n c _ => if c = 0 then .error .invalid else .ok (.infinite (a != n))
    | .finite n c _, .infinite b => if c = 0 then .error .invalid else .ok (.infinite (n != b))
    | .finite n₁ c₁ e₁, .finite n₂ c₂ e₂ => fit (n₁ != n₂) (c₁ * c₂) (e₁ + e₂)
    | .nan n s p, _ => passNaN n s p
    | _, .nan n s p => passNaN n s p

def stripZeros : Nat → Nat → Int → Int → Nat × Int
  | 0, c, e, _ => (c, e)
  | fuel + 1, c, e, ideal =>
    if e < ideal ∧ c % 10 = 0 then stripZeros fuel (c / 10) (e + 1) ideal else (c, e)

/-- Quotient of two finite numbers, the second not zero. An exact quotient comes as close to the
difference of the exponents as it can; any other is cut with one digit to spare, and that digit is
made sticky so that the last rounding sees on which side of a half it lies. -/
def divFinite (n₁ : Bool) (c₁ : Nat) (e₁ : Int) (n₂ : Bool) (c₂ : Nat) (e₂ : Int) :
    Except ArithmeticFault Decimal :=
  let ideal := e₁ - e₂
  if c₁ = 0 then fit (n₁ != n₂) 0 ideal
  else
    let shift : Int := Text.digitCount c₂ - Text.digitCount c₁ + precision + 1
    let num := c₁ * tenTo shift.toNat
    let den := c₂ * tenTo (-shift).toNat
    let q := num / den
    if num % den = 0 then
      let (c, e) := stripZeros (Text.digitCount q) q (ideal - shift) ideal
      fit (n₁ != n₂) c e
    else fit (n₁ != n₂) (if q % 5 = 0 then q + 1 else q) (ideal - shift)

def div (x y : Decimal) : Except ArithmeticFault Decimal :=
  match nanOf? x y with
  | some r => r
  | none => match x, y with
    | .infinite _, .infinite _ => .error .invalid
    | .infinite a, .finite n _ _ => .ok (.infinite (a != n))
    | .finite n _ _, .infinite b => .ok (.finite (n != b) 0 tiny)
    | .finite n₁ c₁ e₁, .finite n₂ c₂ e₂ =>
      if c₂ = 0 then (if c₁ = 0 then .error .invalid else .error .divisionByZero)
      else divFinite n₁ c₁ e₁ n₂ c₂ e₂
    | .nan n s p, _ => passNaN n s p
    | _, .nan n s p => passNaN n s p

def rescale (mode : Rounding) (c : Nat) (e target : Int) : Nat :=
  if c = 0 then 0
  else if target ≤ e then c * tenTo (e - target).toNat
  else dropDigits mode c (target - e).toNat

/-- The number with a given last place. It is a fault if that takes more digits than precision
allows. -/
def quantize (mode : Rounding) (x : Decimal) (target : Int) : Except ArithmeticFault Decimal :=
  match x with
  | .nan n s p => passNaN n s p
  | .infinite _ => .error .invalid
  | .finite n c e =>
    if c = 0 then .ok (.finite n 0 target)
    else if (precision : Int) < Text.digitCount c + e - target then .error .invalid
    else
      let c' := rescale mode c e target
      if precision < Text.digitCount c' then .error .invalid else .ok (.finite n c' target)

/-- The nearest whole number, a tie going to the even one. No precision limits it. -/
def toIntegral (x : Decimal) : Except ArithmeticFault Decimal :=
  match x with
  | .nan n s p => passNaN n s p
  | .infinite n => .ok (.infinite n)
  | .finite n c e => if 0 ≤ e then .ok (.finite n c e) else .ok (.finite n (rescale .halfEven c e 0) 0)

def compareMagnitude (c₁ : Nat) (e₁ : Int) (c₂ : Nat) (e₂ : Int) : Ordering :=
  if c₁ = 0 then (if c₂ = 0 then .eq else .lt)
  else if c₂ = 0 then .gt
  else
    let top₁ := Text.digitCount c₁ + e₁
    let top₂ := Text.digitCount c₂ + e₂
    if top₁ ≠ top₂ then compare top₁ top₂
    else compare (c₁ * tenTo (e₁ - e₂).toNat) (c₂ * tenTo (e₂ - e₁).toNat)

def compare? : Decimal → Decimal → Option Ordering
  | .nan .., _ => none
  | _, .nan .. => none
  | .infinite a, .infinite b => some (if a = b then .eq else if a then .lt else .gt)
  | .infinite a, _ => some (if a then .lt else .gt)
  | _, .infinite b => some (if b then .gt else .lt)
  | .finite n₁ c₁ e₁, .finite n₂ c₂ e₂ =>
    if c₁ = 0 ∧ c₂ = 0 then some .eq
    else if c₁ = 0 then some (if n₂ then .gt else .lt)
    else if c₂ = 0 then some (if n₁ then .lt else .gt)
    else match n₁, n₂ with
      | false, true => some .gt
      | true, false => some .lt
      | false, false => some (compareMagnitude c₁ e₁ c₂ e₂)
      | true, true => some (compareMagnitude c₂ e₂ c₁ e₁)

def order (x y : Decimal) : Except ArithmeticFault Ordering :=
  match compare? x y with
  | some o => .ok o
  | none => .error .invalid

def lt (x y : Decimal) : Except ArithmeticFault Bool := return (← order x y) == .lt

def le (x y : Decimal) : Except ArithmeticFault Bool := return (← order x y) != .gt

def truncate (negative : Bool) (c : Nat) (e : Int) : Int :=
  let whole : Nat := rescale .down c e 0
  if negative then -(whole : Int) else whole

def sum (xs : List Decimal) : Except ArithmeticFault Decimal := xs.foldlM add zero

end Decimal

end Faucet
