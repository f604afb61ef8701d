import Faucet.Text.Basic

/-!
Punycode: a label of any script in ASCII. The ASCII code points come first; behind the last hyphen the
others follow in the order of their values, each as the distance from the one before it, in a number
of variable length whose digits have 36 values.
-/

set_option autoImplicit false

namespace Faucet.Punycode

def digit (d : Nat) : CodePoint := CodePoint.ofNat (if d < 26 then 97 + d else 22 + d)

def digitValue? (c : CodePoint) : Option Nat :=
  if c.isLowerLetter then some (c.val - 97)
  else if c.isUpperLetter then some (c.val - 65)
  else if c.isDigit then some (c.val - 22)
  else none

def threshold (place bias : Nat) : Nat :=
  if place ≤ bias then 1 else if bias + 26 ≤ place then 26 else place - bias

theorem threshold_pos (place bias : Nat) : 1 ≤ threshold place bias := by
  unfold threshold
  split
  · omega
  · split <;> omega

theorem threshold_le (place bias : Nat) : threshold place bias ≤ 26 := by
  unfold threshold
  split
  · omega
  · split <;> omega

/-- How often a distance is divided by 35 until it is small, each time counted as 36, and what is left
of it. -/
def shrink (delta places : Nat) : Nat × Nat :=
  if 455 < delta then shrink (delta / 35) (places + 36) else (delta, places)
termination_by delta
decreasing_by exact Nat.div_lt_self (by omega) (by omega)

def adapt (delta points : Nat) (isFirst : Bool) : Nat :=
  let halved := if isFirst then delta / 700 else delta / 2
  let (rest, places) := shrink (halved + halved / points) 0
  places + 36 * rest / (rest + 38)

def digits (bias place n : Nat) : Text :=
  let t := threshold place bias
  if n < t then [digit n]
  else digit (t + (n - t) % (36 - t)) :: digits bias (place + 36) ((n - t) / (36 - t))
termination_by n
decreasing_by
  have positive := threshold_pos place bias
  have bounded := threshold_le place bias
  calc (n - threshold place bias) / (36 - threshold place bias)
      ≤ n - threshold place bias := Nat.div_le_self _ _
    _ < n := by omega

structure Encoding where
  written : Text := []
  delta : Nat := 0
  bias : Nat := 72
  placed : Nat

/-- Passes one code point of the text while those of the value `n` are put in their places. -/
def Encoding.pass (ascii n : Nat) (s : Encoding) (c : CodePoint) : Encoding :=
  if c.val < n then { s with delta := s.delta + 1 }
  else if c.val = n then
    { written := s.written ++ digits s.bias 36 s.delta
      delta := 0
      bias := adapt s.delta (s.placed + 1) (s.placed = ascii)
      placed := s.placed + 1 }
  else s

/-- Puts the values in their places, in order; `next` is the least value that is still possible. -/
def encodeFrom (t : Text) (ascii : Nat) : List Nat → Nat → Encoding → Encoding
  | [], _, s => s
  | n :: values, next, s =>
    let s := { s with delta := s.delta + (n - next) * (s.placed + 1) }
    let s := t.foldl (Encoding.pass ascii n) s
    encodeFrom t ascii values (n + 1) { s with delta := s.delta + 1 }

def isAscii (c : CodePoint) : Bool := c.val < 128

def values (t : Text) : List Nat :=
  (((t.filter fun c => !isAscii c).map (·.val)).mergeSort fun a b => a ≤ b).eraseDups

def encode (t : Text) : Text :=
  let ascii := t.filter isAscii
  let opening : Text := if ascii.isEmpty then [] else ascii ++ [45]
  opening ++ (encodeFrom t ascii.length (values t) 128 { placed := ascii.length }).written

def number? (bias : Nat) : Nat → Nat → Nat → Text → Option (Nat × Text)
  | _, _, _, [] => none
  | place, weight, n, c :: rest => do
    let d ← digitValue? c
    let t := threshold place bias
    if d < t then some (n + d * weight, rest)
    else number? bias (place + 36) (weight * (36 - t)) (n + d * weight) rest

/-- Puts code points in their places, each as far from the one before it as its number says: `value`
is that one's value and `at` the place behind it. -/
def decodeFrom (fuel bias value place : Nat) (isFirst : Bool) (done rest : Text) : Option Text :=
  match fuel, rest with
  | _, [] => some done
  | 0, _ => none
  | fuel + 1, rest => do
    let (delta, rest) ← number? bias 36 1 0 rest
    let points := done.length + 1
    let value := value + (place + delta) / points
    let place := (place + delta) % points
    if h : value < 0x110000 then
      decodeFrom fuel (adapt delta points isFirst) value (place + 1) false
        (done.take place ++ [⟨value, h⟩] ++ done.drop place) rest
    else none

/-- The text of a label in ASCII. Each number in it takes up one code point at least. -/
def decode? (t : Text) : Option Text :=
  let back := t.reverse
  let tail := (back.takeWhile (· ≠ 45)).reverse
  let ascii := (back.drop (tail.length + 1)).reverse
  decodeFrom tail.length 72 128 0 true ascii tail

end Faucet.Punycode
