import Faucet.Text.Quoted

/-!
Octets and text: UTF-8 in both directions, reading being lenient, and the printable forms of octets.

A lenient reading replaces each maximal ill-formed part by U+FFFD.
-/

set_option autoImplicit false

namespace Faucet

abbrev Octets := List UInt8

namespace CodePoint

def utf8 (c : CodePoint) : Octets :=
  let n := c.val
  if n < 0x80 then [n.toUInt8]
  else if n < 0x800 then [(0xC0 + n / 64).toUInt8, (0x80 + n % 64).toUInt8]
  else if n < 0x10000 then
    [(0xE0 + n / 4096).toUInt8, (0x80 + n / 64 % 64).toUInt8, (0x80 + n % 64).toUInt8]
  else
    [(0xF0 + n / 262144).toUInt8, (0x80 + n / 4096 % 64).toUInt8, (0x80 + n / 64 % 64).toUInt8,
      (0x80 + n % 64).toUInt8]

end CodePoint

namespace Text

/-- Whether a text has a UTF-8 form: none of its code points is a surrogate. -/
def isEncodable (t : Text) : Bool := t.all fun c => !c.isSurrogate

def utf8? (t : Text) : Option Octets :=
  if t.isEncodable then some (t.flatMap CodePoint.utf8) else none

/-- A first octet of UTF-8: how many octets follow, the bits it holds, and the range that the second
octet must lie in. -/
structure Lead where
  following : Nat
  bits : Nat
  low : Nat
  high : Nat

def lead? (surrogates : Bool) (b : UInt8) : Option Lead :=
  let n := b.toNat
  if n < 0x80 then some ⟨0, n, 0, 0⟩
  else if n < 0xC2 then none
  else if n < 0xE0 then some ⟨1, n - 0xC0, 0x80, 0xBF⟩
  else if n = 0xE0 then some ⟨2, 0, 0xA0, 0xBF⟩
  else if n = 0xED then some ⟨2, 13, 0x80, if surrogates then 0xBF else 0x9F⟩
  else if n < 0xF0 then some ⟨2, n - 0xE0, 0x80, 0xBF⟩
  else if n = 0xF0 then some ⟨3, 0, 0x90, 0xBF⟩
  else if n < 0xF4 then some ⟨3, n - 0xF0, 0x80, 0xBF⟩
  else if n = 0xF4 then some ⟨3, 4, 0x80, 0x8F⟩
  else none

/-- Reads the octets that follow a first one. The answer is the code point, or nothing if they are
ill-formed, together with how many octets belong to it. -/
def tail : Nat → Nat → Nat → Nat → Nat → Octets → Option Nat × Nat
  | 0, bits, _, _, used, _ => (some bits, used)
  | _ + 1, _, _, _, used, [] => (none, used)
  | k + 1, bits, low, high, used, b :: bs =>
    if low ≤ b.toNat ∧ b.toNat ≤ high then
      tail k (64 * bits + (b.toNat - 0x80)) 0x80 0xBF (used + 1) bs
    else (none, used)

/-- The first code point of some octets, and how many of them it takes. An ill-formed part takes at
least one. -/
def step (surrogates : Bool) : Octets → Option Nat × Nat
  | [] => (none, 0)
  | b :: bs => match lead? surrogates b with
    | none => (none, 1)
    | some l => tail l.following l.bits l.low l.high 1 bs

def ofUtf8LenientFuel : Nat → Octets → Text
  | _, [] => []
  | 0, _ => []
  | fuel + 1, bs =>
    let (n, used) := step false bs
    CodePoint.ofNat (n.getD 0xFFFD) :: ofUtf8LenientFuel fuel (bs.drop used)

def ofUtf8Lenient (bs : Octets) : Text := ofUtf8LenientFuel bs.length bs

def isHighSurrogate (n : Nat) : Bool := 0xD800 ≤ n && n ≤ 0xDBFF

def isLowSurrogate (n : Nat) : Bool := 0xDC00 ≤ n && n ≤ 0xDFFF

def joinPair (high low : Nat) : Nat := 0x10000 + 1024 * (high - 0xD800) + (low - 0xDC00)

/-- Octets between single quotes behind a mark, or between double ones if only those do not occur. -/
def ofOctetsQuoted (bs : Octets) : Text :=
  let quote : CodePoint := if 39 ∈ bs ∧ 34 ∉ bs then 34 else 39
  let shown (b : UInt8) : Text :=
    if b.toNat < 0x7F then escape quote (CodePoint.ofNat b.toNat) else "\\x" ++ hex 2 b.toNat
  98 :: quote :: bs.flatMap shown ++ [quote]

def ofOctetsHex (bs : Octets) : Text := bs.flatMap fun b => hex 2 b.toNat

def percent (b : UInt8) : Text :=
  37 :: (hex 2 b.toNat).map fun c => if c.isLowerLetter then CodePoint.ofNat (c.val - 32) else c

def escapeUnless (isSafe : CodePoint → Bool) (t : Text) : Text :=
  t.flatMap fun c => if isSafe c then [c] else c.utf8.flatMap percent

def base64Digit (n : Nat) : CodePoint :=
  CodePoint.ofNat <|
    if n < 26 then 65 + n else if n < 52 then 71 + n else if n < 62 then n - 4
    else if n = 62 then 43 else 47

def ofOctetsBase64 : Octets → Text
  | [] => []
  | [a] =>
    let n := a.toNat * 16
    [base64Digit (n / 64), base64Digit (n % 64), 61, 61]
  | [a, b] =>
    let n := (a.toNat * 256 + b.toNat) * 4
    [base64Digit (n / 4096), base64Digit (n / 64 % 64), base64Digit (n % 64), 61]
  | a :: b :: c :: r =>
    let n := (a.toNat * 256 + b.toNat) * 256 + c.toNat
    base64Digit (n / 262144) :: base64Digit (n / 4096 % 64) :: base64Digit (n / 64 % 64)
      :: base64Digit (n % 64) :: ofOctetsBase64 r

end Text

end Faucet
