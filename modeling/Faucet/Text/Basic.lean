/-!
Text as a list of code points. Surrogates may stand alone in it, because a wallet node can send
one in an escape; whether a text has a UTF-8 form is a question that the database asks later.
-/

set_option autoImplicit false

namespace Faucet

/-- A Unicode code point, surrogates included. -/
abbrev CodePoint := Fin 0x110000

instance CodePoint.neZero : @NeZero Nat Zero.ofOfNat0 0x110000 := ⟨by decide⟩

abbrev Text := List CodePoint

instance Text.lawfulBEq : LawfulBEq Text := inferInstance

namespace CodePoint

def ofChar (c : Char) : CodePoint :=
  ⟨c.toNat, by
    have valid := c.valid
    simp only [UInt32.isValidChar, Nat.isValidChar] at valid
    have same : c.toNat = c.val.toNat := rfl
    omega⟩

/-- The code point of a number; one past the last is read as the replacement character. -/
def ofNat (n : Nat) : CodePoint := if h : n < 0x110000 then ⟨n, h⟩ else 0xFFFD

def isSurrogate (c : CodePoint) : Bool := 0xD800 ≤ c.val && c.val ≤ 0xDFFF

def isDigit (c : CodePoint) : Bool := 48 ≤ c.val && c.val ≤ 57

def isLowerLetter (c : CodePoint) : Bool := 97 ≤ c.val && c.val ≤ 122

def isUpperLetter (c : CodePoint) : Bool := 65 ≤ c.val && c.val ≤ 90

def lower (c : CodePoint) : CodePoint := if c.isUpperLetter then ofNat (c.val + 32) else c

def hexValue? (c : CodePoint) : Option Nat :=
  if c.isDigit then some (c.val - 48)
  else if 97 ≤ c.val && c.val ≤ 102 then some (c.val - 87)
  else if 65 ≤ c.val && c.val ≤ 70 then some (c.val - 55)
  else none

end CodePoint

namespace Text

def ofString (s : String) : Text := s.toList.map CodePoint.ofChar

instance : Coe String Text := ⟨ofString⟩

def ofNat (n : Nat) : Text := (Nat.toDigits 10 n).map CodePoint.ofChar

def ofInt : Int → Text
  | .ofNat n => ofNat n
  | .negSucc n => "-" ++ ofNat (n + 1)

def digitCount (n : Nat) : Nat := (Nat.toDigits 10 n).length

def padded (width n : Nat) : Text :=
  let digits := ofNat n
  List.replicate (width - digits.length) 48 ++ digits

def lower (t : Text) : Text := t.map CodePoint.lower

def startsWith : Text → Text → Bool
  | [], _ => true
  | _ :: _, [] => false
  | c :: cs, d :: ds => c = d && startsWith cs ds

def after? : Text → Text → Option Text
  | [], t => some t
  | _ :: _, [] => none
  | c :: cs, d :: ds => if c = d then after? cs ds else none

def cutBefore (mark : Text) : Text → Text
  | [] => []
  | c :: cs => if mark.startsWith (c :: cs) then [] else c :: cutBefore mark cs

def join (separator : Text) : List Text → Text
  | [] => []
  | [t] => t
  | t :: ts => t ++ separator ++ join separator ts

/-- The pieces between code points of a kind; there is always one more piece than such points. -/
def splitWhere (separates : CodePoint → Bool) : Text → List Text
  | [] => [[]]
  | c :: cs =>
    if separates c then [] :: splitWhere separates cs
    else match splitWhere separates cs with
      | [] => [[c]]
      | piece :: pieces => (c :: piece) :: pieces

def splitOn (separator : CodePoint) (t : Text) : List Text := t.splitWhere (· = separator)

def breakAt (stop : CodePoint → Bool) (t : Text) : Text × Text :=
  (t.takeWhile fun c => !stop c, t.dropWhile fun c => !stop c)

def trimLeft (drop : CodePoint → Bool) (t : Text) : Text := t.dropWhile drop

def trimRight (drop : CodePoint → Bool) (t : Text) : Text := (t.reverse.dropWhile drop).reverse

def trim (drop : CodePoint → Bool) (t : Text) : Text := trimRight drop (trimLeft drop t)

def le : Text → Text → Bool
  | [], _ => true
  | _ :: _, [] => false
  | c :: cs, d :: ds => if c = d then le cs ds else c.val < d.val

def natOfDigits (digits : List Nat) : Nat := digits.foldl (fun n d => 10 * n + d) 0

end Text

end Faucet
