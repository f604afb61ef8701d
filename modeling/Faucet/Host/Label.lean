import Faucet.Host.Letter
import Faucet.Host.Punycode
import Faucet.Host.Script
import Faucet.Text.Composed

/-!
The labels of a host, which stand between its dots. A label of any script has a form in ASCII if it
holds nothing but letters that labels may hold, or signs in the company that they need, and keeps the
order that its direction of writing asks for.
-/

set_option autoImplicit false

namespace Faucet.Label

def hyphensHold (t : Text) : Bool :=
  t.head? ≠ some 45 && t.getLast? ≠ some 45 && (t.drop 2).take 2 ≠ [45, 45]

/-- A text before and after a place; what is before has the nearest first. -/
structure Company where
  before : Text
  after : Text

def joinsAcross (x : Company) : Bool :=
  let beside (t : Text) : Option CodePoint := (t.dropWhile CodePoint.isNonspacing).head?
  ((beside x.before).any CodePoint.joinsAfter) && ((beside x.after).any CodePoint.joinsBefore)

def followsVirama (x : Company) : Bool :=
  x.before.head?.any fun c => c.markClass = CodePoint.viramaClass

def signHolds (n : Nat) (x : Company) : Bool :=
  let all := x.before ++ x.after
  if n = 0x200C then followsVirama x || joinsAcross x
  else if n = 0x200D then followsVirama x
  else if n = 0xB7 then x.before.head? = some 108 && x.after.head? = some 108
  else if n = 0x375 then x.after.head?.any CodePoint.isGreek
  else if n = 0x5F3 || n = 0x5F4 then x.before.head?.any CodePoint.isHebrew
  else if n = 0x30FB then all.any CodePoint.isJapanese
  else if 0x660 ≤ n && n ≤ 0x669 then all.all fun c => !(0x6F0 ≤ c.val && c.val ≤ 0x6F9)
  else if 0x6F0 ≤ n && n ≤ 0x6F9 then all.all fun c => !(0x660 ≤ c.val && c.val ≤ 0x669)
  else false

def lettersHold : Text → Text → Bool
  | _, [] => true
  | before, c :: after =>
    (c.isLabelLetter || signHolds c.val ⟨before, after⟩) && lettersHold (c :: before) after

/-- A label with a code point that is written leftward, or a number as Arabic writes it, keeps to an
order: leftward and rightward parts are not mixed, nor are the two kinds of numbers among leftward
parts, and it ends with a letter or a number. -/
def directionsHold (t : Text) : Bool :=
  let directions := t.map CodePoint.direction
  let ending := directions.reverse.dropWhile (· = .mark)
  if directions.any fun d => d = .leftward || d = .arabicNumber then
    match directions.head? with
    | some .leftward =>
      directions.all (· ≠ .rightward)
        && !(directions.any (· = .number) && directions.any (· = .arabicNumber))
        && ending.head?.any fun d => d ≠ .neutral
    | _ => false
  else true

def holds (t : Text) : Bool :=
  !t.isEmpty && t.length ≤ 254 && Text.isComposed t && hyphensHold t
    && !t.head?.any CodePoint.isMark && lettersHold [] t && directionsHold t

def asciiMark : Text := "xn--"

/-- A label that is in ASCII already. Behind the mark of an encoded label its letters have to hold. -/
def asciiHolds (t : Text) : Bool :=
  match Text.after? asciiMark t.lower with
  | none => holds t.lower
  | some rest =>
    !rest.isEmpty && rest.getLast? ≠ some 45 && (Punycode.decode? rest).any holds

def maxLength : Nat := 63

def toAscii? (t : Text) : Option Text :=
  let isAscii := t.all Punycode.isAscii
  let ascii := if isAscii then t else asciiMark ++ Punycode.encode t
  if (if isAscii then asciiHolds t else holds t) && ascii.length ≤ maxLength then some ascii
  else none

end Faucet.Label
