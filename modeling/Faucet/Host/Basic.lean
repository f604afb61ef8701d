import Faucet.Failure
import Faucet.Host.Label
import Faucet.Text.Lower

/-!
Hosts in their normal form: an address of four numbers, an address of eight in brackets, or a name.
Names are in small letters, and those that are not in ASCII have their labels put into it.
-/

set_option autoImplicit false

namespace Faucet.Host

/-- Whether a text is four rows of digits with one code point of any kind between two rows. The code
point between may be a digit, so a row of three digits can be read as two rows. -/
def isNumeric (t : Text) : Bool :=
  let rows := t.splitWhere fun c => !c.isDigit
  rows.all (!·.isEmpty) && rows.length ≤ 4
    && 4 ≤ rows.foldl (fun n row => n + (row.length + 1) / 2) 0

def isOctet (t : Text) : Bool :=
  !t.isEmpty && t.length ≤ 3 && t.all CodePoint.isDigit && (t.length = 1 || t.head? ≠ some 48)
    && Text.natOfDigits (t.map fun c => c.val - 48) ≤ 255

def isShortAddress (t : Text) : Bool :=
  let parts := t.splitOn 46
  parts.length = 4 && parts.all isOctet

def isGroup (t : Text) : Bool :=
  !t.isEmpty && t.length ≤ 4 && t.all fun c => c.hexValue?.isSome

/-- Groups with an address of four numbers in the last place counted as two groups. -/
def unfolded? (groups : List Text) : Option (List Text) :=
  match groups.getLast? with
  | some last =>
    if last.contains 46 then
      if isShortAddress last then some (groups.dropLast ++ [[48], [48]]) else none
    else some groups
  | none => none

/-- Groups on one side of a gap. An empty one may stand at the outer end if it stands alone. -/
def sideHolds (side : List Text) : Bool := side = [[]] || side.all isGroup

/-- Whether groups are eight, or fewer with one gap between them that stands for the others. -/
def groupsHold (groups : List Text) : Bool :=
  let inner := (groups.drop 1).dropLast
  let gaps := inner.filter (·.isEmpty)
  if gaps.isEmpty then groups.length = 8 && groups.all isGroup
  else
    let before := groups.take (1 + (inner.takeWhile (!·.isEmpty)).length)
    let after := groups.drop (before.length + 1)
    let filled := (groups.filter (!·.isEmpty)).length
    gaps.length = 1 && sideHolds before && sideHolds after && filled ≤ 7

def isLongAddress (t : Text) : Bool :=
  let (address, zone) := t.breakAt (· = 37)
  let zoneHolds := match zone with
    | [] => true
    | _ :: name => !name.isEmpty && !name.contains 37
  let groups := address.splitOn 58
  zoneHolds && 3 ≤ groups.length && (unfolded? groups).any fun gs => gs.length ≤ 9 && groupsHold gs

def isDot (c : CodePoint) : Bool :=
  c.val = 0x2E || c.val = 0x3002 || c.val = 0xFF0E || c.val = 0xFF61

def maxLength : Nat := 253

def nameToAscii? (t : Text) : Option Text := do
  let parts := t.splitWhere isDot
  let isRooted := 1 < parts.length && parts.getLast? = some []
  let labels ← (if isRooted then parts.dropLast else parts).mapM Label.toAscii?
  let name := Text.join "." labels ++ (if isRooted then "." else [] : Text)
  if name.length ≤ (if isRooted then maxLength + 1 else maxLength) then some name else none

def safeSigns : Text := "-._~!$&'()*+,;=\"`\x7b\x7d%|\\"

def isSafe (c : CodePoint) : Bool :=
  c.isLowerLetter || c.isUpperLetter || c.isDigit || safeSigns.contains c

def normal (t : Text) : Except UrlFault Text :=
  if isNumeric t then (if isShortAddress t then .ok t else .error (.shortAddress t))
  else if t.head? = some 91 ∧ 1 < t.length ∧ t.getLast? = some 93 then
    let address := (t.drop 1).dropLast
    if isLongAddress address then .ok address else .error (.longAddress t)
  else if t.all Punycode.isAscii then .ok (t.lower.escapeUnless isSafe)
  else match nameToAscii? t.lowered with
    | some name => .ok name
    | none => .error (.name t)

end Faucet.Host
