import Faucet.Text.Blank
import Faucet.Text.Digit

/-!
Whole numbers in texts: digits of any script, one underscore at most between two of them, a sign in
front and blanks around.
-/

set_option autoImplicit false

namespace Faucet.Text

def spacedDigits? : Text → Option (List Nat)
  | [] => none
  | [c] => c.digitValue?.map ([·])
  | c :: 95 :: rest => do
    let d ← c.digitValue?
    let ds ← spacedDigits? rest
    return d :: ds
  | c :: rest => do
    let d ← c.digitValue?
    let ds ← spacedDigits? rest
    return d :: ds

/-- Digits that a number may have, zeros in front counted too. -/
def maxDigits : Nat := 4300

def unsignedInt? (t : Text) : Option Nat :=
  ((spacedDigits? t).filter fun ds => ds.length ≤ maxDigits).map natOfDigits

def toInt? (t : Text) : Option Int :=
  match t.strip with
  | 45 :: rest => (unsignedInt? rest).map fun n => -(n : Int)
  | 43 :: rest => (unsignedInt? rest).map fun n => (n : Int)
  | rest => (unsignedInt? rest).map fun n => (n : Int)

end Faucet.Text
