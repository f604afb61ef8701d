import Faucet.Failure
import Faucet.Text.Blank

/-!
Destination addresses: native segregated witness addresses of the signet chain, told from others by
their form alone.
-/

set_option autoImplicit false

namespace Faucet.Address

def isBody (c : CodePoint) : Bool := c.isLowerLetter || c.isDigit

def isSignet (t : Text) : Bool :=
  match Text.after? "tb1" t with
  | none => false
  | some body => 39 ≤ body.length && body.length ≤ 87 && body.all isBody

/-- A pattern ends where a text does, or before the line feed that ends it. -/
def isLineOf (pattern : Text → Bool) (t : Text) : Bool :=
  pattern t || (t.getLast? = some 10 && pattern t.dropLast)

theorem isLineOf_strip (pattern : Text → Bool) (t : Text) :
    isLineOf pattern t.strip = pattern t.strip := by
  have same : (t.strip.getLast? = some 10) = False := by
    rw [eq_iff_iff, iff_false]
    intro fed
    cases Text.isBlank_of_getLast?_strip fed
  unfold isLineOf
  simp only [same, decide_false, Bool.false_and, Bool.or_false]

def mainnetOpenings : List Text := ["bc1", "1", "3"]

/-- The address without blanks around it, if it has the form of one. -/
def validate (t : Text) : Except AddressFault Text :=
  let t := t.strip
  if t.isEmpty then .error .empty
  else if mainnetOpenings.any fun opening => opening.startsWith t then .error .mainnet
  else if isLineOf isSignet t then .ok t
  else .error .malformed

end Faucet.Address
