import Faucet.Text.Basic

/-!
Blank code points. `isBlank` is the wide class that a form field is stripped of, `isSpace` the
Unicode property alone, without the four information separators.
-/

set_option autoImplicit false

namespace Faucet

namespace CodePoint

/-- The Unicode property White_Space. -/
def isSpace (c : CodePoint) : Bool :=
  let n := c.val
  (9 ≤ n && n ≤ 13) || n = 32 || n = 0x85 || n = 0xA0 || n = 0x1680
    || (0x2000 ≤ n && n ≤ 0x200A) || n = 0x2028 || n = 0x2029 || n = 0x202F
    || n = 0x205F || n = 0x3000

/-- White space together with the information separators U+001C to U+001F. -/
def isBlank (c : CodePoint) : Bool := c.isSpace || (0x1C ≤ c.val && c.val ≤ 0x1F)

end CodePoint

namespace Text

def strip (t : Text) : Text := trim CodePoint.isBlank t

theorem isBlank_of_getLast?_strip {t : Text} {c : CodePoint} (h : t.strip.getLast? = some c) :
    c.isBlank = false := by
  unfold strip trim trimRight at h
  rw [List.getLast?_reverse] at h
  have stopped := List.head?_dropWhile_not CodePoint.isBlank
    (trimLeft CodePoint.isBlank t).reverse
  rw [h] at stopped
  exact stopped

end Text

end Faucet
