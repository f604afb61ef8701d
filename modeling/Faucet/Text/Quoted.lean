import Faucet.Text.Printable

/-!
Texts between quotes, as they appear inside messages. Single quotes are used unless the text has a
single quote and no double one.
-/

set_option autoImplicit false

namespace Faucet.Text

def hexDigit (n : Nat) : CodePoint := CodePoint.ofNat (if n < 10 then 48 + n else 87 + n)

def hex : Nat → Nat → Text
  | 0, _ => []
  | width + 1, n => hex width (n / 16) ++ [hexDigit (n % 16)]

/-- A code point by its number, in as few digits as hold it. -/
def numericEscape (c : CodePoint) : Text :=
  if c.val < 0x100 then "\\x" ++ hex 2 c.val
  else if c.val < 0x10000 then "\\u" ++ hex 4 c.val
  else "\\U" ++ hex 8 c.val

def escape (quote c : CodePoint) : Text :=
  if c = quote ∨ c = 92 then [92, c]
  else if c = 10 then "\\n"
  else if c = 13 then "\\r"
  else if c = 9 then "\\t"
  else if c.isPrintable then [c]
  else numericEscape c

def quoteFor (t : Text) : CodePoint := if 39 ∈ t ∧ 34 ∉ t then 34 else 39

def quoted (t : Text) : Text :=
  let quote := quoteFor t
  quote :: t.flatMap (escape quote) ++ [quote]

end Faucet.Text
