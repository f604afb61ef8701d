import Faucet.Json.Basic

/-!
JSON text without blanks. It is either in ASCII alone, every other code point being an escape and
a surrogate pair beyond U+FFFF, or has all but quotes, backslashes and controls as they are.
-/

set_option autoImplicit false

namespace Faucet.Json

def unicodeEscape (n : Nat) : Text := "\\u" ++ Text.hex 4 n

def shortEscape? (c : CodePoint) : Option Text :=
  if c = 34 then some "\\\""
  else if c = 92 then some "\\\\"
  else if c = 8 then some "\\b"
  else if c = 12 then some "\\f"
  else if c = 10 then some "\\n"
  else if c = 13 then some "\\r"
  else if c = 9 then some "\\t"
  else none

def escape (ascii : Bool) (c : CodePoint) : Text :=
  match shortEscape? c with
  | some t => t
  | none =>
    if c.val < 32 then unicodeEscape c.val
    else if c.val < 127 ∨ !ascii then [c]
    else if c.val < 0x10000 then unicodeEscape c.val
    else
      let n := c.val - 0x10000
      unicodeEscape (0xD800 + n / 1024) ++ unicodeEscape (0xDC00 + n % 1024)

def written (ascii : Bool) (t : Text) : Text := 34 :: t.flatMap (escape ascii) ++ [34]

mutual

def write (ascii : Bool) : Json → Text
  | .null => "null"
  | .bool b => if b then "true" else "false"
  | .int n => Text.ofInt n
  | .decimal d => d.toText
  | .float x => x.toText
  | .text t => written ascii t
  | .list items => "[" ++ Text.join "," (writeItems ascii items) ++ "]"
  | .object fields => "\x7b" ++ Text.join "," (writeFields ascii fields) ++ "\x7d"

def writeItems (ascii : Bool) : List Json → List Text
  | [] => []
  | v :: vs => write ascii v :: writeItems ascii vs

def writeFields (ascii : Bool) : List (Text × Json) → List Text
  | [] => []
  | (n, v) :: rest => (written ascii n ++ ":" ++ write ascii v) :: writeFields ascii rest

end

end Faucet.Json
