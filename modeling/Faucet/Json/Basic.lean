import Faucet.Entries
import Faucet.Decimal.Written
import Faucet.Binary64.Written
import Faucet.Text.Quoted

/-!
JSON values. A number with a fraction or an exponent is an exact decimal, one without is a whole
number of any size. The constants for infinities and NaN are binary numbers. The fields of an object
keep the order in which their names first appeared.
-/

set_option autoImplicit false

namespace Faucet

inductive Json where
  | null
  | bool (b : Bool)
  | int (n : Int)
  | decimal (d : Decimal)
  | float (x : Binary64)
  | text (t : Text)
  | list (items : List Json)
  | object (fields : List (Text × Json))

namespace Json

instance : Inhabited Json := ⟨null⟩

def lookup (name : Text) (fields : List (Text × Json)) : Option Json := Entries.get? fields name

def field? (name : Text) : Json → Option Json
  | .object fields => lookup name fields
  | _ => none

/-- Whether a value stands for yes: it is neither null, false, zero nor empty. -/
def truthy : Json → Bool
  | .null => false
  | .bool b => b
  | .int n => n ≠ 0
  | .decimal (.finite _ c _) => c ≠ 0
  | .decimal _ => true
  | .float x => !x.isZero
  | .text t => !t.isEmpty
  | .list items => !items.isEmpty
  | .object fields => !fields.isEmpty

def typeName : Json → Text
  | .null => "NoneType"
  | .bool _ => "bool"
  | .int _ => "int"
  | .decimal _ => "Decimal"
  | .float _ => "float"
  | .text _ => "str"
  | .list _ => "list"
  | .object _ => "dict"

mutual

/-- A value inside a message, with texts in quotes. -/
def shown : Json → Text
  | .null => "None"
  | .bool b => if b then "True" else "False"
  | .int n => Text.ofInt n
  | .decimal d => "Decimal('" ++ d.toText ++ "')"
  | .float x => x.toText
  | .text t => t.quoted
  | .list items => "[" ++ Text.join ", " (shownItems items) ++ "]"
  | .object fields => "\x7b" ++ Text.join ", " (shownFields fields) ++ "\x7d"

def shownItems : List Json → List Text
  | [] => []
  | v :: vs => shown v :: shownItems vs

def shownFields : List (Text × Json) → List Text
  | [] => []
  | (n, v) :: rest => (n.quoted ++ ": " ++ shown v) :: shownFields rest

end

def display : Json → Text
  | .text t => t
  | .decimal d => d.toText
  | v => shown v

end Json

end Faucet
