/-!
Values by key, in the order in which the keys first appeared.
-/

set_option autoImplicit false

namespace Faucet

abbrev Entries (κ α : Type) := List (κ × α)

namespace Entries

variable {κ α : Type} [DecidableEq κ]

def get? (es : Entries κ α) (key : κ) : Option α := (es.find? fun e => e.1 = key).map (·.2)

/-- Sets a value. A key that is there already keeps its place. -/
def put : Entries κ α → κ → α → Entries κ α
  | [], key, value => [(key, value)]
  | e :: es, key, value => if e.1 = key then (key, value) :: es else e :: put es key value

def merge (old new : Entries κ α) : Entries κ α := new.foldl (fun es e => put es e.1 e.2) old

end Entries

end Faucet
