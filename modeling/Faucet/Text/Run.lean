import Faucet.Text.Basic

/-!
Tables of code points: runs in ascending order, searched by bisection.
-/

set_option autoImplicit false

namespace Faucet.CodePoint

abbrev Runs := Array (Nat × Nat)

/-- Bisection: `lo` is a run that starts at or before the code point. -/
def inRun (runs : Runs) (n : Nat) : Nat → Nat → Nat → Bool
  | 0, _, _ => false
  | fuel + 1, lo, hi =>
    if hi ≤ lo + 1 then
      match runs[lo]? with
      | some (first, last) => first ≤ n && n ≤ last
      | none => false
    else
      let mid := (lo + hi) / 2
      match runs[mid]? with
      | some (first, _) => if first ≤ n then inRun runs n fuel mid hi else inRun runs n fuel lo mid
      | none => false

def isIn (c : CodePoint) (runs : Runs) : Bool :=
  inRun runs c.val (runs.size + 1) 0 runs.size

end Faucet.CodePoint
