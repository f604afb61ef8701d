import Faucet.Ledger.Store

/-!
The limit on requests of one source within a trailing span of time. What counts are the rows of the
ledger, so that the limit outlives a restart.
-/

set_option autoImplicit false

namespace Faucet

structure Quota where
  most : Int
  exempt : List Text := []
  window : Span := Span.hours 24

namespace Quota

def allows (q : Quota) (source : Text) (now : Option Moment) : Job Bool := do
  if source ∈ q.exempt then return true
  let now ← match now with
    | some m => pure m
    | none => Job.now
  let since ← Job.ofExcept (Moment.before now q.window)
  let count ← Store.countFrom (some source) since
  if q.most ≤ count then
    Job.log .info ("Rate limit hit for " ++ source ++ ": " ++ Text.ofNat count
      ++ " requests in the last " ++ q.window.text)
    return false
  return true

end Quota

end Faucet
