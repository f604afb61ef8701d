import Faucet.Text.Basic

/-!
The life of a payout: it waits, is claimed, and ends broadcast or failed.
-/

set_option autoImplicit false

namespace Faucet

inductive Status where
  | pending
  | processing
  | broadcast
  | failed
deriving DecidableEq, Repr

namespace Status

def all : List Status := [.pending, .processing, .broadcast, .failed]

def text : Status → Text
  | .pending => "pending"
  | .processing => "processing"
  | .broadcast => "broadcast"
  | .failed => "failed"

def ofText? (t : Text) : Option Status := all.find? fun s => s.text = t

def isTerminal : Status → Bool
  | .broadcast | .failed => true
  | _ => false

/-- The only changes that a payout goes through. -/
def next : Status → List Status
  | .pending => [.processing]
  | .processing => [.broadcast, .failed]
  | _ => []

end Status

end Faucet
