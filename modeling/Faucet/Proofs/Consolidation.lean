import Faucet.Proofs.Candidates
import Faucet.Proofs.Reaction

/-!
A merge from end to end. Told of the outputs of the wallet, it leaves them alone if there are too few
candidates or if they do not cover the fee; otherwise it spends each candidate once, largest first,
and pays all that the fee leaves of them to a new address.
-/

set_option autoImplicit false

namespace Faucet

def Exchange.call? : Exchange → Option WalletCall
  | ⟨_, .wallet c, _⟩ => some c
  | _ => none

namespace Scene

def calls (s : Scene) : List WalletCall := (s.log.filterMap Exchange.call?).reverse

theorem calls_asked_notify (s : Scene) (ρ : Reaction) (e : Event) :
    (s.asked ρ (.notify e)).calls = s.calls := rfl

end Scene

theorem eq_of_checked {α : Type} {record : Text} {faults : List FieldFault} {a b : α}
    (passed : checked record faults a = .ok b) : b = a := by
  unfold checked at passed
  split at passed
  · cases passed
    rfl
  · cases passed

namespace MergeReport

theorem eq_of_make {r r' : MergeReport} (made : make r = .ok r') : r' = r := eq_of_checked made

end MergeReport

namespace Job

variable {β : Type} {env : Nat → Reaction} {s : Scene}

theorem play_wallet_ok {c : WalletCall} {a : c.Answer} (got : (env s.log.length).wallet c = .ok a)
    (f : c.Answer → Job β) :
    ((wallet c).bind f).play env s = (f a).play env (s.asked (env s.log.length) (.wallet c)) := by
  change ((ofExcept ((env s.log.length).wallet c)).bind f).play env _ = _
  rw [got]
  rfl

end Job

namespace Merge

open Decimal

variable {m : Merge} {us cs : List Unspent} {env : Nat → Reaction} {s : Scene}

theorem finish_play (env : Nat → Reaction) (s : Scene) (r : MergeReport) :
    ((finish r).play env s).1 = r.make ∧ ((finish r).play env s).2.calls = s.calls := by
  change (((Job.ofExcept r.make).bind _).play env s).1 = _ ∧
    (((Job.ofExcept r.make).bind _).play env s).2.calls = _
  cases r.make with
  | error e => exact ⟨rfl, rfl⟩
  | ok r => exact ⟨rfl, s.calls_asked_notify _ _⟩

def listing : WalletCall := .unspent 0 9999999

def fresh : WalletCall := .freshAddress "consolidated" "bech32"

abbrev payment (outputs : Outputs) (inputs : List Json) : WalletCall :=
  .broadcast outputs none (some inputs)

/-- The decimal results of a merge with these candidates need no rounding. -/
structure Fits (m : Merge) (cs : List Unspent) : Prop where
  sums : ∀ l, l <+: cs → Short (total l)
  charges : m.least ≤ cs.length → m.Charges cs

/-- What the node is asked to spend and to pay. -/
structure Pays (m : Merge) (cs : List Unspent) (address : Text) (outputs : Outputs)
    (inputs : List Json) : Prop where
  spends : ∃ us : List Unspent, us.Perm cs ∧
    us.Pairwise (fun a b => b.amount.toRat ≤ a.amount.toRat) ∧ inputs = us.map Unspent.outpoint
  once : inputs.Nodup
  pays : ∃ text, Writes ⌊m.rest cs * 10 ^ 8⌋₊ text ∧
    (m.memo = [] ∧ outputs = [(address, text)] ∨
      ∃ octets, m.memo ≠ [] ∧ m.memo.utf8? = some octets ∧
        outputs = [(address, text), (Outputs.memoKey, Text.ofOctetsHex octets)])

/-- A merge ends as its payment does. -/
def Reports (payment : Except Failure Text) (ending : Except Failure MergeReport) : Prop :=
  match payment with
  | .error e => ending = .error e
  | .ok txid => txid ≠ [] → ∃ r, ending = .ok r ∧ r.outcome = .merged ∧ r.txid = some txid

/-- How a merge that spends its candidates goes on from their listing. -/
def Proceeds (m : Merge) (cs : List Unspent) (env : Nat → Reaction)
    (out : Except Failure MergeReport × Scene) : Prop :=
  match (env 1).wallet fresh with
  | .error e => out.1 = .error e ∧ out.2.calls = [listing, fresh]
  | .ok address => ∃ outputs inputs, m.Pays cs address outputs inputs ∧
    out.2.calls = [listing, fresh, payment outputs inputs] ∧
      Reports ((env 2).wallet (payment outputs inputs)) out.1

def pay (m : Merge) (e : Estimate) (address : Text) (outputs : Outputs) (inputs : List Json) :
    Job MergeReport :=
  (Job.wallet (payment outputs inputs)).bind fun txid =>
    (Job.log .info (m.mergedText e address txid)).bind fun _ => finish (mergedReport e address txid)

def holding (txid : Text) (amount : Decimal) : Unspent where
  txid := .text txid
  vout := .int 0
  address := .text ""
  amount := amount
  confirmations := .int 1
  spendable := .bool true
  solvable := .bool true
  safe := .bool true

def answering (us : List Unspent) (_ : Nat) : Reaction where
  clock := 0
  wallet
    | .unspent .. => .ok us
    | .freshAddress .. => .ok "tb1qfresh"
    | .broadcast .. => .ok "ab"
    | _ => .error (.faucet [])
  reply := .error (.faucet [])
  number := 0
  purse := .zero

def piece (txid : Text) (c : Nat) : Unspent := holding txid (.finite false c (-5))

def small : List Unspent := [piece "aa" 40, piece "bb" 50]

def purse : List Unspent := small ++ [piece "cc" 20000]

def vast : Merge := { threshold := .finite false 9 999999, least := 3 }

end Merge

end Faucet
