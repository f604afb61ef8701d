import Faucet.Plan
import Faucet.Proofs.Course
import Faucet.Proofs.Narration
import Faucet.Proofs.Settling

/-!
What the parts of a long run ask the wallet for. The opening of a run looks for the wallet and reads
its balance; an opening that has come to its end has found the wallet and swept. Only the duties that
follow ask for what payments and merges need, and none of them closes the wallet.
-/

set_option autoImplicit false

namespace Faucet

open Job

namespace WalletCall

def isOpening : WalletCall → Prop
  | .wallets | .load _ | .balances => True
  | _ => False

def isTick : WalletCall → Prop
  | .balances | .unspent .. | .freshAddress .. | .broadcast .. => True
  | _ => False

end WalletCall

namespace Upkeep

theorem ensureWallet_asks (name : Text) :
    (ensureWallet name).Asks (Query.Keeps WalletCall.isOpening) := by
  have listed : loadedWallets.Asks (Query.Keeps WalletCall.isOpening) := by
    refine asks_rescue (asks_wallet trivial) fun e => ?_
    split <;> trivial
  have loaded : (loadWallet name).Asks (Query.Keeps WalletCall.isOpening) := by
    refine asks_rescue (asks_wallet trivial) fun e => ?_
    split <;> trivial
  refine asks_bind listed fun ws => ?_
  dsimp only
  split
  · exact asks_bind (asks_log trivial) fun _ => asks_bind loaded fun _ =>
      asks_bind (asks_log trivial) fun _ => asks_log trivial
  · exact asks_log trivial

theorem reconcile_quiet (grace : Binary64) : (reconcile grace).Asks Query.Quiet := by
  refine asks_bind (asks_ofExcept _) fun span => asks_bind
    ((Store.failStale_asks span none).mono Query.quiet_of_isSweep) fun count => ?_
  dsimp only
  split
  · exact asks_bind (asks_log trivial) fun _ => trivial
  · trivial

/-- The wallet was among those that were loaded, or it was loaded. -/
def Found (name : Text) (log : List Asked) : Prop :=
  (∃ names : List Json, ⟨.wallet .wallets, .ok names⟩ ∈ log ∧ names.any (nameIs name) = true) ∨
    ⟨.wallet (.load name), .ok ()⟩ ∈ log

theorem walks_loadedWallets {log : List Asked} {names : List Json}
    (h : loadedWallets.Walks log (.done names)) : ⟨.wallet .wallets, .ok names⟩ ∈ log := by
  cases h with
  | turn r rest =>
    cases r with
    | ok names' =>
      cases rest
      exact List.mem_cons_self
    | error e =>
      change (if e.isForeseen then _ else _ : Job (List Json)).Walks _ _ at rest
      split at rest <;> cases rest

theorem walks_loadWallet {name : Text} {log : List Asked}
    (h : (loadWallet name).Walks log (.done ())) : ⟨.wallet (.load name), .ok ()⟩ ∈ log := by
  cases h with
  | turn r rest =>
    cases r with
    | ok u =>
      cases rest
      exact List.mem_cons_self
    | error e =>
      change (if e.isForeseen then _ else _ : Job Unit).Walks _ _ at rest
      split at rest <;> cases rest

theorem found_of_walks {name : Text} {log : List Asked}
    (h : (ensureWallet name).Walks log (.done ())) : Found name log := by
  obtain ⟨first, names, rest, rfl, listed, goes⟩ := h.of_bind
  have listed := walks_loadedWallets listed
  by_cases there : names.any (nameIs name) = true
  · exact .inl ⟨names, List.mem_append_left _ listed, there⟩
  · rw [Bool.not_eq_true] at there
    rw [there] at goes
    obtain ⟨said, u, later, rfl, -, goes⟩ := goes.of_bind
    obtain ⟨load, v, last, rfl, loaded, -⟩ := goes.of_bind
    refine .inr (List.mem_append_right _ (List.mem_append_right _ (List.mem_append_left _ ?_)))
    exact walks_loadWallet loaded

end Upkeep

namespace Query

def ofPurse (span : Option Nat) : Query → Prop
  | .wallet .balances | .log .. | .cache _ | .cached | .notify (.balanceRefreshed _) => True
  | .sleep us => span = some us
  | .rest => span = none
  | _ => False

theorem keeps_of_ofPurse {kind : WalletCall → Prop} {span : Option Nat} (balances : kind .balances)
    (q : Query) (h : q.ofPurse span) : q.Keeps kind := by
  cases q with
  | wallet c =>
    cases c with
    | balances => exact balances
    | _ => cases h
  | _ => trivial

end Query

namespace Purse

variable {kind : WalletCall → Prop}

theorem refresh_ofPurse (span : Option Nat) : refresh.Asks (Query.ofPurse span) := by
  have reads : read.Asks (Query.ofPurse span) := by
    have asks : (Job.wallet .balances).Asks (Query.ofPurse span) := asks_wallet trivial
    refine asks_bind (asks_rescue (asks_bind asks fun _ => trivial) fun e => ?_) fun r => ?_
    · split
      · exact asks_bind (asks_log trivial) fun _ => trivial
      · trivial
    · cases r <;> trivial
  refine asks_bind reads fun found => ?_
  cases found with
  | none => trivial
  | some balances =>
    refine asks_bind (asks_ofArithmetic _) fun balance => asks_bind (asks_ofArithmetic _) fun low => ?_
    cases low with
    | true => exact asks_bind (asks_log trivial) fun _ => trivial
    | false => exact fun _ => ⟨(), trivial, fun _ => ⟨(), trivial, trivial⟩⟩

theorem pause_ofPurse (delay : Binary64) : (pause delay).Asks (Query.ofPurse (spanOf? delay)) := by
  unfold pause
  split
  · rename_i us span
    exact fun _ => ⟨(), span, trivial⟩
  · rename_i endless
    exact fun _ => ⟨(), endless, trivial⟩

theorem attemptFrom_ofPurse (attempts : Nat) (delay : Binary64) (left attempt : Nat) :
    (attemptFrom attempts delay left attempt).Asks (Query.ofPurse (spanOf? delay)) := by
  induction left generalizing attempt with
  | zero => trivial
  | succ left ih =>
    refine asks_bind (refresh_ofPurse _) fun got => ?_
    cases got with
    | true => trivial
    | false =>
      change Job.Asks _ (if attempt < attempts then _ else _ : Job Bool)
      split
      · exact asks_bind (asks_log trivial) fun _ => asks_bind (pause_ofPurse delay) fun _ => ih _
      · exact ih _

theorem fill_ofPurse (attempts : Int) (delay : Binary64) :
    (fill attempts delay).Asks (Query.ofPurse (spanOf? delay)) := by
  refine asks_bind (attemptFrom_ofPurse _ _ _ _) fun got => ?_
  cases got with
  | true => exact fun _ => ⟨(), trivial, trivial⟩
  | false => exact asks_bind (asks_log trivial) fun _ => fun _ => ⟨(), trivial, trivial⟩

theorem refresh_asks (balances : kind .balances) : refresh.Asks (Query.Keeps kind) :=
  (refresh_ofPurse none).mono (Query.keeps_of_ofPurse balances)

theorem fillAtStart_asks (balances : kind .balances) : fillAtStart.Asks (Query.Keeps kind) :=
  (fill_ofPurse _ _).mono (Query.keeps_of_ofPurse balances)

end Purse

namespace Plan

theorem settleIn_asks (p : Plan) : p.settleIn.Asks (Query.Keeps WalletCall.isOpening) := by
  refine asks_bind (Upkeep.ensureWallet_asks _) fun _ => asks_bind
    ((Upkeep.reconcile_quiet _).mono Query.keeps_of_quiet) fun _ => asks_bind
      (Purse.fillAtStart_asks trivial) fun balance => asks_bind (asks_log trivial) fun _ => ?_
  split
  · exact asks_log trivial
  · trivial

/-- The opening has come to its end: the wallet was found, and then the sweep came to its end. -/
def Ready (p : Plan) (told : Paused (Told Unit)) : Prop :=
  ∃ check sweep rest n, told = .ended (.ok (.ok (), check ++ sweep ++ rest)) ∧
    (Upkeep.ensureWallet p.settings.walletName).Walks check (.done ()) ∧
      Upkeep.Found p.settings.walletName check ∧ p.reconcile.Walks sweep (.done n)

theorem ready_of_walks {p : Plan} {log : List Asked} (h : p.settleIn.Walks log (.done ())) :
    p.Ready (.ended (.ok (.ok (), log))) := by
  obtain ⟨check, u, later, rfl, ensured, goes⟩ := h.of_bind
  obtain ⟨sweep, n, rest, rfl, swept, -⟩ := goes.of_bind
  refine ⟨check, sweep, rest, n, ?_, ensured, Upkeep.found_of_walks ensured, swept⟩
  rw [List.append_assoc]

end Plan

theorem Batch.cycle_ticks (b : Batch) : b.cycle.Asks (Query.Keeps WalletCall.isTick) := by
  refine asks_of_follows b.cycle_follows (I := fun _ => True) trivial fun {s q r s'} _ moved => ?_
  refine ⟨?_, trivial⟩
  cases q with
  | wallet c =>
    cases moved with
    | balances => trivial
    | call => trivial
  | _ => trivial

namespace Merge

theorem finish_quiet (r : MergeReport) : (finish r).Asks Query.Quiet :=
  asks_bind (asks_ofExcept _) fun _ => fun _ => ⟨(), trivial, trivial⟩

theorem spend_ticks (m : Merge) (cs : List Unspent) (e : Estimate) :
    (m.spend cs e).Asks (Query.Keeps WalletCall.isTick) :=
  asks_bind (asks_wallet trivial) fun _ => asks_bind (asks_ofArithmetic _) fun _ =>
    asks_bind (asks_ofExcept _) fun _ => asks_bind (asks_wallet trivial) fun _ =>
      asks_bind (asks_log trivial) fun _ => (finish_quiet _).mono Query.keeps_of_quiet

theorem settle_ticks (m : Merge) (cs : List Unspent) :
    (m.settle cs).Asks (Query.Keeps WalletCall.isTick) := by
  have finishes (r : MergeReport) : (finish r).Asks (Query.Keeps WalletCall.isTick) :=
    (finish_quiet r).mono Query.keeps_of_quiet
  cases cs with
  | nil => exact finishes _
  | cons u us =>
    refine asks_bind (asks_ofArithmetic _) fun total => ?_
    split
    · exact finishes _
    · refine asks_bind (asks_ofArithmetic _) fun e => asks_bind (asks_ofArithmetic _) fun short => ?_
      cases short with
      | true => exact asks_bind (asks_log trivial) fun _ => finishes _
      | false => exact m.spend_ticks _ _

theorem run_ticks (m : Merge) : m.run.Asks (Query.Keeps WalletCall.isTick) := by
  rw [run_eq]
  exact asks_bind (asks_wallet trivial) fun us =>
    asks_bind (asks_ofArithmetic _) fun cs => m.settle_ticks cs

end Merge

namespace Plan

theorem autoMerge_ticks (p : Plan) : p.autoMerge.Asks (Query.Keeps WalletCall.isTick) := by
  refine asks_bind p.merge.run_ticks fun r => ?_
  split <;> exact asks_log trivial

theorem duties_ticks (p : Plan) : ∀ d ∈ p.duties, ∀ n,
    (d.work n).Asks (Query.Keeps WalletCall.isTick) := by
  intro d here n
  have works : d.work n = (p.batch.cycle.bind fun _ => .done ()) ∨
      d.work n = (Purse.refresh.bind fun _ => .done ()) ∨ d.work n = p.autoMerge := by
    unfold duties at here
    dsimp only at here
    split at here <;> simp only [List.mem_cons, List.not_mem_nil, or_false] at here
    · rcases here with rfl | rfl | rfl
      · exact .inl rfl
      · exact .inr (.inl rfl)
      · exact .inr (.inr rfl)
    · rcases here with rfl | rfl
      · exact .inl rfl
      · exact .inr (.inl rfl)
  rcases works with same | same | same <;> rw [same]
  · exact asks_bind p.batch.cycle_ticks fun _ => trivial
  · exact asks_bind (Purse.refresh_asks trivial) fun _ => trivial
  · exact p.autoMerge_ticks

end Plan

end Faucet
