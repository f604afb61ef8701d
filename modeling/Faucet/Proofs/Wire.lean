import Faucet.Proofs.Reaction
import Faucet.Wallet.Rpc

/-!
Jobs whose wallet is reached over the wire. An exchange with the node touches neither the ledger nor
the clock, so that what a machine keeps when the wallet answers at once it also keeps over the wire.
-/

set_option autoImplicit false

namespace Faucet

def Query.isWire : Query → Prop
  | .requestId | .send _ | .log .. => True
  | _ => False

namespace Job

variable {α β σ : Type} {kind : Query → Prop}

theorem asks_requestId (h : kind .requestId) : requestId.Asks kind := fun _ => ⟨(), h, trivial⟩

theorem asks_send {request : Request} (h : kind (.send request)) : (send request).Asks kind := by
  intro r
  cases r <;> exact ⟨(), h, trivial⟩

end Job

namespace Rpc

open Job

variable (r : Rpc)

theorem call_asks (method : Text) (params : List Json) (onWallet : Bool) :
    (r.call method params onWallet).Asks Query.isWire := by
  refine asks_bind (asks_requestId trivial) fun id => ?_
  refine asks_bind (asks_ofExcept _) fun target => ?_
  refine asks_bind (asks_ofExcept _) fun _ => ?_
  refine asks_bind (asks_ofExcept _) fun _ => ?_
  refine asks_bind (asks_send trivial) fun reply => ?_
  cases reply with
  | timedOut detail => exact asks_bind (asks_log trivial) fun _ => asks_fail _
  | lost detail => exact asks_bind (asks_log trivial) fun _ => asks_fail _
  | response status body => exact asks_bind (asks_ofExcept _) fun _ => asks_ofExcept _

theorem fund_asks (raw : Text) (feeRate : Option Decimal) :
    (r.fund raw feeRate).Asks Query.isWire := by
  have rest : ∀ options, (do
      let funded ← Job.ofExcept (expectObject "fundrawtransaction"
        (← r.call "fundrawtransaction" (.text raw :: options)))
      Job.log .debug ("Funded transaction, fee: "
        ++ ((Json.lookup "fee" funded).getD .null).display ++ " BTC")
      Job.ofExcept (expectText "fundrawtransaction" ((Json.lookup "hex" funded).getD .null)) :
        Job Text).Asks Query.isWire := fun options =>
    asks_bind (r.call_asks _ _ _) fun _ => asks_bind (asks_ofExcept _) fun _ =>
      asks_bind (asks_log trivial) fun _ => asks_ofExcept _
  cases feeRate with
  | none => exact rest []
  | some rate =>
    refine asks_bind (asks_ofArithmetic _) fun positive => ?_
    cases positive with
    | true => exact rest [.object [("fee_rate", .text rate.fixed8)]]
    | false => exact rest []

theorem sign_asks (raw : Text) : (r.sign raw).Asks Query.isWire := by
  refine asks_bind (r.call_asks _ _ _) fun reply => ?_
  refine asks_bind (asks_ofExcept _) fun signed => ?_
  dsimp only
  split
  · exact asks_bind (asks_fail _) fun _ => asks_ofExcept _
  · exact asks_ofExcept _

theorem broadcast_asks (outputs : Outputs) (feeRate : Option Decimal)
    (inputs : Option (List Json)) : (r.broadcast outputs feeRate inputs).Asks Query.isWire := by
  refine asks_bind (r.call_asks _ _ _) fun created => ?_
  refine asks_bind (asks_ofExcept _) fun raw => ?_
  have rest : ∀ raw, (do
      let signed ← r.sign raw
      let sent ← r.call "sendrawtransaction" [.text signed]
      let txid ← Job.ofExcept (expectText "sendrawtransaction" sent)
      Job.log .info ("Broadcast transaction: " ++ txid)
      return txid : Job Text).Asks Query.isWire := fun raw =>
    asks_bind (r.sign_asks raw) fun _ => asks_bind (r.call_asks _ _ _) fun _ =>
      asks_bind (asks_ofExcept _) fun _ => asks_bind (asks_log trivial) fun _ => asks_done _
  cases inputs with
  | none => exact asks_bind (r.fund_asks raw feeRate) rest
  | some pinned => exact rest raw

theorem handle_asks (c : WalletCall) : (r.handle c).Asks Query.isWire := by
  cases c with
  | balances => exact asks_bind (r.call_asks _ _ _) fun _ => asks_ofExcept _
  | unspent least most => exact asks_bind (r.call_asks _ _ _) fun _ => asks_ofExcept _
  | freshAddress label name => exact asks_bind (r.call_asks _ _ _) fun _ => asks_ofExcept _
  | broadcast outputs feeRate inputs => exact r.broadcast_asks outputs feeRate inputs
  | wallets => exact asks_bind (r.call_asks _ _ _) fun _ => asks_ofExcept _
  | load name => exact asks_bind (r.call_asks _ _ _) fun _ => asks_done _
  | chainInfo =>
    exact asks_bind (r.call_asks _ _ _) fun _ => asks_bind (asks_ofExcept _) fun _ => asks_done _
  | close => exact asks_done _

end Rpc

namespace Job

variable {α β σ : Type} {move : Machine σ} {ends : σ → Except Failure α → Prop}

theorem play_attempt (env : Nat → Reaction) (j : Job α) (k : Except Failure α → Job β) (c : Scene) :
    (j.attempt k).play env c = (k (j.play env c).1).play env (j.play env c).2 := by
  induction j generalizing c with
  | done a => rfl
  | fail e => rfl
  | ask q next ih => exact ih _ _

theorem play_bind {env : Nat → Reaction} {s s' : Scene} {j : Job α} {a : α}
    (h : j.play env s = (.ok a, s')) (f : α → Job β) : (j.bind f).play env s = (f a).play env s' := by
  rw [bind_eq_attempt, play_attempt, h]

theorem through_ask {handle : (c : WalletCall) → Job c.Answer} {q : Query}
    (hq : ∀ c, q ≠ .wallet c) (next : q.Answer → Job α) :
    (ask q next).through handle = ask q fun r => (next r).through handle := by
  cases q with
  | wallet c => exact absurd rfl (hq c)
  | _ => rfl

/-- What every move keeps, a wallet that answers at once included, is kept over the wire if an
exchange with the node keeps it too. -/
theorem play_through_keeps (env : Nat → Reaction) {handle : (c : WalletCall) → Job c.Answer}
    (asks : ∀ c, (handle c).Asks Query.isWire) {I : σ → Scene → Prop}
    (step : ∀ s c q s', I s c → (∀ call, q ≠ .wallet call) →
      move s q ((env c.log.length).answer c.database q).1 s' → I s' (c.asked (env c.log.length) q))
    (answered : ∀ s c call r s', I s c → move s (.wallet call) r s' → I s' c)
    (wire : ∀ s c q, I s c → q.isWire → I s (c.asked (env c.log.length) q))
    {j : Job α} {s : σ} {c : Scene} (h : j.Follows move ends s) (first : I s c) :
    ∃ s', ends s' ((j.through handle).play env c).1 ∧ I s' ((j.through handle).play env c).2 := by
  induction j generalizing s c with
  | done a => exact ⟨s, h, first⟩
  | fail e => exact ⟨s, h, first⟩
  | ask q next ih =>
    by_cases wallet : ∃ call, q = .wallet call
    · obtain ⟨call, rfl⟩ := wallet
      obtain ⟨_, _, exchanged⟩ := play_keeps env (I := fun _ c => I s c)
        (fun _ c q _ kept isWire => wire s c q kept isWire) (asks call) first
      change ∃ s', ends s' (((handle call).attempt fun r => (next r).through handle).play env c).1 ∧
        I s' (((handle call).attempt fun r => (next r).through handle).play env c).2
      rw [play_attempt]
      obtain ⟨s', hm, hn⟩ := h ((handle call).play env c).1
      exact ih _ hn (answered s _ call _ s' exchanged hm)
    · have direct : ∀ call, q ≠ .wallet call := fun call same => wallet ⟨call, same⟩
      rw [through_ask direct]
      obtain ⟨s', hm, hn⟩ := h ((env c.log.length).answer c.database q).1
      exact ih _ hn (step s c q s' first direct hm)

end Job

end Faucet
