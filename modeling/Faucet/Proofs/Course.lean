import Faucet.Proofs.Stage

/-!
A batch cycle keeps to its stages, whatever the ledger, the node and the clock answer.
-/

set_option autoImplicit false

namespace Faucet.Batch

open Job

theorem claim_eq (r : Row) :
    claim r = (Store.transition (claimOf r)).attempt fun
      | .ok true => .done true
      | .ok false => do
        Job.log .warning ("Transaction " ++ Text.ofInt r.id ++ " is no longer pending, skipping")
        return false
      | .error e =>
        if e.isStore then do
          Job.log .error ("Failed to update transaction " ++ Text.ofInt r.id ++ " to processing: "
            ++ e.message)
          return false
        else .fail e := by
  refine (rescue_bind_bind _ _ _ _).trans (congrArg _ (funext fun o => ?_))
  cases o with
  | ok won => cases won <;> rfl
  | error e => dsimp only; split <;> rfl

theorem send_eq (b : Batch) (r : Row) (feeRate : Decimal) :
    b.send r feeRate = (Wallet.pay r.address r.amount feeRate b.memo).attempt fun
      | .ok txid => .done (.ok txid)
      | .error e => do
        if e.isForeseen then
          Job.log .error ("Failed to send to " ++ r.address ++ ": " ++ e.message)
        else
          Job.log .error ("Unexpected error sending to " ++ r.address ++ ": " ++ e.message)
        return .error (errorText e) := by
  refine (rescue_bind_bind _ _ _ _).trans (congrArg _ (funext fun o => ?_))
  cases o with
  | ok txid => rfl
  | error e => dsimp only; split <;> rfl

theorem record_eq (r : Row) (target : Status) (txid error : Option Text) (note : Text) :
    record r target txid error note =
      (Store.transition { id := r.id, source := .processing, target, txid, error }).attempt fun
        | .ok _ => .done ()
        | .error e =>
          if e.isStore then
            Job.log .error ("Failed to update transaction " ++ Text.ofInt r.id ++ " to "
              ++ target.text ++ note ++ ": " ++ e.message)
          else .fail e := by
  refine (rescue_bind _ _ _).trans (congrArg _ (funext fun o => ?_))
  cases o with
  | ok _ => rfl
  | error e => rfl

theorem pending_eq (b : Batch) :
    b.pending = (Store.list (some .pending) (some "id") (some b.size)).attempt fun
      | .ok rows => .done (.ok rows)
      | .error e =>
        if e.isStore then do
          Job.log .error ("Failed to query pending transactions: " ++ e.message)
          return .error ("store unavailable: " ++ e.message)
        else .fail e := by
  refine (rescue_bind_bind _ _ _ _).trans (congrArg _ (funext fun o => ?_))
  cases o with
  | ok rows => rfl
  | error e => dsimp only; split <;> rfl

theorem balances_eq :
    balances = (Job.wallet .balances).attempt fun
      | .ok found => .done (.ok found)
      | .error e =>
        if e.isForeseen then do
          Job.log .error ("Failed to get wallet balance, skipping batch: " ++ e.message)
          return .error ("balance unavailable: " ++ e.message)
        else .fail e := by
  refine (rescue_bind_bind _ _ _ _).trans (congrArg _ (funext fun o => ?_))
  cases o with
  | ok found => rfl
  | error e => dsimp only; split <;> rfl

theorem transition_barred {c : Ledger.Change} {fault : TransitionFault}
    (barred : Store.permit c = .error fault) :
    Store.transition c =
      (Job.enter (.transition c)).bind fun _ => .fail (.store (.transition fault)) := by
  unfold Store.transition
  rw [barred]
  rfl

theorem transition_allowed {c : Ledger.Change} (allowed : Store.permit c = .ok ()) :
    Store.transition c = (Job.enter (.transition c)).bind fun _ =>
      Job.now.bind fun now => Job.session (.update c now) := by
  unfold Store.transition
  rw [allowed]
  rfl

section
variable (b : Batch) (past : List Episode) (r : Row) (rest : List Row)

theorem claim_transition_follows :
    (Store.transition (claimOf r)).Follows (Stage.Moves b)
      (fun s outcome => match outcome with
        | .ok true => ∃ moment, s = .claimed past r moment rest
        | .ok false => s = .ready (past ++ [.passed r none]) rest
        | .error e => s = Stage.unclaimed past r rest e)
      (.ready past (r :: rest)) := by
  intro entered
  cases entered with
  | error e => exact ⟨_, .enterClaimFails past r rest e, rfl⟩
  | ok _ =>
    refine ⟨_, .enterClaim past r rest, ?_⟩
    intro now
    cases now with
    | error e => exact ⟨_, .claimClockFails past r rest e, rfl⟩
    | ok moment =>
      refine ⟨_, .claimClock past r rest moment, ?_⟩
      intro won
      cases won with
      | error e => exact ⟨_, .claimFails past r rest moment e, rfl⟩
      | ok won =>
        cases won with
        | true => exact ⟨_, .claim past r rest moment, moment, rfl⟩
        | false => exact ⟨_, .claimLate past r rest moment, rfl⟩

theorem claim_follows :
    (claim r).Follows (Stage.Moves b)
      (fun s outcome => match outcome with
        | .ok true => ∃ moment, s = .claimed past r moment rest
        | .ok false => ∃ cause, s = .ready (past ++ [.passed r cause]) rest
        | .error e => ∃ before, s = .raised before e)
      (.ready past (r :: rest)) := by
  rw [claim_eq]
  refine follows_attempt (claim_transition_follows b past r rest) fun s outcome h => ?_
  match outcome with
  | .ok true => exact h
  | .ok false =>
    subst h
    exact fun _ => ⟨_, .log _ _ _, none, rfl⟩
  | .error e =>
    subst h
    unfold Stage.unclaimed
    by_cases he : e.isStore
    · simp only [he, if_true]
      exact fun _ => ⟨_, .log _ _ _, some e, rfl⟩
    · simp only [he]
      exact ⟨_, rfl⟩

variable (moment : Moment)

theorem payment_follows :
    (Wallet.pay r.address r.amount Fee.payoutRate b.memo).Follows (Stage.Moves b)
      (fun s outcome => s = .paid past r moment outcome rest) (.claimed past r moment rest) := by
  intro _
  refine ⟨_, .payment past r moment rest, ?_⟩
  unfold Stage.ofPayment outputs
  cases r.amount.lt Money.dustLimit with
  | error fault => rfl
  | ok low =>
    cases low with
    | true => rfl
    | false =>
      change Follows _ _ _ ((Job.ofExcept _).bind _)
      cases Outputs.payment r.address r.amount b.memo with
      | error e => rfl
      | ok outputs =>
        intro answer
        refine ⟨_, .call past r moment outputs rest answer, ?_⟩
        cases answer with
        | error e => rfl
        | ok txid => rfl

theorem send_follows :
    (b.send r Fee.payoutRate).Follows (Stage.Moves b)
      (fun s outcome => ∃ payment, s = .paid past r moment payment rest ∧
        outcome = .ok (payment.mapError errorText))
      (.claimed past r moment rest) := by
  rw [send_eq]
  refine follows_attempt (payment_follows b past r rest moment) fun s outcome h => ?_
  cases outcome with
  | ok txid => exact ⟨_, h, rfl⟩
  | error e =>
    dsimp only
    split
    · exact fun _ => ⟨_, .log _ _ _, _, h, rfl⟩
    · exact fun _ => ⟨_, .log _ _ _, _, h, rfl⟩

variable (payment : Except Failure Text)

theorem end_transition_follows :
    (Store.transition (endOf r payment)).Follows (Stage.Moves b)
      (fun s outcome => match outcome with
        | .ok _ => ∃ closing, s = .ready (past ++ [.closed r moment payment closing]) rest
        | .error e => s = Stage.unclosed past r moment payment rest e ∨ ∃ fault,
          e = .store (.transition fault) ∧
            s = .ready (past ++ [.closed r moment payment (.barred fault)]) rest)
      (.paid past r moment payment rest) := by
  cases allowed : Store.permit (endOf r payment) with
  | error fault =>
    rw [transition_barred allowed]
    intro entered
    cases entered with
    | error e => exact ⟨_, .enterEndFails past r moment payment rest e, .inl rfl⟩
    | ok _ =>
      refine ⟨_, .enterEnd past r moment payment rest, .inr ⟨fault, rfl, ?_⟩⟩
      unfold Stage.ofEntry
      rw [allowed]
  | ok _ =>
    rw [transition_allowed allowed]
    intro entered
    cases entered with
    | error e => exact ⟨_, .enterEndFails past r moment payment rest e, .inl rfl⟩
    | ok _ =>
      refine ⟨_, .enterEnd past r moment payment rest, ?_⟩
      unfold Stage.ofEntry
      rw [allowed]
      intro now
      cases now with
      | error e => exact ⟨_, .endClockFails past r moment payment rest e, .inl rfl⟩
      | ok now =>
        refine ⟨_, .endClock past r moment payment rest now, ?_⟩
        intro won
        cases won with
        | error e => exact ⟨_, .closeFails past r moment payment rest now e, .inl rfl⟩
        | ok won =>
          cases won with
          | true => exact ⟨_, .close past r moment payment rest now, _, rfl⟩
          | false => exact ⟨_, .closeLate past r moment payment rest now, _, rfl⟩

theorem record_follows (target : Status) (txid error : Option Text) (note : Text)
    (hc : endOf r payment = { id := r.id, source := .processing, target, txid, error }) :
    (record r target txid error note).Follows (Stage.Moves b)
      (fun s outcome => match outcome with
        | .ok _ => ∃ closing, s = .ready (past ++ [.closed r moment payment closing]) rest
        | .error e => ∃ before, s = .raised before e)
      (.paid past r moment payment rest) := by
  rw [record_eq, ← hc]
  refine follows_attempt (end_transition_follows b past r rest moment payment) fun s outcome h => ?_
  cases outcome with
  | ok _ => exact h
  | error e =>
    rcases h with rfl | ⟨fault, rfl, rfl⟩
    · unfold Stage.unclosed
      by_cases he : e.isStore
      · simp only [he, if_true]
        exact fun _ => ⟨_, .log _ _ _, _, rfl⟩
      · simp only [he]
        exact ⟨_, rfl⟩
    · exact fun _ => ⟨_, .log _ _ _, _, rfl⟩

theorem pay_follows :
    (b.pay r Fee.payoutRate).Follows (Stage.Moves b)
      (fun s outcome => match outcome with
        | .ok ended => ∃ e, s = .ready (past ++ [e]) rest ∧
          (ended = some .broadcast ∧ e.isSent = true ∧ e.isFailed = false ∨
            ended = some .failed ∧ e.isSent = false ∧ e.isFailed = true ∨
            ended = none ∧ e.isSent = false ∧ e.isFailed = false)
        | .error e => ∃ before, s = .raised before e)
      (.ready past (r :: rest)) := by
  refine follows_bind (claim_follows b past r rest) (fun s won h => ?_) fun s e h => h
  cases won with
  | false =>
    obtain ⟨cause, rfl⟩ := h
    exact ⟨_, rfl, .inr (.inr ⟨rfl, rfl, rfl⟩)⟩
  | true =>
    obtain ⟨moment, rfl⟩ := h
    refine follows_bind (send_follows b past r rest moment) (fun s sent h => ?_) fun s e h => ?_
    · obtain ⟨payment, rfl, h⟩ := h
      cases payment with
      | error e =>
        cases h
        refine follows_bind (record_follows b past r rest moment (.error e) _ _ _ _ rfl)
          (fun s _ h => ?_) fun s e h => h
        obtain ⟨closing, rfl⟩ := h
        exact ⟨_, rfl, .inr (.inl ⟨rfl, rfl, rfl⟩)⟩
      | ok txid =>
        cases h
        refine follows_bind (record_follows b past r rest moment (.ok txid) _ _ _ _ rfl)
          (fun s _ h => ?_) fun s e h => h
        obtain ⟨closing, rfl⟩ := h
        exact fun _ => ⟨_, .log _ _ _, _, rfl, .inl ⟨rfl, rfl, rfl⟩⟩
    · obtain ⟨payment, _, h⟩ := h
      cases h

end

theorem payAll_follows (b : Batch) (past : List Episode) (rest : List Row) :
    (b.payAll Fee.payoutRate rest
      { tally past with size := (past.length + rest.length : Nat) }).Follows
      (Stage.Moves b) Stage.Ends (.ready past rest) := by
  -- The report so far is the tally of what is past, whatever that is.
  induction rest generalizing past with
  | nil => rfl
  | cons r rest ih =>
    refine follows_bind (pay_follows b past r rest) (fun s ended h => ?_) fun s e h => ?_
    · obtain ⟨e, rfl, h⟩ := h
      have step := ih (past ++ [e])
      have size : (past ++ [e]).length + rest.length = past.length + (r :: rest).length := by
        simp only [List.length_append, List.length_cons, List.length_nil]
        omega
      rw [size] at step
      obtain ⟨rfl, sent, failed⟩ | ⟨rfl, sent, failed⟩ | ⟨rfl, sent, failed⟩ := h <;>
        simpa [tally, sent, failed] using step
    · obtain ⟨before, rfl⟩ := h
      rfl

theorem list_follows (b : Batch) :
    (Store.list (some .pending) (some "id") (some b.size)).Follows (Stage.Moves b)
      (fun s outcome => match outcome with
        | .ok rows => s = Stage.ofRows rows
        | .error e => s = Stage.unlisted e)
      .listing := by
  intro entered
  cases entered with
  | error e => exact ⟨_, .enterListFails e, rfl⟩
  | ok _ =>
    refine ⟨_, .enterList, ?_⟩
    intro found
    cases found with
    | error e => exact ⟨_, .listFails e, rfl⟩
    | ok rows => exact ⟨_, .list rows, rfl⟩

theorem pending_follows (b : Batch) :
    b.pending.Follows (Stage.Moves b)
      (fun s (outcome : Except Failure (Except Text (List Row))) => match outcome with
        | .ok (.ok rows) => s = Stage.ofRows rows
        | .ok (.error reason) => s = .finished { skipped := some reason }
        | .error e => s = .raised .listing e)
      .listing := by
  rw [pending_eq]
  refine follows_attempt (list_follows b) fun s outcome h => ?_
  cases outcome with
  | ok rows => exact h
  | error e =>
    subst h
    unfold Stage.unlisted
    by_cases he : e.isStore
    · simp only [he, if_true]
      exact fun _ => ⟨_, .log _ _ _, rfl⟩
    · simp only [he, Bool.false_eq_true, if_false]
      rfl

theorem wallet_balances_follows (b : Batch) (rows : List Row) (needed : Decimal) :
    (Job.wallet .balances).Follows (Stage.Moves b)
      (fun s outcome => s = Stage.ofBalances rows needed outcome) (.listed rows needed) := by
  intro answer
  refine ⟨_, .balances rows needed answer, ?_⟩
  cases answer with
  | error e => rfl
  | ok found => rfl

theorem balances_follows (b : Batch) (rows : List Row) (needed : Decimal) :
    balances.Follows (Stage.Moves b)
      (fun s (outcome : Except Failure (Except Text Balances)) => match outcome with
        | .ok (.ok found) => s = Stage.ofBalances rows needed (.ok found)
        | .ok (.error reason) => s = .finished { skipped := some reason }
        | .error e => s = .raised (.listed rows needed) e)
      (.listed rows needed) := by
  rw [balances_eq]
  refine follows_attempt (wallet_balances_follows b rows needed) fun s outcome h => ?_
  cases outcome with
  | ok found => exact h
  | error e =>
    subst h
    unfold Stage.ofBalances
    by_cases he : e.isForeseen
    · simp only [he, if_true]
      exact fun _ => ⟨_, .log _ _ _, rfl⟩
    · simp only [he, Bool.false_eq_true, if_false]
      rfl

theorem skip_follows (b : Batch) (reason : Text) :
    (skip reason).Follows (Stage.Moves b) Stage.Ends (.finished { skipped := some reason }) :=
  fun _ => ⟨_, .notify _ _, rfl⟩

/-- What a cycle does once the wallet has told its balances. -/
theorem admitted_follows (b : Batch) (rows : List Row) (needed : Decimal) (found : Balances) :
    (do
      let available ← Job.ofArithmetic found.available
      if ← Job.ofArithmetic (available.lt needed) then
        let reason := shortfall available needed rows.length
        Job.log .warning reason
        skip reason
      else
        let report ← b.payAll Fee.payoutRate rows { size := rows.length }
        Job.log .info ("Batch complete: " ++ Text.ofInt report.sent ++ " sent, "
          ++ Text.ofInt report.failed ++ " failed")
        Job.notify (.batchCompleted report)
        return report : Job CycleReport).Follows (Stage.Moves b) Stage.Ends
      (Stage.ofBalances rows needed (.ok found)) := by
  unfold Stage.ofBalances
  dsimp only
  cases found.available with
  | error fault => rfl
  | ok available =>
    change Follows _ _ _ ((Job.ofArithmetic (available.lt needed)).bind _)
    dsimp only
    cases available.lt needed with
    | error fault => rfl
    | ok short =>
      cases short with
      | true => exact fun _ => ⟨_, .log _ _ _, skip_follows b _⟩
      | false =>
        have paid := payAll_follows b [] rows
        rw [List.length_nil, Nat.zero_add] at paid
        change Follows _ _ _ ((b.payAll _ _ _).bind _)
        refine follows_bind paid (fun s report h => ?_) fun s e h => h
        exact fun _ => ⟨_, .log _ _ _, fun _ => ⟨_, .notify _ _, h⟩⟩

theorem cycle_follows (b : Batch) :
    b.cycle.Follows (Stage.Moves b) Stage.Ends .listing := by
  refine follows_bind (pending_follows b) (fun s found h => ?_) fun s e h => h ▸ rfl
  match found with
  | .error reason => exact h ▸ skip_follows b reason
  | .ok [] => exact h ▸ rfl
  | .ok (r :: rest) =>
    subst h
    intro _
    refine ⟨_, .log _ _ _, ?_⟩
    unfold Stage.ofRows
    change Follows _ _ _ ((Job.ofArithmetic (Decimal.sum ((r :: rest).map Row.amount))).bind _)
    dsimp only
    cases Decimal.sum ((r :: rest).map Row.amount) with
    | error fault => rfl
    | ok needed =>
      intro _
      refine ⟨_, .notify _ _, ?_⟩
      change Follows _ _ _ (balances.bind _)
      refine follows_bind (balances_follows b (r :: rest) needed) (fun s outcome h => ?_)
        fun s e h => h ▸ rfl
      cases outcome with
      | error reason => exact h ▸ skip_follows b reason
      | ok found => exact h ▸ admitted_follows b (r :: rest) needed found

end Faucet.Batch
