import Faucet.Batch
import Faucet.Proofs.Machine

/-!
The stages of a batch cycle, as a machine. A stage holds how the payouts before the present one were
dealt with, so that the stage alone tells what the cycle has done to the ledger and what it will
report.
-/

set_option autoImplicit false

namespace Faucet

namespace Batch

def claimOf (r : Row) : Ledger.Change := { id := r.id, source := .pending, target := .processing }

def endOf (r : Row) : Except Failure Text → Ledger.Change
  | .ok txid => { id := r.id, source := .processing, target := .broadcast, txid := some txid }
  | .error e =>
    { id := r.id, source := .processing, target := .failed, error := some (errorText e) }

/-- What a payment hands to the node, or why it ends before the node is asked. -/
def outputs (b : Batch) (r : Row) : Except Failure Outputs :=
  match r.amount.lt Money.dustLimit with
  | .error fault => .error (.defect (.arithmetic fault))
  | .ok true => .error (.node "send" (.tooLow r.amount))
  | .ok false => Outputs.payment r.address r.amount b.memo

inductive Closing where
  | done (moment : Moment)
  /-- The payout was no longer claimed. -/
  | late
  /-- The text of its end is not one that the ledger takes. -/
  | barred (fault : TransitionFault)
  | refused (e : Failure)

/-- How one payout of a batch was dealt with. -/
inductive Episode where
  /-- It was not claimed, because the ledger failed or because it was no longer pending. -/
  | passed (r : Row) (cause : Option Failure)
  | closed (r : Row) (claimed : Moment) (payment : Except Failure Text) (closing : Closing)

namespace Episode

def row : Episode → Row
  | passed r _ => r
  | closed r .. => r

def isSent : Episode → Bool
  | closed _ _ (.ok _) _ => true
  | _ => false

def isFailed : Episode → Bool
  | closed _ _ (.error _) _ => true
  | _ => false

end Episode

def tally (past : List Episode) : CycleReport :=
  { size := past.length, sent := past.countP Episode.isSent
    failed := past.countP Episode.isFailed }

inductive Stage where
  | listing
  | listed (rows : List Row) (needed : Decimal)
  | ready (past : List Episode) (rest : List Row)
  | claiming (past : List Episode) (r : Row) (rest : List Row)
  | claimed (past : List Episode) (r : Row) (moment : Moment) (rest : List Row)
  | calling (past : List Episode) (r : Row) (moment : Moment) (outputs : Outputs)
    (rest : List Row)
  | paid (past : List Episode) (r : Row) (moment : Moment) (payment : Except Failure Text)
    (rest : List Row)
  | closing (past : List Episode) (r : Row) (moment : Moment) (payment : Except Failure Text)
    (rest : List Row)
  | finished (report : CycleReport)
  | raised (before : Stage) (e : Failure)

namespace Stage

def unlisted (e : Failure) : Stage :=
  if e.isStore then .finished { skipped := some ("store unavailable: " ++ e.message) }
  else .raised .listing e

def unclaimed (past : List Episode) (r : Row) (rest : List Row) (e : Failure) : Stage :=
  if e.isStore then .ready (past ++ [.passed r (some e)]) rest
  else .raised (.claiming past r rest) e

def unclosed (past : List Episode) (r : Row) (moment : Moment) (payment : Except Failure Text)
    (rest : List Row) (e : Failure) : Stage :=
  if e.isStore then .ready (past ++ [.closed r moment payment (.refused e)]) rest
  else .raised (.closing past r moment payment rest) e

def ofRows : List Row → Stage
  | [] => .finished {}
  | rows => match Decimal.sum (rows.map Row.amount) with
    | .error fault => .raised .listing (.defect (.arithmetic fault))
    | .ok needed => .listed rows needed

def ofBalances (rows : List Row) (needed : Decimal) : Except Failure Balances → Stage
  | .error e =>
    if e.isForeseen then .finished { skipped := some ("balance unavailable: " ++ e.message) }
    else .raised (.listed rows needed) e
  | .ok balances => match balances.available with
    | .error fault => .raised (.listed rows needed) (.defect (.arithmetic fault))
    | .ok available => match available.lt needed with
      | .error fault => .raised (.listed rows needed) (.defect (.arithmetic fault))
      | .ok true => .finished { skipped := some (shortfall available needed rows.length) }
      | .ok false => .ready [] rows

def ofPayment (b : Batch) (past : List Episode) (r : Row) (moment : Moment) (rest : List Row) :
    Stage :=
  match b.outputs r with
  | .error e => .paid past r moment (.error e) rest
  | .ok outputs => .calling past r moment outputs rest

def ofEntry (past : List Episode) (r : Row) (moment : Moment) (payment : Except Failure Text)
    (rest : List Row) : Stage :=
  match Store.permit (endOf r payment) with
  | .error fault => .ready (past ++ [.closed r moment payment (.barred fault)]) rest
  | .ok () => .closing past r moment payment rest

/-! Where a stage that depends on an answer can be. -/

section
variable {motive : Stage → Prop} {b : Batch} (past : List Episode) (r : Row) (moment : Moment)
  (payment : Except Failure Text) (rest : List Row) (e : Failure)

@[elab_as_elim]
theorem unlisted_cases (skipped : ∀ report, motive (.finished report))
    (raised : motive (.raised .listing e)) : motive (unlisted e) := by
  unfold unlisted
  split
  · exact skipped _
  · exact raised

@[elab_as_elim]
theorem unclaimed_cases (passed : motive (.ready (past ++ [.passed r (some e)]) rest))
    (raised : motive (.raised (.claiming past r rest) e)) :
    motive (unclaimed past r rest e) := by
  unfold unclaimed
  split
  · exact passed
  · exact raised

@[elab_as_elim]
theorem unclosed_cases
    (refused : motive (.ready (past ++ [.closed r moment payment (.refused e)]) rest))
    (raised : motive (.raised (.closing past r moment payment rest) e)) :
    motive (unclosed past r moment payment rest e) := by
  unfold unclosed
  split
  · exact refused
  · exact raised

@[elab_as_elim]
theorem ofRows_cases (rows : List Row) (none : rows = [] → motive (.finished {}))
    (raised : ∀ e, motive (.raised .listing e)) (listed : ∀ needed, motive (.listed rows needed)) :
    motive (ofRows rows) := by
  unfold ofRows
  split
  · exact none rfl
  · split
    · exact raised _
    · exact listed _

@[elab_as_elim]
theorem ofBalances_cases (rows : List Row) (needed : Decimal) (answer : Except Failure Balances)
    (skipped : ∀ report : CycleReport, report.sent = 0 → motive (.finished report))
    (raised : ∀ e, motive (.raised (.listed rows needed) e)) (ready : motive (.ready [] rows)) :
    motive (ofBalances rows needed answer) := by
  unfold ofBalances
  split
  · split
    · exact skipped _ rfl
    · exact raised _
  · split
    · exact raised _
    · split
      · exact raised _
      · exact skipped _ rfl
      · exact ready

@[elab_as_elim]
theorem ofPayment_cases
    (unsent : ∀ e, b.outputs r = .error e → motive (.paid past r moment (.error e) rest))
    (calling : ∀ outputs, b.outputs r = .ok outputs →
      motive (.calling past r moment outputs rest)) :
    motive (ofPayment b past r moment rest) := by
  unfold ofPayment
  split
  · exact unsent _ ‹_›
  · exact calling _ ‹_›

@[elab_as_elim]
theorem ofEntry_cases
    (barred : ∀ fault, Store.permit (endOf r payment) = .error fault →
      motive (.ready (past ++ [.closed r moment payment (.barred fault)]) rest))
    (closing : Store.permit (endOf r payment) = .ok () →
      motive (.closing past r moment payment rest)) :
    motive (ofEntry past r moment payment rest) := by
  unfold ofEntry
  split
  · exact barred _ ‹_›
  · exact closing ‹_›

end

/-- The moves of a cycle. Log lines and events leave the stage as it is, and so does the clock where
a change is about to take place. -/
inductive Moves (b : Batch) : Machine Stage
  | log (s : Stage) (level : Level) (message : Text) : Moves b s (.log level message) () s
  | notify (s : Stage) (e : Event) : Moves b s (.notify e) () s
  | enterList : Moves b .listing (.enter .list) (.ok ()) .listing
  | enterListFails (e : Failure) : Moves b .listing (.enter .list) (.error e) (unlisted e)
  | list (rows : List Row) :
    Moves b .listing (.session (.list (some .pending) (some ⟨.id, false⟩) (some b.size)))
      (.ok rows) (ofRows rows)
  | listFails (e : Failure) :
    Moves b .listing (.session (.list (some .pending) (some ⟨.id, false⟩) (some b.size)))
      (.error e) (unlisted e)
  | balances (rows : List Row) (needed : Decimal) (answer : Except Failure Balances) :
    Moves b (.listed rows needed) (.wallet .balances) answer (ofBalances rows needed answer)
  | enterClaim (past : List Episode) (r : Row) (rest : List Row) :
    Moves b (.ready past (r :: rest)) (.enter (.transition (claimOf r))) (.ok ())
      (.claiming past r rest)
  | enterClaimFails (past : List Episode) (r : Row) (rest : List Row) (e : Failure) :
    Moves b (.ready past (r :: rest)) (.enter (.transition (claimOf r))) (.error e)
      (unclaimed past r rest e)
  | claimClock (past : List Episode) (r : Row) (rest : List Row) (moment : Moment) :
    Moves b (.claiming past r rest) .now (.ok moment) (.claiming past r rest)
  | claimClockFails (past : List Episode) (r : Row) (rest : List Row) (e : Failure) :
    Moves b (.claiming past r rest) .now (.error e) (unclaimed past r rest e)
  | claim (past : List Episode) (r : Row) (rest : List Row) (moment : Moment) :
    Moves b (.claiming past r rest) (.session (.update (claimOf r) moment)) (.ok true)
      (.claimed past r moment rest)
  | claimLate (past : List Episode) (r : Row) (rest : List Row) (moment : Moment) :
    Moves b (.claiming past r rest) (.session (.update (claimOf r) moment)) (.ok false)
      (.ready (past ++ [.passed r none]) rest)
  | claimFails (past : List Episode) (r : Row) (rest : List Row) (moment : Moment) (e : Failure) :
    Moves b (.claiming past r rest) (.session (.update (claimOf r) moment)) (.error e)
      (unclaimed past r rest e)
  | payment (past : List Episode) (r : Row) (moment : Moment) (rest : List Row) :
    Moves b (.claimed past r moment rest) (.payment r.address r.amount) ()
      (ofPayment b past r moment rest)
  | call (past : List Episode) (r : Row) (moment : Moment) (outputs : Outputs) (rest : List Row)
    (answer : Except Failure Text) :
    Moves b (.calling past r moment outputs rest)
      (.wallet (.broadcast outputs (some Fee.payoutRate) none)) answer
      (.paid past r moment answer rest)
  | enterEnd (past : List Episode) (r : Row) (moment : Moment) (payment : Except Failure Text)
    (rest : List Row) :
    Moves b (.paid past r moment payment rest) (.enter (.transition (endOf r payment))) (.ok ())
      (ofEntry past r moment payment rest)
  | enterEndFails (past : List Episode) (r : Row) (moment : Moment)
    (payment : Except Failure Text) (rest : List Row) (e : Failure) :
    Moves b (.paid past r moment payment rest) (.enter (.transition (endOf r payment))) (.error e)
      (unclosed past r moment payment rest e)
  | endClock (past : List Episode) (r : Row) (moment : Moment) (payment : Except Failure Text)
    (rest : List Row) (now : Moment) :
    Moves b (.closing past r moment payment rest) .now (.ok now)
      (.closing past r moment payment rest)
  | endClockFails (past : List Episode) (r : Row) (moment : Moment)
    (payment : Except Failure Text) (rest : List Row) (e : Failure) :
    Moves b (.closing past r moment payment rest) .now (.error e)
      (unclosed past r moment payment rest e)
  | close (past : List Episode) (r : Row) (moment : Moment) (payment : Except Failure Text)
    (rest : List Row) (now : Moment) :
    Moves b (.closing past r moment payment rest) (.session (.update (endOf r payment) now))
      (.ok true) (.ready (past ++ [.closed r moment payment (.done now)]) rest)
  | closeLate (past : List Episode) (r : Row) (moment : Moment) (payment : Except Failure Text)
    (rest : List Row) (now : Moment) :
    Moves b (.closing past r moment payment rest) (.session (.update (endOf r payment) now))
      (.ok false) (.ready (past ++ [.closed r moment payment .late]) rest)
  | closeFails (past : List Episode) (r : Row) (moment : Moment) (payment : Except Failure Text)
    (rest : List Row) (now : Moment) (e : Failure) :
    Moves b (.closing past r moment payment rest) (.session (.update (endOf r payment) now))
      (.error e) (unclosed past r moment payment rest e)

def Ends : Stage → Except Failure CycleReport → Prop
  | .finished report, .ok result => result = report
  | .ready past [], .ok result => result = tally past
  | .raised _ e, .error e' => e' = e
  | _, _ => False

end Stage

end Batch

end Faucet
