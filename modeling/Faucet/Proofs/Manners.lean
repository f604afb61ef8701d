import Faucet.Intake
import Faucet.Proofs.Machine

/-!
Which questions a request and a sweep ask. Neither asks the wallet for anything, a request only adds
rows, and a sweep only gives up payouts that are claimed.
-/

set_option autoImplicit false

namespace Faucet

namespace Query

def isIntake : Query → Prop
  | .enter _ | .now | .draw _ | .log .. => True
  | .session (.insert address _ _ _) => ∃ a, address = some a ∧ Address.isSignet a = true
  | .session (.countFrom ..) | .session (.byAddress _) => True
  | _ => False

/-- What a request asks. The rows that it adds are of whole satoshis above zero in coin. -/
def isRequest : Query → Prop
  | .enter _ | .now | .draw _ | .log .. => True
  | .session (.insert address _ sats _) => ∃ a amount, address = some a ∧
    Address.isSignet a = true ∧ amount.le .zero = .ok false ∧ Money.toSats amount = .ok sats
  | .session (.countFrom ..) | .session (.byAddress _) => True
  | _ => False

theorem isIntake_of_isRequest (q : Query) (h : q.isRequest) : q.isIntake := by
  cases q with
  | session s =>
    cases s with
    | insert address source sats now =>
      obtain ⟨a, amount, rfl, signet, _⟩ := h
      exact ⟨a, rfl, signet⟩
    | countFrom | byAddress => trivial
    | _ => cases h
  | enter | now | draw | log => trivial
  | _ => cases h

def isSweep : Query → Prop
  | .enter _ | .now | .log .. | .session (.stale _) => True
  | .session (.update c _) => ∃ r, c = Store.failInterrupted r
  | _ => False

end Query

open Job

theorem Address.isSignet_of_validate {t address : Text} (h : Address.validate t = .ok address) :
    Address.isSignet address = true := by
  unfold Address.validate at h
  dsimp only at h
  split at h
  · cases h
  · split at h
    · cases h
    · rw [isLineOf_strip] at h
      split at h
      · cases h
        assumption
      · cases h

theorem Store.countFrom_asks (source : Option Text) (since : Moment) :
    (Store.countFrom source since).Asks Query.isRequest :=
  asks_bind (asks_enter trivial) fun _ => asks_session trivial

theorem Quota.allows_asks (q : Quota) (source : Text) :
    (q.allows source none).Asks Query.isRequest := by
  unfold allows
  split
  · trivial
  · refine asks_bind (asks_now trivial) fun now => asks_bind (asks_ofExcept _) fun since =>
      asks_bind (Store.countFrom_asks _ _) fun count => ?_
    split
    · exact asks_bind (asks_log trivial) fun _ => trivial
    · trivial

theorem TierPolicy.pick_asks (p : TierPolicy) (tier : Option Int) :
    (p.pick tier).Asks Query.isRequest := by
  refine asks_bind (asks_ofExcept _) fun t => asks_bind (asks_ofExcept _) fun width => ?_
  dsimp only
  split
  · trivial
  · exact fun n => ⟨(), trivial, asks_ofArithmetic _⟩

theorem Store.create_asks {address : Text} (h : Address.isSignet address = true) (amount : Decimal)
    (source : Text) : (Store.create (some address) amount source).Asks Query.isRequest := by
  refine asks_bind (asks_enter trivial) fun _ => ?_
  change Job.Asks _ ((Job.ofArithmetic (amount.le .zero)).bind _)
  cases above : amount.le .zero with
  | error fault => trivial
  | ok low =>
    cases low with
    | true => trivial
    | false =>
      change Job.Asks _ (Job.now.bind _)
      refine asks_bind (asks_now trivial) fun now => ?_
      change Job.Asks _ ((Job.ofExcept (Money.toSats amount)).bind _)
      cases worth : Money.toSats amount with
      | error e => trivial
      | ok sats =>
        change Job.Asks _ ((Job.session (.insert (some address) source sats now)).bind _)
        refine asks_bind (asks_session ⟨address, amount, rfl, h, above, worth⟩) fun inserted => ?_
        cases inserted with
        | ok row => trivial
        | error conflict =>
          refine asks_bind (asks_session trivial) fun found => ?_
          cases found <;> trivial

namespace Intake

variable (i : Intake)

theorem admitted?_asks (source : Text) : (i.admitted? source).Asks Query.isRequest := by
  refine asks_bind (asks_rescue (asks_bind (i.quota.allows_asks source) fun _ => trivial)
    fun e => ?_) fun r => ?_
  · split
    · exact asks_bind (asks_log trivial) fun _ => trivial
    · trivial
  · cases r <;> trivial

theorem amount_asks (tier : Option Int) : (i.amount tier).Asks Query.isRequest := by
  refine asks_bind (asks_rescue (asks_bind (i.tiers.pick_asks tier) fun _ => trivial)
    fun e => ?_) fun r => ?_
  · cases e <;> trivial
  · cases r <;> trivial

theorem queue_asks {address : Text} (h : Address.isSignet address = true) (amount : Decimal)
    (source : Text) : (queue address amount source).Asks Query.isRequest := by
  refine asks_bind (asks_rescue (asks_bind (Store.create_asks h amount source) fun _ => trivial)
    fun e => ?_) fun r => ?_
  · split
    · trivial
    · exact asks_bind (asks_log trivial) fun _ => trivial
    · trivial
  · cases r <;> trivial

theorem submit_requests (address : Text) (tier : Option Int) (source : Text) :
    (i.submit address tier source).Asks Query.isRequest := by
  unfold submit
  split
  · trivial
  · rename_i address valid
    have valid := Address.isSignet_of_validate valid
    refine asks_bind (i.admitted?_asks source) fun admitted => ?_
    match admitted with
    | none => trivial
    | some false => trivial
    | some true =>
      refine asks_bind (i.amount_asks tier) fun amount => ?_
      cases amount with
      | error message => trivial
      | ok amount =>
        refine asks_bind (queue_asks valid amount source) fun refusal => ?_
        match refusal with
        | some .duplicateAddress => trivial
        | none => exact asks_bind (asks_log trivial) fun _ => asks_ofExcept _
        | some .invalidAddress | some .rateLimited | some .invalidTier | some .internal => trivial

theorem submit_asks (address : Text) (tier : Option Int) (source : Text) :
    (i.submit address tier source).Asks Query.isIntake :=
  (i.submit_requests address tier source).mono Query.isIntake_of_isRequest

end Intake

namespace Store

theorem failInterrupted_asks (r : Row) :
    (transition (failInterrupted r)).Asks Query.isSweep := by
  refine asks_bind (asks_enter trivial) fun _ => ?_
  split
  · trivial
  · exact asks_bind (asks_now trivial) fun now => asks_session ⟨r, rfl⟩

theorem failEach_asks (rows : List Row) (failed : Nat) :
    (failEach rows failed).Asks Query.isSweep := by
  induction rows generalizing failed with
  | nil => trivial
  | cons r rest ih =>
    refine asks_bind (failInterrupted_asks r) fun won => ?_
    cases won with
    | true => exact asks_bind (asks_log trivial) fun _ => ih (failed + 1)
    | false => exact ih failed

theorem failStale_asks (olderThan : Span) (now : Option Moment) :
    (failStale olderThan now).Asks Query.isSweep := by
  have tail : ∀ m : Moment, Asks Query.isSweep
      ((ofExcept (m.before olderThan)).bind fun cutoff =>
        (session (.stale cutoff)).bind fun rows => failEach rows 0) :=
    fun m => asks_bind (asks_ofExcept _) fun cutoff =>
      asks_bind (asks_session trivial) fun rows => failEach_asks rows 0
  cases now with
  | some m => exact tail m
  | none => exact asks_bind (asks_now trivial) tail

end Store

end Faucet
