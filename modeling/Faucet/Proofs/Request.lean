import Faucet.Proofs.Manners

/-!
The stages of a request, as a machine. A stage holds what the quota has found, the amount that was
drawn and the time at which the payout is queued, so that whoever follows a request knows on what
grounds it adds its row.
-/

set_option autoImplicit false

namespace Faucet

theorem Receipt.eq_of_accepted {amount : Decimal} {receipt : Receipt}
    (h : accepted amount = .ok receipt) :
    receipt = { queued := true, message := welcome, amount := some amount } := by
  unfold accepted checked at h
  split at h
  · exact (Except.ok.inj h).symm
  · cases h

namespace Intake

/-- What lets a request go on: the time and the start of the window for which the payouts of its
source were counted; nothing if the source is exempt. -/
abbrev Leave := Option (Moment × Moment)

inductive Stage where
  | opening
  | counting (now since : Moment)
  | admitted (leave : Leave)
  | priced (leave : Leave) (amount : Decimal)
  | dated (leave : Leave) (amount : Decimal) (now : Moment)
  | queued (amount : Decimal) (row : Row)
  | limited
  | over

def Rounded (amount : Decimal) : Prop := ∃ x, Decimal.quantize .halfEven x (-8) = .ok amount

namespace Stage

def first (i : Intake) (source : Text) : Stage :=
  if source ∈ i.quota.exempt then .admitted none else .opening

def ofClock (i : Intake) (now : Moment) : Stage :=
  match Moment.before now i.quota.window with
  | .ok since => .counting now since
  | .error _ => .over

def ofCount (i : Intake) (now since : Moment) (count : Nat) : Stage :=
  if i.quota.most ≤ count then .limited else .admitted (some (now, since))

inductive Moves (i : Intake) (address source : Text) : Machine Stage
  | log (s : Stage) (level : Level) (message : Text) : Moves i address source s (.log level message) () s
  | clock (now : Moment) (limited : source ∉ i.quota.exempt) :
    Moves i address source .opening .now (.ok now) (ofClock i now)
  | clockFails (e : Failure) : Moves i address source .opening .now (.error e) .over
  | enterCount (now since : Moment) :
    Moves i address source (.counting now since) (.enter .countFrom) (.ok ()) (.counting now since)
  | enterCountFails (now since : Moment) (e : Failure) :
    Moves i address source (.counting now since) (.enter .countFrom) (.error e) .over
  | count (now since : Moment) (n : Nat) :
    Moves i address source (.counting now since) (.session (.countFrom (some source) since)) (.ok n)
      (ofCount i now since n)
  | countFails (now since : Moment) (e : Failure) :
    Moves i address source (.counting now since) (.session (.countFrom (some source) since))
      (.error e) .over
  | draw (leave : Leave) (most : Nat) (n : Fin (most + 1)) (amount : Decimal)
    (rounded : Rounded amount) :
    Moves i address source (.admitted leave) (.draw most) n (.priced leave amount)
  | drawFails (leave : Leave) (most : Nat) (n : Fin (most + 1)) :
    Moves i address source (.admitted leave) (.draw most) n .over
  | enterCreate (leave : Leave) (amount : Decimal) :
    Moves i address source (.priced leave amount) (.enter .create) (.ok ()) (.priced leave amount)
  | enterCreateFails (leave : Leave) (amount : Decimal) (e : Failure) :
    Moves i address source (.priced leave amount) (.enter .create) (.error e) .over
  | createClock (leave : Leave) (amount : Decimal) (now : Moment) :
    Moves i address source (.priced leave amount) .now (.ok now) (.dated leave amount now)
  | createClockFails (leave : Leave) (amount : Decimal) (e : Failure) :
    Moves i address source (.priced leave amount) .now (.error e) .over
  | insert (leave : Leave) (amount : Decimal) (now : Moment) (sats : Int) (row : Row)
    (worth : Money.toSats amount = .ok sats) :
    Moves i address source (.dated leave amount now)
      (.session (.insert (some address) source sats now)) (.ok (.ok row)) (.queued amount row)
  | insertTaken (leave : Leave) (amount : Decimal) (now : Moment) (sats : Int)
    (conflict : Conflict) :
    Moves i address source (.dated leave amount now)
      (.session (.insert (some address) source sats now)) (.ok (.error conflict)) .over
  | insertFails (leave : Leave) (amount : Decimal) (now : Moment) (sats : Int) (e : Failure) :
    Moves i address source (.dated leave amount now)
      (.session (.insert (some address) source sats now)) (.error e) .over
  | find (r : Except Failure (Option Row)) :
    Moves i address source .over (.session (.byAddress (some address))) r .over

/-- Only a request that has added its row answers that it is queued, and only one whose source has used
up its quota is told so. -/
def Ends : Stage → Except Failure Receipt → Prop
  | .queued amount _, .ok receipt => Receipt.accepted amount = .ok receipt
  | .limited, .ok receipt => receipt.queued = false
  | _, .ok receipt => receipt.queued = false ∧ receipt.refusal ≠ some .rateLimited
  | _, .error _ => True

/-- Where a request with an amount is that could not add its row. -/
def Unqueued (leave : Leave) (amount : Decimal) (s : Stage) : Prop :=
  s = .priced leave amount ∨ (∃ now, s = .dated leave amount now) ∨ s = .over

theorem Unqueued.ends {leave : Leave} {amount : Decimal} {s : Stage} (h : s.Unqueued leave amount)
    {receipt : Receipt} (unpaid : receipt.queued = false)
    (other : receipt.refusal ≠ some .rateLimited) : s.Ends (.ok receipt) := by
  rcases h with rfl | ⟨_, rfl⟩ | rfl
  · exact ⟨unpaid, other⟩
  · exact ⟨unpaid, other⟩
  · exact ⟨unpaid, other⟩

end Stage

open Job Stage

theorem admitted?_eq (i : Intake) (source : Text) :
    i.admitted? source = (i.quota.allows source none).attempt fun
      | .ok allowed => .done (some allowed)
      | .error e =>
        if e.isStore then do
          Job.log .error ("Rate limit lookup failed for " ++ source ++ ": " ++ e.message)
          return none
        else .fail e := by
  refine (rescue_bind_bind _ _ _ _).trans (congrArg _ (funext fun o => ?_))
  cases o with
  | ok allowed => rfl
  | error e => dsimp only; split <;> rfl

theorem amount_eq (i : Intake) (tier : Option Int) :
    i.amount tier = (i.tiers.pick tier).attempt fun
      | .ok amount => .done (.ok amount)
      | .error (.tier message) => .done (.error message)
      | .error e => .fail e := by
  refine (rescue_bind_bind _ _ _ _).trans (congrArg _ (funext fun o => ?_))
  cases o with
  | ok amount => rfl
  | error e => cases e <;> rfl

theorem queue_eq (address : Text) (amount : Decimal) (source : Text) :
    queue address amount source = (Store.create (some address) amount source).attempt fun
      | .ok _ => .done none
      | .error (.store (.duplicate _)) => .done (some .duplicateAddress)
      | .error (.store fault) => do
        Job.log .error ("Failed to create transaction: " ++ (Failure.store fault).message)
        return some .internal
      | .error e => .fail e := by
  refine (rescue_bind_bind _ _ _ _).trans (congrArg _ (funext fun o => ?_))
  cases o with
  | ok row => rfl
  | error e =>
    cases e with
    | store fault => cases fault <;> rfl
    | _ => rfl

section
variable (i : Intake) (address source : Text)

theorem allows_follows :
    (i.quota.allows source none).Follows (Moves i address source)
      (fun s outcome => match outcome with
        | .ok true => ∃ leave, s = .admitted leave
        | .ok false => s = .limited
        | .error _ => s = .over)
      (first i source) := by
  unfold Quota.allows first
  split
  · exact ⟨none, rfl⟩
  · rename_i limited
    intro read
    cases read with
    | error e => exact ⟨_, .clockFails e, rfl⟩
    | ok now =>
      refine ⟨_, .clock now limited, ?_⟩
      unfold ofClock
      change Follows _ _ _ ((Job.ofExcept (Moment.before now i.quota.window)).bind _)
      cases Moment.before now i.quota.window with
      | error e => rfl
      | ok since =>
        intro entered
        cases entered with
        | error e => exact ⟨_, .enterCountFails now since e, rfl⟩
        | ok _ =>
          refine ⟨_, .enterCount now since, ?_⟩
          intro found
          cases found with
          | error e => exact ⟨_, .countFails now since e, rfl⟩
          | ok n =>
            refine ⟨_, .count now since n, ?_⟩
            unfold ofCount
            change Follows _ _ _ (if i.quota.most ≤ n then _ else _)
            split
            · exact fun _ => ⟨_, .log _ _ _, rfl⟩
            · exact ⟨_, rfl⟩

theorem admitted?_follows :
    (i.admitted? source).Follows (Moves i address source)
      (fun s outcome => match outcome with
        | .ok (some true) => ∃ leave, s = .admitted leave
        | .ok (some false) => s = .limited
        | .ok none | .error _ => s = .over)
      (first i source) := by
  rw [admitted?_eq]
  refine follows_attempt (allows_follows i address source) fun s outcome h => ?_
  match outcome with
  | .ok true => exact h
  | .ok false => exact h
  | .error e =>
    dsimp only
    split
    · exact fun _ => ⟨_, .log _ _ _, h⟩
    · exact h

variable (leave : Leave)

theorem rounded_amount {t : Tier} {n : Int} {amount : Decimal} (h : t.amount n = .ok amount) :
    Rounded amount := by
  obtain ⟨extra, _, h⟩ := bind_eq_ok.mp h
  obtain ⟨x, _, rounded⟩ := bind_eq_ok.mp h
  exact ⟨x, rounded⟩

theorem pick_follows (tier : Option Int) :
    (i.tiers.pick tier).Follows (Moves i address source)
      (fun s outcome => match outcome with
        | .ok amount => s = .priced leave amount
        | .error _ => s = .admitted leave ∨ s = .over)
      (.admitted leave) := by
  unfold TierPolicy.pick
  change Follows _ _ _ ((Job.ofExcept (i.tiers.resolve tier)).bind _)
  cases i.tiers.resolve tier with
  | error e => exact .inl rfl
  | ok t =>
    change Follows _ _ _ ((Job.ofExcept t.width).bind _)
    cases t.width with
    | error e => exact .inl rfl
    | ok width =>
      change Follows _ _ _ (if width ≤ 0 then _ else _)
      split
      · exact .inl rfl
      · intro n
        change ∃ s', _ ∧ Follows _ _ s' (Job.ofArithmetic (t.amount n.val))
        cases drawn : t.amount n.val with
        | error fault => exact ⟨_, .drawFails leave _ n, .inr rfl⟩
        | ok amount => exact ⟨_, .draw leave _ n amount (rounded_amount drawn), rfl⟩

theorem amount_follows (tier : Option Int) :
    (i.amount tier).Follows (Moves i address source)
      (fun s (outcome : Except Failure (Except Text Decimal)) => match outcome with
        | .ok (.ok amount) => s = .priced leave amount
        | .ok (.error _) | .error _ => s = .admitted leave ∨ s = .over)
      (.admitted leave) := by
  rw [amount_eq]
  refine follows_attempt (pick_follows i address source leave tier) fun s outcome h => ?_
  cases outcome with
  | ok amount => exact h
  | error e => cases e <;> exact h

theorem create_follows (amount : Decimal) :
    (Store.create (some address) amount source).Follows (Moves i address source)
      (fun s outcome => match outcome with
        | .ok row => s = .queued amount row
        | .error _ => s.Unqueued leave amount)
      (.priced leave amount) := by
  intro entered
  cases entered with
  | error e => exact ⟨_, .enterCreateFails leave amount e, .inr (.inr rfl)⟩
  | ok _ =>
    refine ⟨_, .enterCreate leave amount, ?_⟩
    change Follows _ _ _ ((Job.ofArithmetic (amount.le .zero)).bind _)
    cases amount.le .zero with
    | error fault => exact .inl rfl
    | ok low =>
      cases low with
      | true => exact .inl rfl
      | false =>
        intro read
        cases read with
        | error e => exact ⟨_, .createClockFails leave amount e, .inr (.inr rfl)⟩
        | ok now =>
          refine ⟨_, .createClock leave amount now, ?_⟩
          change Follows _ _ _ ((Job.ofExcept (Money.toSats amount)).bind _)
          cases worth : Money.toSats amount with
          | error e => exact .inr (.inl ⟨now, rfl⟩)
          | ok sats =>
            intro inserted
            match inserted with
            | .error e => exact ⟨_, .insertFails leave amount now sats e, .inr (.inr rfl)⟩
            | .ok (.ok row) => exact ⟨_, .insert leave amount now sats row worth, rfl⟩
            | .ok (.error conflict) =>
              refine ⟨_, .insertTaken leave amount now sats conflict, fun found => ?_⟩
              refine ⟨_, .find found, ?_⟩
              match found with
              | .error e | .ok none | .ok (some other) => exact .inr (.inr rfl)

theorem queue_follows (amount : Decimal) :
    (queue address amount source).Follows (Moves i address source)
      (fun s outcome => match outcome with
        | .ok none => ∃ row, s = .queued amount row
        | .ok (some refusal) => s.Unqueued leave amount ∧ refusal ≠ .rateLimited
        | .error _ => s.Unqueued leave amount)
      (.priced leave amount) := by
  rw [queue_eq]
  refine follows_attempt (create_follows i address source leave amount) fun s outcome h => ?_
  cases outcome with
  | ok row => exact ⟨row, h⟩
  | error e =>
    cases e with
    | store fault =>
      cases fault with
      | duplicate => exact ⟨h, nofun⟩
      | _ => exact fun _ => ⟨_, .log _ _ _, h, nofun⟩
    | _ => exact h

end

theorem submit_follows (i : Intake) {t address : Text} (valid : Address.validate t = .ok address)
    (tier : Option Int) (source : Text) :
    (i.submit t tier source).Follows (Moves i address source) Ends (first i source) := by
  unfold submit
  rw [valid]
  refine follows_bind (admitted?_follows i address source) (fun s admitted h => ?_) fun s e h => ?_
  · match admitted with
    | none =>
      subst h
      exact ⟨rfl, nofun⟩
    | some false =>
      subst h
      exact rfl
    | some true =>
      obtain ⟨leave, rfl⟩ := h
      refine follows_bind (amount_follows i address source leave tier) (fun s drawn h => ?_)
        fun s e h => by rcases h with rfl | rfl <;> trivial
      cases drawn with
      | error message =>
        rcases h with rfl | rfl
        · exact ⟨rfl, nofun⟩
        · exact ⟨rfl, nofun⟩
      | ok amount =>
        subst h
        refine follows_bind (queue_follows i address source leave amount) (fun s refusal h => ?_)
          fun s e h => by rcases h with rfl | ⟨_, rfl⟩ | rfl <;> trivial
        cases refusal with
        | some refusal =>
          obtain ⟨unqueued, other⟩ := h
          cases refusal with
          | rateLimited => exact absurd rfl other
          | _ => exact unqueued.ends rfl nofun
        | none =>
          obtain ⟨row, rfl⟩ := h
          refine fun _ => ⟨_, .log _ _ _, ?_⟩
          change Follows _ _ _ (Job.ofExcept (Receipt.accepted amount))
          cases answer : Receipt.accepted amount with
          | error e => trivial
          | ok receipt => exact answer
  · subst h
    trivial

end Intake

end Faucet
