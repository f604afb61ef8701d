import Faucet.Proofs.Encodable
import Faucet.Proofs.Magnitude
import Faucet.Proofs.Marks
import Faucet.Proofs.Wire

/-!
The outcome of a cycle by itself. Every call to the ledger may fail and every payment may come out
either way, and yet each payout is dealt with as if it were the only one.
-/

set_option autoImplicit false

namespace Faucet

/-- What may come of a call for a payment: a transaction, a foreseen failure whose message the
ledger takes, or any defect. The name of a class can always be written down. -/
def Batch.Admissible : Except Failure Text → Prop
  | .ok txid => txid.Storable
  | .error (.defect d) => d.name.isEncodable = true
  | .error e => e.message.Storable

/-- A wallet that tells finite balances or fails in a way that is foreseen. -/
structure Reaction.Sound (ρ : Reaction) : Prop where
  balances : match ρ.wallet .balances with
    | .ok t => t.trusted.Within 19 ∧ t.untrusted.Within 19
    | .error e => e.isForeseen = true
  payments : ∀ outputs rate inputs, Batch.Admissible (ρ.wallet (.broadcast outputs rate inputs))

namespace Reaction

variable {ρ : Reaction} {d : Database} {l : Ledger} {e : Failure}

theorem enter_error {m : StoreMethod} (done : (ρ.answer d (.enter m)).1 = .error e) :
    ∃ fault, e = .store fault := by
  unfold answer at done
  cases h : ρ.fault with
  | none => rw [h] at done; cases done
  | some fault =>
    rw [h] at done
    cases done
    exact ⟨fault, rfl⟩

theorem session_error (hold : d.Holds l) {s : Statement} (hb : Database.bind s = .ok ())
    {a : s.Answer} (ha : (Database.perform l s).1 = .ok a)
    (done : (ρ.answer d (.session s)).1 = .error e) : ∃ fault, e = .store fault := by
  unfold answer at done
  cases h : ρ.fault with
  | none =>
    rw [h] at done
    dsimp only at done
    rw [hold.run_ok hb, ha] at done
    cases done
  | some fault =>
    rw [h] at done
    cases done
    exact ⟨fault, rfl⟩

end Reaction

namespace Batch

theorem Admissible.storable {payment : Except Failure Text} (h : Admissible payment) :
    (endText payment).Storable := by
  cases payment with
  | ok txid => exact h
  | error e =>
    cases e with
    | defect d => exact storable_errorText_defect h
    | _ => exact h

/-- An episode that the ledger alone kept from its end. -/
def Episode.Regular : Episode → Prop
  | .passed _ cause => ∃ fault, cause = some (.store fault)
  | .closed _ _ _ (.done _) => True
  | .closed _ _ _ (.refused e) => ∃ fault, e = .store fault
  | .closed _ _ _ .late | .closed _ _ _ (.barred _) => False

def Stage.Regular (b : Batch) (l : Ledger) : Stage → Prop
  | .listing => True
  | .listed rows needed =>
    rows = b.due l ∧ Decimal.sum (rows.map Row.amount) = .ok needed ∧ needed.Within 39
  | .ready past rest => b.Serves l Episode.Regular past rest
  | .claiming past r rest | .claimed past r _ rest | .calling past r _ _ rest =>
    b.Serves l Episode.Regular past (r :: rest)
  | .paid past r _ payment rest | .closing past r _ payment rest =>
    b.Serves l Episode.Regular past (r :: rest) ∧ (endText payment).Storable
  | .finished report => report.skipped ≠ none ∨ report = {} ∧ b.due l = []
  | .raised .. => False

section
variable {b : Batch} {l : Ledger} {past : List Episode} {r : Row} {rest : List Row}
  {moment : Moment} {payment : Except Failure Text} {e : Failure}

theorem Serves.unclaimed (h : b.Serves l Episode.Regular past (r :: rest))
    (he : ∃ fault, e = .store fault) : (Stage.unclaimed past r rest e).Regular b l := by
  obtain ⟨fault, rfl⟩ := he
  exact h.snoc rfl ⟨fault, rfl⟩

theorem Serves.unclosed (h : b.Serves l Episode.Regular past (r :: rest))
    (he : ∃ fault, e = .store fault) :
    (Stage.unclosed past r moment payment rest e).Regular b l := by
  obtain ⟨fault, rfl⟩ := he
  exact h.snoc rfl ⟨fault, rfl⟩

end

section
variable {b : Batch} {l : Ledger} {ρ : Reaction} {d : Database}

theorem Stage.regular_ofRows (bound : ∀ t ∈ l, Database.holdsInteger t.sats = true)
    {rows : List Row} (hrows : rows = b.due l) : (ofRows rows).Regular b l := by
  cases rows with
  | nil => exact .inr ⟨rfl, hrows.symm⟩
  | cons r rest =>
    have amounts : ∀ x ∈ (r :: rest).map Row.amount, x.Within (39 - 28) := by
      intro x hx
      obtain ⟨t, ht, rfl⟩ := List.mem_map.mp hx
      rw [hrows] at ht
      have held := (Database.holdsInteger_iff t.sats).mp (bound t (Ledger.mem_list ht).1)
      exact Decimal.ofSats_within (k := 19) (by omega)
    obtain ⟨needed, hneeded, within⟩ := Decimal.sum_within (by omega) (by omega) amounts
    unfold ofRows
    dsimp only
    rw [hneeded]
    exact ⟨hrows, hneeded, within⟩

theorem Stage.regular_ofBalances {rows : List Row} {needed : Decimal} (hrows : rows = b.due l)
    (hneeded : needed.Within 39) {answer : Except Failure Balances}
    (sound : match answer with
      | .ok t => t.trusted.Within 19 ∧ t.untrusted.Within 19
      | .error e => e.isForeseen = true) : (ofBalances rows needed answer).Regular b l := by
  cases answer with
  | error e =>
    unfold ofBalances
    dsimp only
    rw [if_pos sound]
    exact .inl nofun
  | ok t =>
    obtain ⟨available, ha, within⟩ := Balances.available_within sound.1 sound.2
    obtain ⟨short, hshort⟩ := Decimal.lt_within within hneeded
    unfold ofBalances
    dsimp only
    rw [ha]
    dsimp only
    rw [hshort]
    cases short with
    | true => exact .inl nofun
    | false => exact hrows ▸ Serves.nil b l Episode.Regular

theorem Stage.Moves.regular (sound : ρ.Sound) (size : Database.bind
      (.list (some .pending) (some ⟨.id, false⟩) (some b.size)) = .ok ()) (k : l.Keyed)
    (fits : ∀ t ∈ l, Database.holdsInteger t.id = true ∧ Database.holdsInteger t.sats = true)
    {s s' : Stage} {q : Query} {r : q.Answer} (m : Moves b s q r s') (h : s.Regular b l)
    (hold : d.Holds (l.map s.settle)) (done : (ρ.answer d q).1 = r) : s'.Regular b l := by
  cases m with
  | log | notify | enterList | claimClock | endClock => exact h
  | enterListFails e =>
    obtain ⟨fault, rfl⟩ := Reaction.enter_error done
    exact .inl nofun
  | list rows =>
    refine regular_ofRows (fun t ht => (fits t ht).2) ?_
    have listed := (ρ.list_ok hold (Prod.ext done rfl)).1
    rwa [show l.map listing.settle = l from List.map_id l] at listed
  | listFails e =>
    obtain ⟨fault, rfl⟩ := Reaction.session_error hold size rfl done
    exact .inl nofun
  | balances rows needed answer =>
    cases done
    exact regular_ofBalances h.1 h.2.2 sound.balances
  | enterClaim | claim => exact h
  | enterClaimFails => exact h.unclaimed (Reaction.enter_error done)
  | claimClockFails | endClockFails => cases done
  | claimLate past x rest moment => cases Serves.claim_won h k hold done
  | claimFails past x rest moment e =>
    refine h.unclaimed (Reaction.session_error hold ?_ rfl done)
    exact if_pos (fits x h.mem.1).1
  | payment past x moment rest =>
    exact ofPayment_cases past x moment rest (fun _ refused => ⟨h, storable_of_outputs refused⟩)
      fun _ _ => h
  | call past x moment outputs rest answer =>
    cases done
    exact ⟨h, (sound.payments _ _ _).storable⟩
  | enterEnd past x moment payment rest =>
    unfold ofEntry
    rw [(permit_endOf x payment).mpr h.2.1]
    exact h
  | enterEndFails => exact h.1.unclosed (Reaction.enter_error done)
  | close => exact h.1.snoc rfl trivial
  | closeLate past x moment payment rest => cases h.1.end_won k hold done
  | closeFails past x moment payment rest now e =>
    refine h.1.unclosed (Reaction.session_error hold ?_ rfl done)
    exact (bind_endOf (fits x h.1.mem.1).1 payment now).mpr h.2.2

end

/-- Answers for which a cycle is skipped, and what is reported then: the listing fails, or the balances
cannot be read or are less than all that is due. -/
inductive Hinders (due : List Row) : (q : Query) → q.Answer → Text → Prop
  | unentered (e : Failure) :
    Hinders due (.enter .list) (.error e) ("store unavailable: " ++ e.message)
  | unlisted {status : Option Status} {order : Option Order} {limit : Option Int} (e : Failure) :
    Hinders due (.session (.list status order limit)) (.error e)
      ("store unavailable: " ++ e.message)
  | unread (e : Failure) :
    Hinders due (.wallet .balances) (.error e) ("balance unavailable: " ++ e.message)
  | short {found : Balances} {available needed : Decimal} (own : found.available = .ok available)
    (all : Decimal.sum (due.map Row.amount) = .ok needed) (less : available.lt needed = .ok true) :
    Hinders due (.wallet .balances) (.ok found) (shortfall available needed due.length)

def Stage.reason? : Stage → Option Text
  | .finished report => report.skipped
  | _ => none

section
variable {b : Batch} {l : Ledger}

theorem Stage.reason?_unlisted {e : Failure} (h : (unlisted e).Regular b l) (reason : Text) :
    (unlisted e).reason? = some reason ↔ "store unavailable: " ++ e.message = reason := by
  unfold unlisted at h ⊢
  split at h
  · rw [if_pos ‹_›]
    exact Option.some_inj
  · exact h.elim

theorem hinders_balances_iff {due : List Row} {found : Balances} {available needed : Decimal}
    (own : found.available = .ok available)
    (all : Decimal.sum (due.map Row.amount) = .ok needed) (reason : Text) :
    Hinders due (.wallet .balances) (.ok found) reason ↔
      available.lt needed = .ok true ∧ shortfall available needed due.length = reason := by
  constructor
  · intro hinders
    cases hinders with
    | short own' all' less =>
      cases own.symm.trans own'
      cases all.symm.trans all'
      exact ⟨less, rfl⟩
  · rintro ⟨less, rfl⟩
    exact .short own all less

theorem Stage.reason?_ofBalances {rows : List Row} {needed : Decimal}
    {answer : Except Failure Balances} (all : Decimal.sum (rows.map Row.amount) = .ok needed)
    (h : (ofBalances rows needed answer).Regular b l) (reason : Text) :
    (ofBalances rows needed answer).reason? = some reason ↔
      Hinders rows (.wallet .balances) answer reason := by
  unfold ofBalances at h ⊢
  cases answer with
  | error e =>
    dsimp only at h ⊢
    split at h
    · rw [if_pos ‹_›]
      constructor
      · rintro ⟨⟩
        exact .unread e
      · rintro ⟨⟩
        rfl
    · exact h.elim
  | ok found =>
    dsimp only at h ⊢
    cases own : found.available with
    | error fault =>
      rw [own] at h
      exact h.elim
    | ok available =>
      rw [own] at h
      rw [hinders_balances_iff own all]
      dsimp only at h ⊢
      cases less : available.lt needed with
      | error fault =>
        rw [less] at h
        exact h.elim
      | ok short =>
        cases short with
        | true => exact Option.some_inj.trans (and_iff_right rfl).symm
        | false => exact iff_of_false nofun fun ⟨less, _⟩ => nomatch less

theorem Stage.Moves.reason {s s' : Stage} {q : Query} {r : q.Answer} (m : Moves b s q r s')
    (h : s.Regular b l) (h' : s'.Regular b l) (reason : Text) :
    s'.reason? = some reason ↔ s.reason? = some reason ∨ Hinders (b.due l) q r reason := by
  have other (before : s.reason? = none) (after : s'.reason? = none)
      (free : ¬Hinders (b.due l) q r reason) :
      s'.reason? = some reason ↔ s.reason? = some reason ∨ Hinders (b.due l) q r reason := by
    rw [before, after]
    exact iff_of_false nofun (not_or.mpr ⟨nofun, free⟩)
  cases m with
  | log | notify => exact (or_iff_left nofun).symm
  | enterListFails e =>
    rw [reason?_unlisted h', or_iff_right nofun]
    constructor
    · rintro rfl
      exact .unentered e
    · rintro ⟨⟩
      rfl
  | listFails e =>
    rw [reason?_unlisted h', or_iff_right nofun]
    constructor
    · rintro rfl
      exact .unlisted e
    · rintro ⟨⟩
      rfl
  | list rows =>
    exact other rfl (ofRows_cases rows (fun _ => rfl) (fun _ => rfl) fun _ => rfl) nofun
  | balances rows needed answer =>
    obtain ⟨rfl, all, -⟩ := h
    rw [reason?_ofBalances all h', or_iff_right nofun]
  | enterList | enterClaim | claimClock | claim | claimLate | call | endClock | close | closeLate =>
    exact other rfl rfl nofun
  | enterClaimFails past x rest e | claimClockFails past x rest e | claimFails past x rest _ e =>
    exact other rfl (unclaimed_cases past x rest e rfl rfl) nofun
  | payment past x moment rest =>
    exact other rfl (ofPayment_cases past x moment rest (fun _ _ => rfl) fun _ _ => rfl) nofun
  | enterEnd past x moment payment rest =>
    exact other rfl (ofEntry_cases past x moment payment rest (fun _ _ => rfl) fun _ => rfl) nofun
  | enterEndFails past x moment payment rest e | endClockFails past x moment payment rest e
  | closeFails past x moment payment rest _ e =>
    exact other rfl (unclosed_cases past x moment payment rest e rfl rfl) nofun

end

/-- What becomes of the row of a payout: it stays as it is if its claim fails, it ends as its
payment did, or it stays claimed because the ledger could not take its end. -/
def Episode.Leaves : Episode → Row → Prop
  | .passed r cause, t => (∃ fault, cause = some (.store fault)) ∧ t = r
  | .closed r claimed payment closing, t => match closing with
    | .done now => match payment with
      | .ok txid => t = { r with status := .broadcast, txid := some txid, updated := now }
      | .error e => t = { r with status := .failed, error := some (errorText e), updated := now }
    | .refused e =>
      (∃ fault, e = .store fault) ∧ t = { r with status := .processing, updated := claimed }
    | .late | .barred _ => False

/-- What a cycle did that was not skipped, payout by payout. -/
structure Handled (b : Batch) (l : Ledger) (past : List Episode) (out : Scene) : Prop where
  oldest : l.Oldest b.size.toNat (past.map Episode.row)
  marks : out.marks = past.flatMap (Episode.marks b)
  explained : ∀ e ∈ past, e.Explained b
  leaves : ∀ e ∈ past, e.Leaves (settleAll past e.row)
  others : ∀ t, (∀ e ∈ past, e.row.id ≠ t.id) → settleAll past t = t
  table : out.database.rows = l.map (settleAll past)

theorem Episode.Regular.leaves {e : Episode} (h : e.Regular) : e.Leaves (e.settle e.row) := by
  cases e with
  | passed r cause => exact ⟨h, rfl⟩
  | closed r claimed payment closing =>
    have claim : claimRow r claimed r = { r with status := .processing, updated := claimed } :=
      if_pos rfl
    cases closing with
    | late | barred => exact h.elim
    | refused e => exact ⟨h, claim⟩
    | done now =>
      have ended : settle (.closed r claimed payment (.done now)) r =
          (endOf r payment).row now { r with status := .processing, updated := claimed } := by
        unfold settle
        dsimp only
        rw [claim]
        exact if_pos rfl
      cases payment with
      | ok txid => exact ended
      | error e => exact ended

structure Stage.Tells (b : Batch) (l : Ledger) (s : Stage) (c : Scene) : Prop where
  holds : c.database.Holds (l.map s.settle)
  marks : c.marks = s.marks b
  explained : s.Explained b
  regular : s.Regular b l
  reasons : ∀ reason, s.reason? = some reason ↔
    ∃ x ∈ c.log, Hinders (b.due l) x.query x.answer reason

theorem Stage.tells_listing (b : Batch) {l : Ledger} {d : Database} (hold : d.Holds l) :
    listing.Tells b l { database := d } where
  holds := by rwa [show l.map listing.settle = l from List.map_id l]
  marks := rfl
  explained := trivial
  regular := trivial
  reasons _ := iff_of_false nofun fun ⟨_, here, _⟩ => List.not_mem_nil here

theorem Stage.Tells.handled {b : Batch} {l : Ledger} {past : List Episode} {out : Scene}
    (t : (Stage.ready past []).Tells b l out) (positive : 0 < b.size) (k : l.Keyed) :
    b.Handled l past out := by
  have rows : past.map Episode.row = b.due l := by
    have split := t.regular.split
    rwa [List.append_nil] at split
  constructor
  · rw [rows]
    exact k.oldest_list positive
  · exact t.marks
  · exact t.explained
  · intro e he
    rw [Serves.settle_eq t.regular k he]
    exact (t.regular.kind e he).leaves
  · exact fun u apart => settleAll_other apart
  · exact t.holds.rows_eq

/-- For every table, every choice of the store calls that fail and every outcome of every payment: a
cycle does not raise, and unless it is skipped it deals with each payout by itself. It is skipped
exactly if an answer that it got hinders it, and tells why. -/
theorem cycle_outcome {b : Batch} (positive : 0 < b.size)
    (size : Database.holdsInteger b.size = true) {d : Database} {l : Ledger} (hold : d.Holds l)
    (k : l.Keyed)
    (fits : ∀ t ∈ l, Database.holdsInteger t.id = true ∧ Database.holdsInteger t.sats = true)
    {env : Nat → Reaction} (sound : ∀ n, (env n).Sound) :
    ∃ report out, b.cycle.play env { database := d } = (.ok report, out) ∧
      (∀ reason, report.skipped = some reason ↔
        ∃ x ∈ out.log, Hinders (b.due l) x.query x.answer reason) ∧
      (report.skipped ≠ none ∧ out.marks = [] ∧ out.database.rows = l ∨
        ∃ past, b.Handled l past out ∧ report = tally past) := by
  have bound : Database.bind (.list (some .pending) (some ⟨.id, false⟩) (some b.size)) = .ok () :=
    (if_pos positive).trans (if_pos size)
  have step : ∀ (s : Stage) (c : Scene) (q : Query) (s' : Stage), s.Tells b l c →
      Stage.Moves b s q ((env c.log.length).answer c.database q).1 s' →
      s'.Tells b l (c.asked (env c.log.length) q) := by
    intro s c q s' t m
    have regular := m.regular (sound _) bound k fits t.regular t.holds rfl
    refine ⟨m.holds k t.holds rfl, ?_, m.explained t.explained, regular, fun reason => ?_⟩
    · rw [Scene.marks_asked, t.marks, m.marks t.explained (Reaction.given ..)]
    · rw [m.reason t.regular regular, t.reasons]
      rw [Scene.asked, List.exists_mem_cons_iff, or_comm]
  -- What is left is to read the outcome off the stage at which the cycle ends.
  obtain ⟨s, ends, told⟩ := Job.play_keeps env step (cycle_follows b) (Stage.tells_listing b hold)
  generalize played : b.cycle.play env { database := d } = outcome at ends told
  obtain ⟨result, out⟩ := outcome
  cases result with
  | error e =>
    cases s with
    | raised before e' => exact told.regular.elim
    | ready past rest => cases rest <;> exact ends.elim
    | _ => exact ends.elim
  | ok report =>
    have skipped : report.skipped = s.reason? := by
      cases s with
      | ready past rest =>
        cases rest with
        | nil => exact congrArg CycleReport.skipped ends
        | cons r rest => exact ends.elim
      | finished stated => exact congrArg CycleReport.skipped ends
      | _ => exact ends.elim
    refine ⟨report, out, rfl, skipped ▸ told.reasons, ?_⟩
    cases s with
    | ready past rest =>
      cases rest with
      | nil => exact .inr ⟨past, told.handled positive k, ends⟩
      | cons r rest => exact ends.elim
    | finished stated =>
      obtain rfl : report = stated := ends
      have rows : out.database.rows = l := told.holds.rows_eq.trans (List.map_id l)
      rcases told.regular with skipped | ⟨rfl, none⟩
      · exact .inl ⟨skipped, told.marks, rows⟩
      · have nobody : (Stage.ready [] []).Tells b l out :=
          ⟨told.holds, told.marks, fun e he => (List.not_mem_nil he).elim,
            ⟨none.symm, fun e he => (List.not_mem_nil he).elim⟩, told.reasons⟩
        exact .inr ⟨[], nobody.handled positive k, rfl⟩
    | _ => exact ends.elim

/-! A batch of two, where the node refuses the first payout and the ledger fails as the second one
is recorded. -/

def mixedRow (id : Int) (address : Text) : Row := Ledger.newRow id address "web" 200000 0

def mixedReaction (n : Nat) : Reaction where
  fault := if n = 21 then some (.database .cannotOpen) else none
  clock := 0
  wallet
    | .balances => .ok { trusted := .finite false 1 0 }
    | .broadcast outputs _ _ =>
      if (outputs.map Prod.fst).contains "tb1qfirst" then .error (.node "send" .unsigned)
      else .ok "aa"
    | _ => .error (.faucet "not asked")
  reply := .error (.faucet "not asked")
  number := 0
  purse := .zero

theorem mixedReaction_sound (n : Nat) : (mixedReaction n).Sound where
  balances := by
    constructor
    · change ((1 : Nat) : ℚ) * 10 ^ (0 : Int) ≤ 10 ^ (19 : Int)
      norm_num
    · exact Decimal.within_zero false 0 19
  payments := by
    intro outputs rate inputs
    dsimp only [mixedReaction]
    split
    · exact ⟨by decide, by decide⟩
    · exact ⟨by decide, by decide⟩

def mixedRows : Ledger := [mixedRow 1 "tb1qfirst", mixedRow 2 "tb1qsecond"]

def mixedBatch : Batch := { size := 2, memo := [] }

theorem mixedBatch_due : mixedBatch.due mixedRows = mixedRows := by
  have ordered : mixedRows.mergeSort
      (fun a b => decide (Order.keyOf .id a ≤ Order.keyOf .id b)) = mixedRows :=
    List.mergeSort_of_pairwise (by decide)
  exact congrArg (List.take 2) ordered

theorem cycle_outcome_mixed : ∃ out past,
    mixedBatch.cycle.play mixedReaction { database := { table := some mixedRows } } =
      (.ok { size := 2, sent := 1, failed := 1 }, out) ∧
    mixedBatch.Handled mixedRows past out ∧
    out.database.rows.map Row.status = [.failed, .processing] := by
  let s : Scene := { database := { table := some mixedRows } }
  let s' : Scene := (s.asked (mixedReaction 0) (.enter .list)).asked (mixedReaction 1)
    (.session (.list (some .pending) (some ⟨.id, false⟩) (some 2)))
  have listed : mixedBatch.pending.play mixedReaction s = (.ok (.ok mixedRows), s') := by
    have found : mixedBatch.pending.play mixedReaction s =
      (.ok (.ok (mixedBatch.due mixedRows)), s') := rfl
    rw [found, mixedBatch_due]
  have told : Prod.map Except.toOption (·.database.rows.map Row.status)
      (mixedBatch.cycle.play mixedReaction s) =
        (some { size := 2, sent := 1, failed := 1 }, [.failed, .processing]) := by
    change Prod.map _ _ (Job.play mixedReaction (mixedBatch.pending.bind _) s) = _
    rw [Job.play_bind listed]
    decide +kernel
  obtain ⟨report, out, played, -, outcome⟩ := cycle_outcome (b := mixedBatch)
    (by decide) (by decide) (d := { table := some mixedRows }) ⟨rfl, rfl, rfl⟩
    ⟨by decide, by decide⟩ (by decide) mixedReaction_sound
  rw [played] at told
  obtain ⟨⟨⟩, statuses⟩ := Prod.mk.inj told
  obtain ⟨skipped, -⟩ | ⟨past, handled, -⟩ := outcome
  · exact absurd rfl skipped
  · exact ⟨out, past, played, handled, statuses⟩

end Batch

end Faucet
