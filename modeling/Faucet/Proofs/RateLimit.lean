import Faucet.Proofs.Desk
import Faucet.Settings.Basic

/-!
How many payouts of one source there are in any window of time. A request looks at the window that
ends as it is made, and adds its row no earlier. Whatever window holds the new row starts no earlier
than the one that was looked at, so that its other rows have been counted.
-/

set_option autoImplicit false

namespace Faucet

theorem Moment.eq_of_before {m since : Moment} {window : Span} (h : m.before window = .ok since) :
    since = m - window := by
  unfold Moment.before ofMicroseconds at h
  split at h
  · exact (Except.ok.inj h).symm
  · cases h

namespace Ledger

theorem countFrom_eq (l : Ledger) (source : Text) (since : Moment) :
    l.countFrom source since = l.countP fun r => r.source = source && since < r.created :=
  List.countP_eq_length_filter.symm

/-- The payouts of a source in a window that ends at a moment, with it and without its start. -/
def countWithin (l : Ledger) (source : Text) (window : Span) (t : Moment) : Nat :=
  l.countP fun r => r.source = source && t - window < r.created && r.created ≤ t

theorem countWithin_le {l : Ledger} {source : Text} {window : Span} {since t : Moment}
    (h : since ≤ t - window) : l.countWithin source window t ≤ l.countFrom source since := by
  rw [countFrom_eq]
  refine List.countP_mono_left fun r _ inside => ?_
  simp only [Bool.and_eq_true, decide_eq_true_eq] at inside ⊢
  exact ⟨inside.1.1, Int.lt_of_le_of_lt h inside.1.2⟩

theorem countP_apply (l : Ledger) (c : Change) (now : Moment) {p : Row → Bool}
    (blind : ∀ r, p (c.row now r) = p r) : (l.apply c now).countP p = l.countP p := by
  unfold apply
  rw [List.countP_map]
  refine List.countP_congr fun r _ => ?_
  dsimp only [Function.comp]
  split
  · rw [blind]
  · rfl

end Ledger

namespace Edit.Accounts

variable {l l' : Ledger} {told : Option Edit} {p : Row → Bool}

/-- What does not depend on how far a payout is counts new rows only. -/
theorem countP_eq (h : Accounts l l' told) (blind : ∀ c now r, p (Ledger.Change.row c now r) = p r)
    (none : ∀ row, told ≠ some (.added row)) : l'.countP p = l.countP p := by
  match told, h with
  | .none, same =>
    obtain rfl : l' = l := same
    rfl
  | some (.added row), _ => exact absurd rfl (none row)
  | some (.changed c now), makes =>
    obtain ⟨_, _, rfl⟩ := makes
    exact l.countP_apply c now (blind c now)

theorem countP_added {row : Row} (h : Accounts l l' (some (.added row))) :
    l'.countP p = l.countP p + if p row then 1 else 0 := by
  obtain ⟨rfl, _⟩ := h
  rw [List.countP_append, List.countP_singleton]

end Edit.Accounts

namespace Crowd

open Intake (Stage Leave)
open Intake.Stage (Moves)

/-- Along a run every act keeps to terms at the store that it finds. -/
def Along (terms : Crowd → Act → Prop) : Crowd → List Act → Prop
  | _, [] => True
  | s, a :: acts => terms s a ∧ Along terms (s.step a) acts

theorem foldl_keeps {terms : Crowd → Act → Prop} {I : Crowd → Prop} {acts : List Act} {s : Crowd}
    (first : I s) (along : Along terms s acts)
    (step : ∀ s a s', terms s a → I s → s.Moved a s' → I s') : I (acts.foldl Crowd.step s) := by
  induction acts generalizing s with
  | nil => exact first
  | cons a acts ih => exact ih (step s a _ along.1 first (step_moved s a)) along.2

def Read (h : List Note) (i : Nat) (now : Moment) : Prop := ⟨i, .answered .now (.ok now)⟩ ∈ h

/-- Requests are made one at a time, all under one quota, and the clock does not go back during a
request. -/
def Orderly (quota : Quota) (s : Crowd) : Act → Prop
  | .start _ (.submit intake ..) => intake.quota = quota ∧ ∀ j, ¬s.Submits j
  | .turn i ρ => s.Asking i .now → ∀ now, Read s.history i now → now ≤ ρ.clock
  | _ => True

def OneByOne (s : Crowd) : Prop := ∀ i j, s.Submits i → s.Submits j → i = j

section
variable {on : Ground} {s s' : Crowd} {a : Act} {quota : Quota}

theorem Attended.submits_cases (attended : s.Attended on) (m : s.Moved a s') {i : Nat}
    (h : s'.Submits i) :
    s.Submits i ∨ ∃ intake t tier source, a = .start i (.submit intake t tier source) := by
  obtain ⟨q, intake, t, tier, source, next, here⟩ := h
  generalize process : Process.mk (.submit intake t tier source) (.ready (.ask q next)) = p at here
  cases m.became here with
  | left _ same _ => exact .inl ⟨q, intake, t, tier, source, next, process ▸ same ▸ here⟩
  | begun w own =>
    have work : .submit intake t tier source = w := congrArg Process.work process
    exact .inr ⟨intake, t, tier, source, work ▸ own⟩
  | quit w => cases process
  | calls w c next' asks => cases process
  | goes ρ w q' next' r own asks =>
    obtain rfl : .submit intake t tier source = w := congrArg Process.work process
    exact .inl ⟨q', intake, t, tier, source, next', asks⟩
  | resumes w c next' answer asks =>
    obtain rfl : .submit intake t tier source = w := congrArg Process.work process
    exact (attended i _ asks).elim

theorem OneByOne.moved (h : s.OneByOne) (attended : s.Attended on) (orderly : Orderly quota s a)
    (m : s.Moved a s') : s'.OneByOne := by
  intro i j hi hj
  rcases attended.submits_cases m hi with old | ⟨_, _, _, _, rfl⟩
  · rcases attended.submits_cases m hj with old' | ⟨_, _, _, _, rfl⟩
    · exact h i j old old'
    · exact absurd old (orderly.2 i)
  · rcases attended.submits_cases m hj with old' | ⟨_, _, _, _, eq⟩
    · exact absurd old' (orderly.2 j)
    · exact (Act.start.inj eq).1

end

/-- At a time that a request has read, its source had room in the window that ended then. -/
structure Counted (quota : Quota) (l : Ledger) (h : List Note) (i : Nat) (source : Text)
    (now since : Moment) : Prop where
  trailing : since = now - quota.window
  read : Read h i now
  room : (l.countFrom source since : Int) < quota.most

def Allowed (quota : Quota) (l : Ledger) (h : List Note) (i : Nat) (source : Text) : Leave → Prop
  | none => source ∈ quota.exempt
  | some (now, since) => Counted quota l h i source now since

def Grounds (quota : Quota) (l : Ledger) (h : List Note) (i : Nat) (source : Text) : Stage → Prop
  | .counting now since => since = now - quota.window ∧ Read h i now
  | .admitted leave | .priced leave _ => Allowed quota l h i source leave
  | .dated leave _ moment => Allowed quota l h i source leave ∧ ∀ p ∈ leave, p.1 ≤ moment
  | _ => True

section
variable {quota : Quota} {l l' : Ledger} {h h' : List Note} {i : Nat} {source : Text}

theorem Allowed.mono {leave : Leave} (allowed : Allowed quota l h i source leave)
    (same : ∀ since, l'.countFrom source since = l.countFrom source since) (sub : h ⊆ h') :
    Allowed quota l' h' i source leave := by
  match leave, allowed with
  | none, exempt => exact exempt
  | some (now, since), counted =>
    exact ⟨counted.trailing, sub counted.read, (same since).symm ▸ counted.room⟩

theorem Grounds.mono {st : Stage} (grounds : Grounds quota l h i source st)
    (same : ∀ since, l'.countFrom source since = l.countFrom source since) (sub : h ⊆ h') :
    Grounds quota l' h' i source st := by
  cases st with
  | counting now since => exact ⟨grounds.1, sub grounds.2⟩
  | admitted leave => exact Allowed.mono grounds same sub
  | priced leave => exact Allowed.mono grounds same sub
  | dated leave amount moment => exact ⟨Allowed.mono grounds.1 same sub, grounds.2⟩
  | _ => trivial

theorem Allowed.room {leave : Leave} (allowed : Allowed quota l h i source leave)
    (bound : source ∉ quota.exempt) {created t : Moment} (late : ∀ p ∈ leave, p.1 ≤ created)
    (reached : created ≤ t) : (l.countWithin source quota.window t : Int) < quota.most := by
  match leave, allowed with
  | none, exempt => exact absurd exempt bound
  | some (now, since), counted =>
    have before : now ≤ t := Int.le_trans (late _ rfl) reached
    have covered : since ≤ t - quota.window := counted.trailing ▸ Int.sub_le_sub_right before _
    have fewer : l.countWithin source quota.window t ≤ l.countFrom source since :=
      Ledger.countWithin_le covered
    have room : (l.countFrom source since : Int) < quota.most := Counted.room counted
    omega

theorem Grounds.moved {ρ : Reaction} {d d' : Database} {intake : Intake} {address : Text}
    {st st' : Stage} {q : Query} {r : q.Answer} (own : intake.quota = quota) (hold : d.Holds l)
    (grounds : Grounds quota l h i source st) (m : Moves intake address source st q r st')
    (done : ρ.answer d q = (r, d'))
    (later : q = .now → ∀ now, Read h i now → now ≤ ρ.clock) :
    Grounds quota d'.rows (⟨i, .answered q r⟩ :: h) i source st' := by
  subst own
  -- Nothing is changed up to the statement that adds the row.
  have same (lawful : q.Lawful) (silent : q.edit? r = none) : d'.rows = l := by
    have accounts := (ρ.accounts hold lawful done).2
    rw [silent] at accounts
    exact accounts
  have keeps (rows : d'.rows = l) (st : Stage) (grounds : Grounds intake.quota l h i source st) :
      Grounds intake.quota d'.rows (⟨i, .answered q r⟩ :: h) i source st :=
    grounds.mono (fun _ => by rw [rows]) (List.subset_cons_self _ _)
  cases m with
  | log | enterCount | enterCreate => exact keeps (same trivial rfl) _ grounds
  | clock now _ =>
    unfold Stage.ofClock
    split
    · rename_i since before
      exact ⟨Moment.eq_of_before before, List.mem_cons_self⟩
    · trivial
  | count now since n =>
    unfold Stage.ofCount
    split
    · trivial
    · rename_i room
      rcases ρ.session_cases hold (.countFrom (some source) since) with ⟨e, eq⟩ | eq
      · cases eq.symm.trans done
      · cases eq.symm.trans done
        exact ⟨grounds.1, List.mem_cons_of_mem _ grounds.2, Int.not_le.mp room⟩
  | draw leave most n amount => exact keeps (same trivial rfl) (.admitted leave) grounds
  | createClock leave amount now =>
    refine ⟨keeps (same trivial rfl) (.admitted leave) grounds, fun p hp => ?_⟩
    cases done
    obtain rfl : leave = some p := hp
    exact later rfl p.1 (Counted.read grounds)
  | _ => trivial

end

structure Limited (quota : Quota) (s : Crowd) : Prop where
  ruled : Ruled Accounted Proceeds s
  oneByOne : s.OneByOne
  grounded : s.Attended fun i intake _ source st => intake.quota = quota ∧
    (s.Submits i → Grounds quota s.rows s.history i source st)
  within : ∀ source ∉ quota.exempt, ∀ t,
    (s.rows.countWithin source quota.window t : Int) ≤ quota.most

namespace Limited

variable {quota : Quota} {s s' : Crowd} {a : Act}

theorem countFrom_still (h : Limited quota s) (m : s.Moved a s') {i : Nat} (submits : s.Submits i)
    (idle : ∀ ρ, a = .turn i ρ → s' = s) (source : Text) (since : Moment) :
    s'.rows.countFrom source since = s.rows.countFrom source since := by
  obtain ⟨told, accounts, added⟩ := h.ruled.accounts h.grounded m
  by_cases adds : ∃ row, told = some (.added row)
  · obtain ⟨row, rfl⟩ := adds
    obtain ⟨j, ρ, _, _, _, _, turn, submits', _⟩ := added row rfl
    obtain rfl := h.oneByOne i j submits submits'
    rw [idle ρ turn]
  · rw [Ledger.countFrom_eq, Ledger.countFrom_eq]
    exact accounts.countP_eq (fun _ _ _ => rfl) fun row eq => adds ⟨row, eq⟩

theorem grounded_moved (h : Limited quota s) (orderly : Orderly quota s a) (m : s.Moved a s') :
    s'.Attended fun i intake _ source st => intake.quota = quota ∧
      (s'.Submits i → Grounds quota s'.rows s'.history i source st) := by
  refine h.grounded.moved m ⟨?_, ?_, ?_⟩
  · rintro i intake t tier address source rfl
    obtain ⟨rfl, _⟩ := orderly
    refine ⟨rfl, fun _ => ?_⟩
    unfold Stage.first
    split
    · assumption
    · trivial
  · rintro i intake address source st unmoved idle ⟨own, grounds⟩
    refine ⟨own, fun ⟨q, intake, t, tier, source, next, here⟩ => ?_⟩
    have submits : s.Submits i := ⟨q, intake, t, tier, source, next, unmoved ▸ here⟩
    exact (grounds submits).mono (h.countFrom_still m submits idle _) m.history_subset
  · rintro i intake address source st q r st' ρ rfl asking m done history ⟨own, grounds⟩
    refine ⟨own, fun _ => ?_⟩
    rw [history]
    refine (grounds ⟨q, asking⟩).moved own h.ruled.sound.holds m done ?_
    rintro rfl
    exact orderly asking

theorem within_moved (h : Limited quota s) (m : s.Moved a s') {source : Text}
    (bound : source ∉ quota.exempt) (t : Moment) :
    (s'.rows.countWithin source quota.window t : Int) ≤ quota.most := by
  have before := h.within source bound t
  obtain ⟨told, accounts, added⟩ := h.ruled.accounts h.grounded m
  by_cases adds : ∃ row, told = some (.added row)
  · obtain ⟨row, rfl⟩ := adds
    obtain ⟨i, ρ, intake, address, leave, amount, _, submits, own, grounds⟩ := added row rfl
    obtain ⟨allowed, late⟩ := grounds submits
    have counted : s'.rows.countWithin source quota.window t = _ := accounts.countP_added
    rw [counted]
    split
    · rename_i inside
      simp only [Bool.and_eq_true, decide_eq_true_eq] at inside
      obtain ⟨⟨rfl, _⟩, reached⟩ := inside
      have room := Allowed.room allowed bound late reached
      unfold Ledger.countWithin at room
      omega
    · exact before
  · have same : s'.rows.countWithin source quota.window t =
        s.rows.countWithin source quota.window t :=
      accounts.countP_eq (fun _ _ _ => rfl) fun row eq => adds ⟨row, eq⟩
    rw [same]
    exact before

theorem moved (h : Limited quota s) (orderly : Orderly quota s a) (m : s.Moved a s') :
    Limited quota s' where
  ruled := h.ruled.moved accounted_rule (fun _ _ _ => trivial) m
  oneByOne := h.oneByOne.moved h.grounded orderly m
  grounded := h.grounded_moved orderly m
  within := fun _ bound t => h.within_moved m bound t

theorem first (lasting : Bool) (some : 0 ≤ quota.most) :
    Limited quota { database := { lasting, table := .some [] } } where
  ruled := ruled_run lasting []
  oneByOne := fun _ _ ⟨_, _, _, _, _, _, here⟩ => nomatch here
  grounded := fun _ _ here => nomatch here
  within := fun _ _ _ => some

end Limited

def Checked (intake : Intake) (source : Text) : Stage → Prop
  | .counting .. | .limited => source ∉ intake.quota.exempt
  | _ => True

theorem Checked.moved {intake : Intake} {address source : Text} {st st' : Stage} {q : Query}
    {r : q.Answer} (h : Checked intake source st) (m : Moves intake address source st q r st') :
    Checked intake source st' := by
  cases m with
  | log | enterCount => exact h
  | clock now bound =>
    unfold Stage.ofClock
    split
    · exact bound
    · trivial
  | count now since n =>
    unfold Stage.ofCount
    split
    · exact h
    · trivial
  | _ => trivial

theorem checked_run (d : Database) (acts : List Act) :
    (run d acts).Attended fun _ intake _ source st => Checked intake source st := by
  refine run_keeps (fun _ _ here => nomatch here) fun s a s' _ h m => h.moved m ⟨?_, ?_, ?_⟩
  · intro i intake t tier address source _
    unfold Stage.first
    split <;> trivial
  · exact fun _ _ _ _ _ _ _ => id
  · exact fun _ _ _ _ _ _ _ _ _ _ _ m _ _ h => h.moved m

theorem refusal_of_exempt {s : Crowd}
    (h : s.Attended fun _ intake _ source st => Checked intake source st) {i : Nat}
    {intake : Intake} {t source : Text} {tier : Option Int} {receipt : Receipt}
    (here : s.processes i = some ⟨.submit intake t tier source, .ready (.done receipt)⟩)
    (exempt : source ∈ intake.quota.exempt) : receipt.refusal ≠ some .rateLimited := by
  have stands := h i _ here
  unfold Upholds Stands at stands
  dsimp only at stands
  split at stands
  · obtain ⟨st, ended, checked⟩ := stands
    cases st with
    | queued amount row =>
      rw [Receipt.eq_of_accepted ended]
      exact nofun
    | limited => exact absurd exempt checked
    | _ => exact ended.2
  · cases stands
    exact nofun

/-- As long as requests are made one at a time and the clock does not go back during one, a source
that is not exempt has no more payouts than its quota in any window of a day, whenever it ends,
wherever the clock has been and whatever cycles and sweeps do in the meantime. An exempt source is
never told that its quota is used up, and settings never exempt the empty source. -/
theorem at_most_per_window :
    (∀ (most : Nat) (exempt : List Text) (lasting : Bool) (acts : List Act),
      Along (Orderly { most, exempt }) { database := { lasting, table := some [] } } acts →
        ∀ source ∉ exempt, ∀ t : Moment,
          (run { lasting, table := some [] } acts).rows.countWithin source (Span.hours 24) t ≤
            most) ∧
      (∀ (d : Database) (acts : List Act) i intake t tier source receipt,
        (run d acts).processes i = some ⟨.submit intake t tier source, .ready (.done receipt)⟩ →
          source ∈ intake.quota.exempt → receipt.refusal ≠ some .rateLimited) ∧
      ∀ settings : Settings, [] ∉ settings.exempt := by
  refine ⟨fun most exempt lasting acts along source bound t => ?_, ?_, fun settings listed => ?_⟩
  · have limited := foldl_keeps (Limited.first lasting (Int.natCast_nonneg most)) along
      fun s a s' orderly h m => h.moved orderly m
    exact Int.ofNat_le.mp (limited.within source bound t)
  · intro d acts i intake t tier source receipt here exempt
    exact refusal_of_exempt (checked_run d acts) here exempt
  · exact absurd rfl (of_decide_eq_true (List.mem_filter.mp listed).2)

/-! A request that is made while the clock stands still. -/

theorem along_turns {quota : Quota} {i : Nat} {ρ : Reaction} (n : Nat) {s : Crowd}
    (past : ∀ now, Read s.history i now → now ≤ ρ.clock) :
    Along (Orderly quota) s (List.replicate n (.turn i ρ)) := by
  induction n generalizing s with
  | zero => trivial
  | succ n ih =>
    refine ⟨fun _ => past, ih fun now read => ?_⟩
    have m := turn_moved s i ρ
    change Read (s.turn i ρ).history i now at read
    generalize s.turn i ρ = s' at m read
    cases m with
    | still => exact past now read
    | called | returned => exact past now ((List.mem_cons.mp read).resolve_left nofun)
    | answered _ _ w q next r d here atOnce done =>
      rcases List.mem_cons.mp read with new | old
      · cases new
        cases done
        exact Int.le_refl _
      · exact past now old

def onceRequested : List Act := .start 0 paidRequest :: List.replicate 8 (.turn 0 paidReaction)

def onceExempted : List Act :=
  .start 0 (.submit { paidIntake with quota := { most := 0, exempt := [[97]] } }
    ("tb1" ++ List.replicate 39 (97 : CodePoint)) none [97]) ::
      List.replicate 6 (.turn 0 paidReaction)

theorem at_most_per_window_once :
    (Along (Orderly { most := 1, exempt := [] }) { database := { table := some [] } } onceRequested ∧
      (run { table := some [] } onceRequested).rows.countWithin [] (Span.hours 24) 0 = 1 ∧
      (run { table := some [] } onceRequested).rows.countWithin [] (Span.hours 24) 0 ≤ 1) ∧
      ∃ intake t tier source receipt, (run { table := some [] } onceExempted).processes 0 =
          some ⟨.submit intake t tier source, .ready (.done receipt)⟩ ∧
        receipt.queued = true ∧ source ∈ intake.quota.exempt ∧
          receipt.refusal ≠ some .rateLimited := by
  have along : Along (Orderly { most := 1, exempt := [] }) { database := { table := some [] } }
      onceRequested :=
    ⟨⟨rfl, fun _ ⟨_, _, _, _, _, _, here⟩ => nomatch here⟩, along_turns 8 nofun⟩
  refine ⟨⟨along, by decide +kernel, at_most_per_window.1 1 [] false _ along [] nofun 0⟩, ?_⟩
  obtain ⟨intake, t, tier, source, receipt, here, kind⟩ :=
    exists_of_answers (fun intake source receipt => receipt.queued && source ∈ intake.quota.exempt)
      (p := (run { table := some [] } onceExempted).processes 0) (by decide +kernel)
  obtain ⟨queued, listed⟩ := Bool.and_eq_true_iff.mp kind
  have exempt : source ∈ intake.quota.exempt := of_decide_eq_true listed
  exact ⟨intake, t, tier, source, receipt, here, queued, exempt,
    at_most_per_window.2.1 _ onceExempted 0 intake t tier source receipt here exempt⟩

end Crowd

end Faucet
