import Faucet.Proofs.Encodable
import Faucet.Proofs.StoreFaults

/-!
What a sweep does to the ledger. It is a listing and then a transaction for each row that was listed,
and any of them may fail. Whatever fails, the rows that were reached are given up and no other row
changes; a later sweep finds the rest.
-/

set_option autoImplicit false

namespace Faucet

/-- A claimed payout that a sweep has failed. Nothing else about it changes. -/
def Row.GivenUp (r t : Row) : Prop :=
  ∃ now, t = { r with status := .failed, error := some Store.interrupted, updated := now }

namespace Ledger

variable {l l' l'' : Ledger} {gone later : List Row} {cutoff cutoff' : Moment}

/-- What any table makes sure of: numbers tell rows apart, and they are ones that it can hold. -/
structure Numbered (l : Ledger) : Prop where
  apart : (l.map Row.id).Nodup
  held : ∀ id ∈ l.map Row.id, Database.holdsInteger id = true

theorem Numbered.of_ids (h : l.Numbered) (same : l'.map Row.id = l.map Row.id) : l'.Numbered :=
  ⟨same ▸ h.apart, same ▸ h.held⟩

/-- Some rows of a ledger are given up, and the others are as they were. -/
def GivesUp (l : Ledger) (gone : List Row) (l' : Ledger) : Prop :=
  ∃ f : Row → Row, l' = l.map f ∧ ∀ r ∈ l, (r ∈ gone → r.GivenUp (f r)) ∧ (r ∉ gone → f r = r)

theorem givesUp_nil (l : Ledger) : l.GivesUp [] l :=
  ⟨id, (List.map_id l).symm, fun _ _ => ⟨fun here => (List.not_mem_nil here).elim, fun _ => rfl⟩⟩

theorem GivesUp.eq (h : l.GivesUp [] l') : l' = l := by
  obtain ⟨f, rfl, same⟩ := h
  exact (List.map_congr_left fun r here => (same r here).2 List.not_mem_nil).trans (List.map_id l)

theorem GivesUp.ids (h : l.GivesUp gone l') : l'.map Row.id = l.map Row.id := by
  obtain ⟨f, rfl, each⟩ := h
  rw [List.map_map]
  refine List.map_congr_left fun r here => ?_
  by_cases listed : r ∈ gone
  · obtain ⟨now, same⟩ := (each r here).1 listed
    rw [Function.comp_apply, same]
  · rw [Function.comp_apply, (each r here).2 listed]

/-- What was given up is failed, so that giving up what is claimed comes to it no more. -/
theorem GivesUp.trans (first : l.GivesUp gone l') (second : l'.GivesUp later l'')
    (claimed : ∀ r ∈ later, r ∈ l ∧ r.status = .processing) : l.GivesUp (gone ++ later) l'' := by
  obtain ⟨f, rfl, each⟩ := first
  obtain ⟨g, rfl, each'⟩ := second
  refine ⟨g ∘ f, List.map_map, fun r here => ?_⟩
  have next := each' (f r) (List.mem_map_of_mem here)
  by_cases listed : r ∈ gone
  · refine ⟨fun _ => ?_, fun other => absurd (List.mem_append_left _ listed) other⟩
    obtain ⟨now, same⟩ := (each r here).1 listed
    have passed : f r ∉ later := by
      intro again
      have failed : (f r).status = .failed := by rw [same]
      cases failed.symm.trans (claimed _ again).2
    exact ⟨now, (next.2 passed).trans same⟩
  · have kept := (each r here).2 listed
    rw [Function.comp_apply, List.mem_append, or_iff_right listed, kept]
    rw [kept] at next
    exact next

theorem mem_stale {r : Row} :
    r ∈ l.stale cutoff ↔ r ∈ l ∧ r.status = .processing ∧ r.updated < cutoff := by
  unfold stale
  rw [List.mem_filter, Bool.and_eq_true, decide_eq_true_iff, decide_eq_true_iff]

theorem GivesUp.stale (h : l.GivesUp gone l') (cutoff : Moment) :
    l'.stale cutoff = (l.stale cutoff).filter fun r => r ∉ gone := by
  obtain ⟨f, rfl, each⟩ := h
  unfold Ledger.stale
  rw [List.filter_map, List.filter_filter]
  have left : ∀ r ∈ l, ((fun r : Row => r.status = .processing && r.updated < cutoff) ∘ f) r =
      (decide (r ∉ gone) && (decide (r.status = .processing) && decide (r.updated < cutoff))) := by
    intro r here
    by_cases listed : r ∈ gone
    · obtain ⟨now, same⟩ := (each r here).1 listed
      rw [Function.comp_apply, same, decide_eq_false (not_not.mpr listed), Bool.false_and]
      rfl
    · rw [Function.comp_apply, (each r here).2 listed, decide_eq_true listed, Bool.true_and]
  rw [List.filter_congr left]
  refine (List.map_congr_left fun r here => ?_).trans (List.map_id _)
  obtain ⟨here, apart⟩ := List.mem_filter.mp here
  exact (each r here).2 (of_decide_eq_true (Bool.and_eq_true_iff.mp apart).1)

theorem GivesUp.congr (h : l.GivesUp gone l') (same : ∀ r, r ∈ gone ↔ r ∈ later) :
    l.GivesUp later l' := by
  obtain ⟨f, rfl, each⟩ := h
  refine ⟨f, rfl, fun r here => ?_⟩
  rw [← same]
  exact each r here

theorem stale_sublist (l : Ledger) (order : cutoff ≤ cutoff') :
    (l.stale cutoff).Sublist (l.stale cutoff') := by
  have both : (l.stale cutoff').filter (fun r => r.updated < cutoff) = l.stale cutoff := by
    unfold Ledger.stale
    rw [List.filter_filter]
    refine List.filter_congr fun r _ => ?_
    rw [Bool.eq_iff_iff]
    simp only [Bool.and_eq_true, decide_eq_true_iff]
    exact ⟨fun ⟨low, claimed, _⟩ => ⟨claimed, low⟩,
      fun ⟨claimed, low⟩ => ⟨low, claimed, Int.lt_of_lt_of_le low order⟩⟩
  rw [← both]
  exact List.filter_sublist

theorem stale_left (ids : (l.map Row.id).Nodup) (part : gone.Sublist (l.stale cutoff)) :
    (gone ++ (l.stale cutoff).filter fun r => r ∉ gone).Perm (l.stale cutoff) := by
  have apart : (l.stale cutoff).Nodup := (List.Nodup.of_map _ ids).sublist List.filter_sublist
  have inside : ((l.stale cutoff).filter fun r => r ∈ gone).Perm gone := by
    refine (List.perm_ext_iff_of_nodup (apart.sublist List.filter_sublist) (apart.sublist part)).mpr
      fun r => ?_
    rw [List.mem_filter, decide_eq_true_iff]
    exact ⟨And.right, fun listed => ⟨part.subset listed, listed⟩⟩
  have whole := List.filter_append_perm (fun r => decide (r ∈ gone)) (l.stale cutoff)
  simp only [← decide_not] at whole
  exact (inside.symm.append_right _).trans whole

theorem GivesUp.cons {r : Row} {now : Moment} (ids : (l.map Row.id).Nodup) (here : r ∈ l)
    (claimed : r.status = .processing) (claims : ∀ t ∈ later, t ∈ l ∧ t.status = .processing)
    (h : (l.apply (Store.failInterrupted r) now).GivesUp later l') : l.GivesUp (r :: later) l' := by
  have head : l.GivesUp [r] (l.apply (Store.failInterrupted r) now) := by
    refine ⟨_, rfl, fun t listed => ⟨fun same => ?_, fun other => ?_⟩⟩
    · obtain rfl := List.mem_singleton.mp same
      rw [if_pos ((applies_iff _).mpr ⟨rfl, claimed⟩)]
      exact ⟨now, rfl⟩
    · rw [if_neg]
      intro applies
      have same := ((applies_iff _).mp applies).1
      exact other (List.mem_singleton.mpr (List.inj_on_of_nodup_map ids listed here same))
  exact head.trans h claims

end Ledger

namespace Store

open Job

variable {env : Nat → Reaction} {s : Scene} {l : Ledger} {rows : List Row}

theorem bind_failInterrupted {r : Row} (range : Database.holdsInteger r.id = true) (now : Moment) :
    Database.bind (.update (failInterrupted r) now) = .ok () := by
  have written : interrupted.isEncodable = true := by decide
  change (do Database.bindText interrupted; Database.bindInteger r.id) = _
  unfold Database.bindText Database.bindInteger
  rw [if_pos written, if_pos range]
  rfl

/-- How far a sweep has come with rows that it has listed, and how it ended. The changes that took
place, one for each row given up, come before the call that failed, if one did. -/
structure Swept (env : Nat → Reaction) (s : Scene) (l : Ledger) (rows : List Row) (before : Nat)
    (out : Except Failure Nat × Scene) (k : Nat) (l' : Ledger) : Prop where
  reach : k ≤ rows.length
  database : out.2.database = { s.database with table := some l' }
  changed : out.2.changed = s.changed ++ (rows.take k).map failInterrupted
  givesUp : l.GivesUp (rows.take k) l'
  ends : (out.1 = .ok (before + k) ∧ k = rows.length) ∨
    (∃ fault, out.1 = .error (.store fault)) ∧ ¬Healthy env s.database

theorem swept_of_faults {out : Except Failure Nat × Scene} (made : s.database.table = some l)
    (failed : Faults env s out) (rows : List Row) (before : Nat) :
    Swept env s l rows before out 0 l := by
  obtain ⟨⟨fault, ended, same⟩, unsound, unchanged⟩ := failed
  refine ⟨Nat.zero_le _, ?_, unchanged.trans (List.append_nil _).symm, l.givesUp_nil,
    .inr ⟨⟨fault, ended⟩, unsound⟩⟩
  rw [same, ← made]

theorem Swept.of_same {s' : Scene} {before k : Nat} {out : Except Failure Nat × Scene} {l' : Ledger}
    (h : Swept env s' l rows before out k l') (same : s'.database = s.database)
    (still : s'.changed = s.changed) : Swept env s l rows before out k l' where
  reach := h.reach
  database := same ▸ h.database
  changed := still ▸ h.changed
  givesUp := h.givesUp
  ends := same ▸ h.ends

structure Claimed (l : Ledger) (rows : List Row) : Prop where
  numbered : l.Numbered
  apart : (rows.map Row.id).Nodup
  here : ∀ r ∈ rows, r ∈ l ∧ r.status = .processing

theorem Claimed.tail {r : Row} (h : Claimed l (r :: rows)) (now : Moment) :
    Claimed (l.apply (failInterrupted r) now) rows where
  numbered := h.numbered.of_ids (Ledger.map_apply l _ now Row.id fun _ => rfl)
  apart := (List.nodup_cons.mp h.apart).2
  here t listed := by
    obtain ⟨here, claimed⟩ := h.here t (List.mem_cons_of_mem r listed)
    refine ⟨(Ledger.mem_apply l _ now).mpr ⟨t, here, if_neg fun applies => ?_⟩, claimed⟩
    have same : t.id = r.id := ((Ledger.applies_iff _).mp applies).1
    exact (List.nodup_cons.mp h.apart).1 (same ▸ List.mem_map_of_mem listed)

theorem failEach_cons (r : Row) (rest : List Row) (before : Nat) : ∃ message,
    failEach (r :: rest) before = (transition (failInterrupted r)).bind fun won =>
      if won then (Job.log .warning message).bind fun _ => failEach rest (before + 1)
      else failEach rest before :=
  ⟨_, rfl⟩

theorem failEach_sweeps (made : s.database.table = some l) (h : Claimed l rows) (before : Nat) :
    ∃ k l', Swept env s l rows before ((failEach rows before).play env s) k l' := by
  induction rows generalizing s l before with
  | nil =>
    refine ⟨0, l, Nat.le_refl 0, ?_, (List.append_nil _).symm, l.givesUp_nil, .inl ⟨rfl, rfl⟩⟩
    rw [← made]
    rfl
  | cons r rest ih =>
    obtain ⟨here, claimed⟩ := h.here r List.mem_cons_self
    obtain ⟨message, course⟩ := failEach_cons r rest before
    have bound := bind_failInterrupted (h.numbered.held r.id (List.mem_map_of_mem here))
    rw [course]
    rcases transition_or_fault env s (c := failInterrupted r) rfl bound with failed | done
    · exact ⟨0, l, swept_of_faults made (failed.bind _) (r :: rest) before⟩
    · obtain ⟨l₀, now, s₁, made₀, won, left, changed⟩ := done
      obtain rfl : l₀ = l := Option.some.inj (made₀.symm.trans made)
      have touched : l₀.touches (failInterrupted r) = true :=
        (Ledger.touches_iff l₀ _).mpr ⟨r, here, rfl, claimed⟩
      rw [touched] at won changed
      -- The row was still claimed, so that the sweep says so and goes on with the others.
      have told : (s₁.asked (env s₁.log.length) (.log .warning message)).database =
          { s.database with table := some (l₀.apply (failInterrupted r) now) } := left
      obtain ⟨k, l', reach, database, later, givesUp, ends⟩ := ih (congrArg Database.table told)
        (h.tail now) (before + 1)
      rw [told] at database ends
      rw [Scene.changed_asked, changed] at later
      rw [Job.play_bind won]
      refine ⟨k + 1, l', Nat.succ_le_succ reach, database, later.trans ?_, ?_, ?_⟩
      · change (s.changed ++ [failInterrupted r] ++ []) ++ _ = _
        rw [List.append_nil, List.append_assoc]
        rfl
      · refine givesUp.cons h.numbered.apart here claimed fun t listed => ?_
        exact h.here t (List.mem_cons_of_mem r (List.mem_of_mem_take listed))
      · refine ends.imp (fun ⟨ended, all⟩ => ?_) fun ⟨ended, unsound⟩ => ⟨ended, ?_⟩
        · exact ⟨ended.trans (congrArg _ (Nat.add_right_comm before 1 k)), congrArg Nat.succ all⟩
        · exact fun ⟨sound, _, held⟩ => unsound ⟨sound, _, held.refusal, held.readOnly, rfl⟩

variable {olderThan : Span} {now : Option Moment} {cutoff : Moment}

theorem failStale_play
    (early : Moment.before (now.getD (env s.log.length).clock) olderThan = .ok cutoff) :
    ∃ s', (failStale olderThan now).play env s =
        ((Job.session (.stale cutoff)).bind fun rows => failEach rows 0).play env s' ∧
      s'.database = s.database ∧ s'.changed = s.changed := by
  cases now with
  | none =>
    refine ⟨s.asked (env s.log.length) .now, ?_, rfl,
      (Scene.changed_asked ..).trans (List.append_nil _)⟩
    change ((Job.ofExcept (Moment.before (env s.log.length).clock olderThan)).bind _).play env _ = _
    change Moment.before (env s.log.length).clock olderThan = _ at early
    rw [early]
    rfl
  | some m =>
    refine ⟨s, ?_, rfl, rfl⟩
    change ((Job.ofExcept (Moment.before m olderThan)).bind _).play env _ = _
    change Moment.before m olderThan = _ at early
    rw [early]
    rfl

theorem claimed_stale (numbered : l.Numbered) (cutoff : Moment) : Claimed l (l.stale cutoff) where
  numbered := numbered
  apart := numbered.apart.sublist (List.filter_sublist.map Row.id)
  here _ listed := ⟨(Ledger.mem_stale.mp listed).1, (Ledger.mem_stale.mp listed).2.1⟩

theorem failStale_swept (made : s.database.table = some l) (numbered : l.Numbered)
    (early : Moment.before (now.getD (env s.log.length).clock) olderThan = .ok cutoff) :
    ∃ k l', Swept env s l (l.stale cutoff) 0 ((failStale olderThan now).play env s) k l' := by
  obtain ⟨s₁, goes, same, still⟩ := failStale_play early
  rw [← same] at made
  have swept : ∃ k l', Swept env s₁ l (l.stale cutoff) 0
      (((Job.session (.stale cutoff)).bind fun rows => failEach rows 0).play env s₁) k l' := by
    rcases Job.play_session_or_fault env s₁ (.stale cutoff) rfl rfl fun rows => failEach rows 0
      with failed | ⟨l₀, s₂, made₀, listed, left, changed⟩
    · exact ⟨0, l, swept_of_faults made failed (l.stale cutoff) 0⟩
    · obtain rfl : l₀ = l := Option.some.inj (made₀.symm.trans made)
      have untouched : s₂.database = s₁.database := by
        rw [left, Database.perform_snd_of_reads rfl, ← made]
      obtain ⟨k, l', swept⟩ := failEach_sweeps (untouched ▸ made) (claimed_stale numbered cutoff) 0
      rw [listed]
      exact ⟨k, l', swept.of_same untouched (changed.trans (List.append_nil _))⟩
  obtain ⟨k, l', swept⟩ := swept
  rw [goes]
  exact ⟨k, l', swept.of_same same still⟩

theorem Swept.completes {out : Except Failure Nat × Scene} {k : Nat} {l' : Ledger}
    (h : Swept env s l rows 0 out k l') (healthy : Healthy env s.database) :
    out.1 = .ok rows.length ∧ k = rows.length := by
  obtain ⟨ended, all⟩ := h.ends.resolve_right fun failed => failed.2 healthy
  exact ⟨by rw [ended, Nat.zero_add, all], all⟩

/-- A sweep is as good as one update of all stale rows. On a store that does not fail it gives up
exactly those and counts them. If the store fails on the way, the first of them are given up, one for
each change that took place before, and no other row has changed, and a later sweep that reaches as
far gives up the others. After a sweep that
was not disturbed there is nothing left to do. -/
theorem sweeps_stale (env : Nat → Reaction) (s : Scene) {l : Ledger} (olderThan : Span)
    (now : Option Moment) {cutoff : Moment} (made : s.database.table = some l)
    (numbered : l.Numbered)
    (early : Moment.before (now.getD (env s.log.length).clock) olderThan = .ok cutoff) :
    let out := (failStale olderThan now).play env s
    ∃ k l', Swept env s l (l.stale cutoff) 0 out k l' ∧
      (Healthy env s.database →
        out.1 = .ok (l.stale cutoff).length ∧ l.GivesUp (l.stale cutoff) l') ∧
      ∀ (env₂ : Nat → Reaction) (s₂ : Scene) (olderThan₂ : Span) (now₂ : Option Moment)
        (cutoff₂ : Moment), s₂.database.table = some l' → Healthy env₂ s₂.database →
          Moment.before (now₂.getD (env₂ s₂.log.length).clock) olderThan₂ = .ok cutoff₂ →
            cutoff ≤ cutoff₂ →
        let again := (failStale olderThan₂ now₂).play env₂ s₂
        again.1 = .ok ((l.stale cutoff₂).length - k) ∧
          ∃ l'', again.2.database = { s₂.database with table := some l'' } ∧
            l.GivesUp (l.stale cutoff₂) l'' ∧ ((l.stale cutoff₂).length = k → l'' = l') := by
  intro out
  obtain ⟨k, l', swept⟩ := failStale_swept made numbered early
  refine ⟨k, l', swept, fun healthy => ?_, ?_⟩
  · obtain ⟨ended, all⟩ := swept.completes healthy
    refine ⟨ended, ?_⟩
    have gives := swept.givesUp
    rwa [all, List.take_length] at gives
  · intro env₂ s₂ olderThan₂ now₂ cutoff₂ made₂ healthy early₂ order again
    have numbered' := numbered.of_ids swept.givesUp.ids
    obtain ⟨j, l'', swept₂⟩ := failStale_swept made₂ numbered' early₂
    obtain ⟨ended, all⟩ := swept₂.completes healthy
    have part : ((l.stale cutoff).take k).Sublist (l.stale cutoff₂) :=
      (List.take_sublist _ _).trans (l.stale_sublist order)
    have rest := Ledger.stale_left numbered.apart part
    have reach := List.length_take_of_le swept.reach
    have count := rest.length_eq
    rw [List.length_append, reach, ← swept.givesUp.stale] at count
    have gives := swept₂.givesUp
    rw [all, List.take_length] at gives
    refine ⟨?_, l'', swept₂.database, ?_, fun none => ?_⟩
    · rw [ended]
      congr 1
      omega
    · rw [swept.givesUp.stale] at gives
      refine (swept.givesUp.trans gives fun r listed => ?_).congr fun _ => rest.mem_iff
      obtain ⟨here, claimed, -⟩ := Ledger.mem_stale.mp (List.mem_filter.mp listed).1
      exact ⟨here, claimed⟩
    · have nothing : l'.stale cutoff₂ = [] := List.length_eq_zero_iff.mp (by omega)
      rw [nothing] at gives
      exact gives.eq

/-! Of two claimed payouts the first has been claimed for longer. -/

def claimedAt (id : Int) (address : Text) (moment : Moment) : Row :=
  { Ledger.newRow id address "web" 100000 0 with status := .processing, updated := moment }

def twoClaims : Ledger := [claimedAt 1 "tb1qfirst" 5, claimedAt 2 "tb1qsecond" 10]

theorem sweeps_stale_claims :
    (twoClaims.Numbered ∧ Moment.before 20 10 = .ok 10 ∧
      twoClaims.stale 10 = [claimedAt 1 "tb1qfirst" 5]) ∧
    ∃ l', twoClaims.GivesUp [claimedAt 1 "tb1qfirst" 5] l' ∧
      ((failStale 10 (some 20)).play ticking { database := { table := some twoClaims } }).1 = .ok 1 ∧
      ((failStale 10 (some 20)).play ticking { database := { table := some l' } }).1 = .ok 0 := by
  have numbered : twoClaims.Numbered := ⟨by decide, by decide⟩
  have healthy (l : Ledger) : Healthy ticking { table := some l } := ⟨fun _ => rfl, l, rfl, rfl, rfl⟩
  obtain ⟨k, l', swept, whole, later⟩ := sweeps_stale ticking
    { database := { table := some twoClaims } } 10 (some 20) rfl numbered
    (show Moment.before 20 10 = .ok 10 from rfl)
  obtain ⟨ended, gives⟩ := whole (healthy _)
  obtain ⟨-, all⟩ := swept.completes (healthy _)
  have again := (later ticking { database := { table := some l' } } 10 (some 20) 10 rfl (healthy _) rfl
    (Int.le_refl 10)).1
  rw [all, Nat.sub_self] at again
  exact ⟨⟨numbered, rfl, by decide⟩, l', gives, ended, again⟩

end Store

end Faucet
