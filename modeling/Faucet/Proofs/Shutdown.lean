import Faucet.Proofs.Timeline

/-!
Shutting down. Nobody begins anything once a stop was asked for. Who is at work then is left to it until
the time is up; whoever comes to the end of a turn before is done, and everybody else is sent home.
-/

set_option autoImplicit false

namespace Faucet

/-- The time at which the turn that a task is at is over, given how long its turns take. -/
def Task.turnEnd (start : Nat) (lasts : Nat → Nat) (t : Task) : Nat :=
  Timetable.ends ⟨start, t.duty.span?.getD 0, lasts⟩ t.ticks

namespace Roster

variable {starts : Nat → Nat} {stop : Option Nat} {r : Roster} {now i : Nat} {t : Task} {w : World}

theorem Past.heard (past : r.Past starts stop now) {T : Nat} (asked : stop = some T)
    (here : t ∈ r.tasks) : t.turn? = none := by
  obtain ⟨i, place⟩ := List.mem_iff_getElem?.mp here
  obtain ⟨made, tells, -⟩ := past.tells i t place
  obtain ⟨duty, phase, ticks⟩ := t
  cases phase with
  | waiting wake turn =>
    have going : stop = none := by
      cases span : duty.span? with
      | none => cases tells.idle span with | waiting _ going => exact going
      | some us =>
        obtain ⟨spent, -, stands⟩ := tells.paced us span
        cases stands with | waiting _ going => exact going
    cases going.symm.trans asked
  | _ => rfl

def Quiet (T : Nat) (r : Roster) : Prop :=
  ∃ newer older, r.history = newer ++ (T, [], .stopAsked) :: older ∧ ∀ x ∈ newer, x.2.2 ≠ .began

theorem Quiet.turned {T : Nat} {t' : Task} {marks : List Mark} {out : Roster × World} (h : r.Quiet T)
    (turned : Turned i t' marks r w out) (quiet : ∀ m ∈ marks, m ≠ .began) : out.1.Quiet T := by
  obtain ⟨newer, older, history, none⟩ := h
  refine ⟨marks.map (fun m => (w.elapsed, t'.duty.name, m)) ++ newer, older, ?_, ?_⟩
  · rw [turned.history, history, List.append_assoc]
  · intro x here
    rcases List.mem_append.mp here with new | old
    · obtain ⟨m, made, rfl⟩ := List.mem_map.mp new
      exact quiet m made
    · exact none x old

theorem Paused.endMarks_quiet (p : Paused Unit) : ∀ m ∈ p.endMarks, m ≠ .began := by
  intro m here
  cases p with
  | ended r => cases r <;> cases List.mem_singleton.mp here <;> nofun
  | waiting | calling => cases here

theorem Past.quiet (past : r.Past starts stop now) {T : Nat} (asked : stop = some T) :
    r.Quiet T := by
  induction past with
  | fresh => cases asked
  | adds past d ih => exact ih asked
  | @begins stop r w past i own ih =>
    rcases startTask_cases i r w with same | ⟨t, -, -, turned⟩
    · exact same ▸ ih asked
    · exact (ih asked).turned turned (List.forall_mem_nil _)
  | waits past later clear ih => exact ih asked
  | @turns stop r w past i t here wakes ih =>
    rcases wake_cases i r w with same | ⟨u, there, -, turned⟩
    · exact same ▸ ih asked
    · refine (ih asked).turned turned fun m made => ?_
      have heard := past.heard asked (List.mem_of_getElem? there)
      rcases List.mem_append.mp made with ends | opens
      · exact Paused.endMarks_quiet _ m ends
      · unfold Task.turn? at heard
        unfold Task.openMarks at opens
        cases phase : u.phase with
        | waiting => rw [phase] at heard; cases heard
        | _ => rw [phase] at opens; cases opens
  | @stops r w past ih =>
    cases asked
    exact ⟨[], r.history, (stop_same past.regular.stopping w).1, List.forall_mem_nil _⟩
  | @cancels stop r w past i ih =>
    rcases cancelAt_cases i r w with same | ⟨t, -, -, turned⟩
    · exact same ▸ ih asked
    · exact (ih asked).turned turned (List.forall_mem_singleton.mpr nofun)

theorem Past.dismiss (past : r.Past starts stop w.elapsed) (timeout : Binary64) :
    (r.dismiss timeout w).1.Past starts stop w.elapsed ∧ (r.dismiss timeout w).2.elapsed = w.elapsed :=
  List.foldlRecOn _ _
    (motive := fun s : Roster × World => s.1.Past starts stop w.elapsed ∧ s.2.elapsed = w.elapsed)
    ⟨past, rfl⟩ fun s kept i _ => by
      obtain ⟨past, still⟩ := kept
      have cancelled := (still ▸ past).cancels i
      rw [still] at cancelled
      exact ⟨cancelled, (cancelAt_elapsed i s.1 s.2).trans still⟩

/-! ### Those at work come to the end of their turns -/

/-- What has become of a task that was told to stop, if its turn ends at a time: nothing, if it was not
at work; or it is still at the same turn; or that is over, and on record. -/
inductive Drained (limit ends : Nat) (history : List (Nat × Text × Mark)) (t : Task) : Task → Prop
  | idle (still : t.isWorking = false) : Drained limit ends history t t
  | working {work : Paused Unit} {now : Nat} (was : t.isWorking = true) (under : work.wake? ≠ none)
    (leaves : work.Leaves now ends) : Drained limit ends history t { t with phase := .working work }
  | finished {m : Mark} (was : t.isWorking = true) (early : ends < limit)
    (outcome : m = .ended ∨ ∃ e, m = .failed e) (marked : (ends, t.duty.name, m) ∈ history) :
    Drained limit ends history t { t with phase := .finished, ticks := t.ticks + 1 }

structure Drains (limit : Nat) (ends : Nat → Nat) (r r' : Roster) : Prop where
  stopping : r'.stopping = true
  length : r'.tasks.length = r.tasks.length
  each : ∀ i t, r.tasks[i]? = some t →
    ∃ u, r'.tasks[i]? = some u ∧ Drained limit (ends i) r'.history t u

theorem Drained.mono {limit ends : Nat} {old new : List (Nat × Text × Mark)} {t u : Task}
    (h : Drained limit ends old t u) (more : old ⊆ new) : Drained limit ends new t u := by
  cases h with
  | idle still => exact .idle still
  | working was under leaves => exact .working was under leaves
  | finished was early outcome marked => exact .finished was early outcome (more marked)

theorem Drained.settled {limit ends turn : Nat} {p q : Paused Unit} {before after : List (Nat × Text × Mark)}
    (was : t.isWorking = true) (leaves : q.Leaves now ends)
    (under : (∃ e, q = .ended e) ∨ q.wake? ≠ none) (early : now < limit)
    (history : after = (q.endMarks ++ Task.openMarks { t with phase := .working p }).map
      (fun m => (now, (Task.settled { t with phase := .working p } true turn now q).duty.name, m)) ++
        before) :
    Drained limit ends after t (Task.settled { t with phase := .working p } true turn now q) := by
  rcases under with ⟨e, rfl⟩ | under
  · obtain rfl : ends = now := by
      cases leaves
      rfl
    cases e with
    | ok u =>
      refine .finished was early (.inl rfl) ?_
      rw [history]
      exact List.mem_cons_self
    | error e =>
      refine .finished was early (.inr ⟨e, rfl⟩) ?_
      rw [history]
      exact List.mem_cons_self
  · cases q with
    | ended e => exact absurd rfl under
    | waiting | calling => exact .working was under leaves

theorem Drains.wake {limit time : Nat} {ends : Nat → Nat} {r' : Roster} {u : Task}
    (heard : ∀ t ∈ r.tasks, t.turn? = none) (h : Drains limit ends r r')
    (due : Due r' w time i u) (early : time < limit) :
    Drains limit ends r (r'.wake i (w.elapse (time - w.elapsed))).1 := by
  obtain ⟨w', rfl, turned⟩ := due.turned
  rw [h.stopping] at turned
  refine ⟨turned.stopping.trans h.stopping, ?_, fun j t here => ?_⟩
  · rw [turned.tasks, List.length_set]
    exact h.length
  · have more : r'.history ⊆ (r'.wake i (w.elapse (w'.elapsed - w.elapsed))).1.history := by
      rw [turned.history]
      exact List.subset_append_right _ _
    obtain ⟨v, there, drained⟩ := h.each j t here
    rw [turned.tasks, List.getElem?_set]
    split
    · rename_i same
      subst same
      obtain ⟨bound, -⟩ := List.getElem?_eq_some_iff.mp there
      rw [if_pos bound]
      cases due.here.symm.trans there
      refine ⟨_, rfl, ?_⟩
      cases drained with
      | idle still =>
        have waits := heard u (List.mem_of_getElem? here)
        obtain ⟨duty, phase, ticks⟩ := u
        cases phase with
        | waiting => cases waits
        | working => cases still
        | unstarted | finished | cancelled => cases due.wakes
      | finished => cases due.wakes
      | working was under leaves =>
        exact Drained.settled was (leaves.resume due.wakes) (Paused.resume_ends under w') early
          turned.history
    · exact ⟨v, there, drained.mono more⟩

def Flies (ends : Nat → Nat) (now : Nat) (r : Roster) : Prop :=
  ∀ (i : Nat) (t : Task) (work : Paused Unit), r.tasks[i]? = some t → t.phase = .working work →
    work.wake? ≠ none ∧ work.Leaves now (ends i)

theorem Drains.refl {limit : Nat} {ends : Nat → Nat} (stopping : r.stopping = true)
    (flies : r.Flies ends now) : Drains limit ends r r := by
  refine ⟨stopping, rfl, fun i t here => ⟨t, here, ?_⟩⟩
  have own := flies i t
  obtain ⟨duty, phase, ticks⟩ := t
  cases phase with
  | working work =>
    obtain ⟨under, leaves⟩ := own work here rfl
    exact .working (t := ⟨duty, .working work, ticks⟩) rfl under leaves
  | _ => exact .idle rfl

theorem isActive_of_heard (heard : t.turn? = none) (still : t.isWorking = false) :
    t.isActive = false := by
  obtain ⟨duty, phase, ticks⟩ := t
  cases phase with
  | waiting => cases heard
  | working => cases still
  | unstarted | finished | cancelled => rfl

theorem Drains.runWithin (limit : Nat) {ends : Nat → Nat} (heard : ∀ t ∈ r.tasks, t.turn? = none)
    (stopping : r.stopping = true) (clear : r.Clear w.elapsed) (flies : r.Flies ends w.elapsed) :
    let out := r.runWithin (some limit) (r.steps (limit - w.elapsed)) w
    Drains limit ends r out.1 ∧ out.1.Clear limit ∧ out.2.elapsed ≤ max w.elapsed limit := by
  obtain ⟨done, -, before⟩ := runWithin_clear limit _ r w clear (clear.enough limit)
  refine ⟨?_, done, before⟩
  exact (runWithin_keeps (I := Drains limit ends r) (some limit)
    (fun r' w' time i u drains due early => drains.wake heard due (of_decide_eq_true early)) _ r w clear
    (.refl stopping flies)).1

theorem Drains.fate {limit : Nat} {ends : Nat → Nat} {r' : Roster} (h : Drains limit ends r r')
    (clear : r'.Clear limit) (here : r.tasks[i]? = some t) : ∃ u, r'.tasks[i]? = some u ∧
      (t.isWorking = false ∧ u = t ∨
      t.isWorking = true ∧ limit ≤ ends i ∧ (∃ work, u = { t with phase := .working work }) ∨
      t.isWorking = true ∧ ends i < limit ∧ u = { t with phase := .finished, ticks := t.ticks + 1 } ∧
        ∃ m : Mark, (m = .ended ∨ ∃ e, m = .failed e) ∧ (ends i, t.duty.name, m) ∈ r'.history) := by
  obtain ⟨u, there, drained⟩ := h.each i t here
  refine ⟨u, there, ?_⟩
  cases drained with
  | idle still => exact .inl ⟨still, rfl⟩
  | finished was early outcome marked => exact .inr (.inr ⟨was, early, rfl, _, outcome, marked⟩)
  | working was under leaves =>
    refine .inr (.inl ⟨was, ?_, _, rfl⟩)
    generalize ends i = e at leaves
    cases leaves with
    | ended r => exact absurd rfl under
    | waiting lasts =>
      have next := clear _ (List.mem_of_getElem? there) _ rfl
      omega

theorem Drains.isIdle {limit : Nat} {ends : Nat → Nat} {r' : Roster} (h : Drains limit ends r r')
    (heard : ∀ t ∈ r.tasks, t.turn? = none) (clear : r'.Clear limit) : r'.isIdle = true ↔
      ∀ (i : Nat) (t : Task), r.tasks[i]? = some t → t.isWorking = true → ends i < limit := by
  refine ⟨fun idle i t here works => ?_, fun all => ?_⟩
  · obtain ⟨u, there, ⟨still, -⟩ | ⟨-, -, work, rfl⟩ | ⟨-, early, -⟩⟩ := h.fate clear here
    · cases works.symm.trans still
    · cases idle_of_isIdle idle _ (List.mem_of_getElem? there)
    · exact early
  · have none : r'.tasks.any Task.isActive = false := by
      refine List.any_eq_false.mpr fun u there => ?_
      obtain ⟨i, place⟩ := List.mem_iff_getElem?.mp there
      have bound := (List.getElem?_eq_some_iff.mp place).1
      rw [h.length] at bound
      have here : r.tasks[i]? = some r.tasks[i] := List.getElem?_eq_getElem bound
      obtain ⟨v, there', ⟨still, rfl⟩ | ⟨works, late, -⟩ | ⟨-, -, rfl, -⟩⟩ := h.fate clear here
      · cases place.symm.trans there'
        exact Bool.eq_false_iff.mp (isActive_of_heard (heard _ (List.mem_of_getElem? here)) still)
      · exact absurd (all i _ here works) (Nat.not_lt_of_le late)
      · cases place.symm.trans there'
        nofun
    unfold Roster.isIdle
    rw [none]
    rfl

theorem Past.flies (past : r.Past starts stop now) {lasts : Nat → Nat → Nat}
    (timed : ∀ (i : Nat) (t : Task), r.tasks[i]? = some t → ∀ n, (t.duty.work n).Lasts (lasts i n))
    {ends : Nat → Nat} (own : ∀ (i : Nat) (t : Task), r.tasks[i]? = some t → t.isWorking = true →
      ends i = t.turnEnd (starts i) (lasts i)) : r.Flies ends now := by
  intro i t work here phase
  have same := own i t here (by unfold Task.isWorking; rw [phase])
  have lasting := timed i t here
  obtain ⟨made, tells, -⟩ := past.tells i t here
  obtain ⟨duty, phase', ticks⟩ := t
  cases phase
  rw [same]
  cases span : duty.span? with
  | none => cases tells.idle span
  | some us =>
    obtain ⟨spent, took, stands⟩ := tells.paced us span
    unfold Task.turnEnd
    dsimp only at stands took lasting ⊢
    rw [span]
    have past := Timetable.spent_of_took ⟨starts i, us, lasts i⟩ lasting took
    cases stands with
    | working under begun early leaves =>
      have begins := Timetable.pace_begins ⟨starts i, us, lasts i⟩ spent.length
      rw [← past] at begins
      refine ⟨under, ?_⟩
      change work.Leaves now (Timetable.begins ⟨starts i, us, lasts i⟩ spent.length + _)
      rw [← begins]
      exact leaves _ (lasting spent.length)

/-! ### The answer -/

/-- A turn ends before so much time has passed. -/
def InTime (timeout : Binary64) (now e : Nat) : Prop :=
  ∀ us, Duty.spanOf? timeout = some us → e < now + us

theorem Past.drains {ends : Nat → Nat} (past : r.Past starts stop w.elapsed) (asked : stop.isSome = true)
    (flies : r.Flies ends w.elapsed) (timeout : Binary64) :
    let out := r.runUntil ((Duty.spanOf? timeout).map (w.elapsed + ·)) w
    ∃ limit, Drains limit ends r out.1 ∧ out.1.Clear limit ∧
      out.1.Past starts stop out.2.elapsed ∧
      (∀ us, Duty.spanOf? timeout = some us → limit = w.elapsed + us ∧ out.2.elapsed ≤ limit) ∧
      ∀ (i : Nat) (t : Task), r.tasks[i]? = some t → t.isWorking = true →
        (ends i < limit ↔ InTime timeout w.elapsed (ends i)) := by
  obtain ⟨T, stopped⟩ := Option.isSome_iff_exists.mp asked
  have regular := past.regular
  have heard : ∀ t ∈ r.tasks, t.turn? = none := fun t here => past.heard stopped here
  have stopping : r.stopping = true := regular.stopping.trans asked
  cases span : Duty.spanOf? timeout with
  | some us =>
    obtain ⟨drains, clear, before⟩ :=
      Drains.runWithin (w.elapsed + us) heard stopping regular.clear flies
    refine ⟨w.elapsed + us, drains, clear, past.runWithin _ _, fun us' same => ?_, fun i t _ _ => ?_⟩
    · cases same
      refine ⟨rfl, Nat.le_trans before ?_⟩
      omega
    · refine ⟨fun early us' same => ?_, fun inTime => inTime us span⟩
      cases span.symm.trans same
      exact early
  | none =>
    -- a limit after all turns in flight does not keep anybody from the end of a turn
    let limit := (Finset.range r.tasks.length).sup ends + 1
    have early : ∀ (i : Nat) (t : Task), r.tasks[i]? = some t → t.isWorking = true → ends i < limit :=
      fun i t here _ => Nat.lt_succ_of_le
        (Finset.le_sup (Finset.mem_range.mpr (List.getElem?_eq_some_iff.mp here).1))
    obtain ⟨drains, clear, -⟩ := Drains.runWithin limit heard stopping regular.clear flies
    have idle := idle_of_isIdle ((drains.isIdle heard clear).mpr early)
    have runs := past.runWithin (some limit) (r.steps (limit - w.elapsed))
    have same : r.runUntil (Option.map (w.elapsed + ·) none) w =
        r.runWithin (some limit) (r.steps (limit - w.elapsed)) w :=
      (runOut_eq (Prod.eta (r.runWithin (some limit) (r.steps (limit - w.elapsed)) w)).symm
        idle.due?).2
    rw [same]
    exact ⟨limit, drains, clear, runs, nofun, fun i t here works =>
      ⟨fun _ _ same => (nomatch span.symm.trans same), fun _ => early i t here works⟩⟩

variable {timeout : Binary64} {limit e : Nat} {history : List (Nat × Text × Mark)} {u : Task}

theorem Past.stop_tasks (past : r.Past starts stop w.elapsed) :
    (r.stop w).1.tasks = r.tasks.map Task.stopped := by
  have stopping := past.regular.stopping
  cases asked : stop with
  | none => exact Roster.stop_tasks (by rw [stopping, asked]; rfl) w
  | some T =>
    rw [stop_again (by rw [stopping, asked]; rfl)]
    have same : ∀ t ∈ r.tasks, t.stopped = id t := by
      intro t here
      have heard := past.heard asked here
      obtain ⟨duty, phase, ticks⟩ := t
      cases phase with
      | waiting => cases heard
      | _ => rfl
    rw [List.map_congr_left same, List.map_id]

theorem dismiss_history (timeout : Binary64) (r : Roster) (w : World) :
    r.history ⊆ (r.dismiss timeout w).1.history :=
  List.foldlRecOn _ _ (motive := fun s : Roster × World => r.history ⊆ s.1.history)
    (List.Subset.refl _) fun s more i _ => by
      rcases cancelAt_cases i s.1 s.2 with same | ⟨t, -, -, turned⟩
      · rw [same]
        exact more
      · rw [turned.history]
        exact List.subset_cons_of_subset _ more

theorem Past.drain {T : Nat} {ends : Nat → Nat} (past : r.Past starts (some T) w.elapsed)
    (flies : r.Flies ends w.elapsed) (timeout : Binary64) :
    let out := r.drain timeout w
    out.2.1.Quiet T ∧
      (out.1 = true ↔ ∀ (i : Nat) (t : Task), r.tasks[i]? = some t → t.isWorking = true →
        InTime timeout w.elapsed (ends i)) ∧
      ∃ limit r', Drains limit ends r r' ∧ r'.Clear limit ∧ r'.history ⊆ out.2.1.history ∧
        out.2.1.tasks = r'.tasks.map Task.dismissed ∧
          ∀ (i : Nat) (t : Task), r.tasks[i]? = some t → t.isWorking = true →
            (ends i < limit ↔ InTime timeout w.elapsed (ends i)) := by
  obtain ⟨limit, drains, clear, later, bound, early⟩ := past.drains rfl flies timeout
  have heard : ∀ t ∈ r.tasks, t.turn? = none := fun t here => past.heard rfl here
  unfold Roster.drain
  dsimp only at drains clear later bound ⊢
  generalize r.runUntil ((Duty.spanOf? timeout).map (w.elapsed + ·)) w = out at drains clear later bound ⊢
  obtain ⟨r', w'⟩ := out
  dsimp only at drains clear later bound ⊢
  have answer : r'.isIdle = true ↔ ∀ (i : Nat) (t : Task), r.tasks[i]? = some t →
      t.isWorking = true → InTime timeout w.elapsed (ends i) := by
    rw [drains.isIdle heard clear]
    exact forall₄_congr early
  split
  · rename_i idle
    have none : ∀ t ∈ r'.tasks, t.dismissed = id t := by
      intro t here
      have inactive := idle_of_isIdle idle t here
      refine Task.dismissed_of_idle (Bool.eq_false_iff.mpr fun works => ?_)
      obtain ⟨duty, phase, ticks⟩ := t
      cases phase with
      | working => cases inactive
      | _ => cases works
    refine ⟨later.quiet rfl, ⟨fun _ => answer.mp idle, fun _ => rfl⟩, limit, r', drains, clear,
      List.Subset.refl _, ?_, early⟩
    rw [List.map_congr_left none, List.map_id]
  · rename_i busy
    have elapsed : r'.Past starts (some T)
        (w'.elapse (((Duty.spanOf? timeout).map (w.elapsed + ·)).getD w'.elapsed - w'.elapsed)).elapsed := by
      refine later.waits (Nat.le_add_right _ _) fun t here u wakes => ?_
      have own := later.regular.clear t here u wakes
      have late := clear t here u wakes
      cases span : Duty.spanOf? timeout with
      | none =>
        change w'.elapsed + (w'.elapsed - w'.elapsed) ≤ u
        omega
      | some us =>
        obtain ⟨rfl, before⟩ := bound us span
        change w'.elapsed + (w.elapsed + us - w'.elapsed) ≤ u
        omega
    exact ⟨(elapsed.dismiss timeout).1.quiet rfl, ⟨nofun, fun all => absurd (answer.mpr all) busy⟩, limit,
      r', drains, clear, dismiss_history _ _ _, dismiss_tasks _ _ _, early⟩

end Roster

end Faucet
