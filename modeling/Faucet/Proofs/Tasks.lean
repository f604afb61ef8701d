import Faucet.Proofs.Narration
import Faucet.World.Roster

/-!
The tasks of a roster. Work that keeps to some calls keeps the whole roster to them; nobody waits any
more once a stop was asked for, and nobody works any more once all were dismissed.
-/

set_option autoImplicit false

namespace Faucet

/-- A task whose turns make calls of a kind only, and whose work is under way if there is any. -/
structure Task.Fit (kind : WalletCall → Prop) (t : Task) : Prop where
  duty : ∀ n, (t.duty.work n).Asks (Query.Keeps kind)
  work : ∀ p, t.phase = .working p → p.Keeps kind ∧ p.wake? ≠ none

namespace Roster

variable {kind : WalletCall → Prop} {r : Roster} {w : World} {i : Nat} {t : Task}

/-- Nobody waits once a stop was asked for. -/
structure Sound (kind : WalletCall → Prop) (r : Roster) : Prop where
  fit : ∀ t ∈ r.tasks, t.Fit kind
  heard : r.stopping = true → ∀ t ∈ r.tasks, t.turn? = none

def Idle (r : Roster) : Prop := ∀ t ∈ r.tasks, t.isActive = false

def Began (r : Roster) : Prop := ∃ m ∈ r.history, m.2.2 = .began

theorem idle_of_isIdle (h : r.isIdle = true) : r.Idle := by
  intro t here
  have none : r.tasks.any Task.isActive = false := by simpa [isIdle] using h
  simpa using List.any_eq_false.mp none t here

theorem Fit.setPhase {phase : Phase} (h : t.Fit kind) (ticks : Nat)
    (keeps : ∀ p, phase = .working p → p.Keeps kind ∧ p.wake? ≠ none) :
    Task.Fit kind { t with phase, ticks } where
  duty := h.duty
  work := keeps

theorem Sound.setTask (h : r.Sound kind) (fit : t.Fit kind)
    (heard : r.stopping = true → t.turn? = none) : (r.setTask i t).Sound kind where
  fit u here := by
    rcases List.mem_or_eq_of_mem_set here with there | rfl
    · exact h.fit u there
    · exact fit
  heard stopping u here := by
    rcases List.mem_or_eq_of_mem_set here with there | rfl
    · exact h.heard stopping u there
    · exact heard stopping

theorem Sound.mark (h : r.Sound kind) (w : World) (name : Text) (m : Mark) :
    (r.mark w name m).Sound kind where
  fit := h.fit
  heard := h.heard

theorem Sound.finish (h : r.Sound kind) (fit : t.Fit kind) (i : Nat) (w : World) :
    (r.finish i t w).1.Sound kind ∧ (r.finish i t w).2.calls = w.calls :=
  ⟨h.setTask (Fit.setPhase fit _ nofun) fun _ => rfl, rfl⟩

theorem Sound.rest (h : r.Sound kind) (fit : t.Fit kind) (i : Nat) (w : World) :
    (r.rest i t w).1.Sound kind ∧ (r.rest i t w).2.calls = w.calls := by
  unfold Roster.rest
  split
  · exact h.finish fit i w
  · rename_i going
    refine ⟨?_, rfl⟩
    have waits := h.setTask (i := i)
      (t := { t with phase := .waiting (t.duty.span?.map (w.elapsed + ·)) r.turn })
      (Fit.setPhase fit _ nofun) fun stopping => absurd stopping going
    exact ⟨waits.fit, waits.heard⟩

theorem Sound.settle (h : r.Sound kind) (fit : t.Fit kind) (i : Nat) (w : World) {p : Paused Unit}
    (keeps : p.Keeps kind) :
    (r.settle i t w p).1.Sound kind ∧ (r.settle i t w p).2.calls = w.calls := by
  have later : Task.Fit kind { t with ticks := t.ticks + 1 } := ⟨fit.duty, fit.work⟩
  have works (under : p.wake? ≠ none) (q : Paused Unit) (same : Phase.working p = .working q) :
      q.Keeps kind ∧ q.wake? ≠ none := by
    cases same
    exact ⟨keeps, under⟩
  cases p with
  | ended e =>
    cases e with
    | ok u => exact (h.mark w t.duty.name .ended).rest later i w
    | error e => exact (h.mark w t.duty.name (.failed e)).rest later i _
  | waiting wake rest => exact ⟨h.setTask (Fit.setPhase fit _ (works nofun)) fun _ => rfl, rfl⟩
  | calling wake c next =>
    exact ⟨h.setTask (Fit.setPhase fit _ (works nofun)) fun _ => rfl, rfl⟩

theorem Sound.wake (h : r.Sound kind) (i : Nat) (w : World) :
    (r.wake i w).1.Sound kind ∧ w.Sees kind (r.wake i w).2 := by
  unfold Roster.wake
  cases place : r.tasks[i]? with
  | none => exact ⟨h, .of_eq rfl⟩
  | some t =>
    have fit := h.fit t (List.mem_of_getElem? place)
    dsimp only
    cases phase : t.phase with
    | waiting wake turn =>
      obtain ⟨sees, keeps⟩ := Job.advance_sees StoreStep.stepper_hushed (fit.duty t.ticks) w
      obtain ⟨sound, calls⟩ := (h.mark w t.duty.name .began).settle fit i
        ((t.duty.work t.ticks).advance StoreStep.stepper w).2 keeps
      exact ⟨sound, sees.trans (.of_eq calls)⟩
    | working p =>
      obtain ⟨sees, keeps⟩ := p.resume_sees StoreStep.stepper_hushed (fit.work p phase).1 w
      obtain ⟨sound, calls⟩ := h.settle fit i (p.resume StoreStep.stepper w).2 keeps
      exact ⟨sound, sees.trans (.of_eq calls)⟩
    | unstarted | finished | cancelled => exact ⟨h, .of_eq rfl⟩

theorem rest_stopping (i : Nat) (t : Task) (r : Roster) (w : World) :
    (r.rest i t w).1.stopping = r.stopping := by
  unfold Roster.rest
  split <;> rfl

theorem wake_stopping (i : Nat) (r : Roster) (w : World) :
    (r.wake i w).1.stopping = r.stopping := by
  have settles (r : Roster) (t : Task) (w : World) (p : Paused Unit) :
      (r.settle i t w p).1.stopping = r.stopping := by
    unfold Roster.settle
    split
    · exact rest_stopping _ _ _ _
    · exact rest_stopping _ _ _ _
    · rfl
  unfold Roster.wake
  split
  · rfl
  · split
    · exact settles _ _ _ _
    · exact settles _ _ _ _
    · rfl

theorem Idle.wake (h : r.Idle) (i : Nat) (w : World) : r.wake i w = (r, w) := by
  unfold Roster.wake
  cases place : r.tasks[i]? with
  | none => rfl
  | some t =>
    have idle := h t (List.mem_of_getElem? place)
    unfold Task.isActive at idle
    dsimp only
    cases phase : t.phase with
    | waiting | working => rw [phase] at idle; cases idle
    | unstarted | finished | cancelled => rfl

variable {f : Nat → Roster → World → Roster × World}

theorem foldl_keeps {I : Roster → Prop}
    (step : ∀ i r w, I r → I (f i r w).1 ∧ (f i r w).2.calls = w.calls) (places : List Nat)
    (r : Roster) (w : World) (h : I r) :
    I (places.foldl (fun s i => f i s.1 s.2) (r, w)).1 ∧
      (places.foldl (fun s i => f i s.1 s.2) (r, w)).2.calls = w.calls := by
  induction places generalizing r w with
  | nil => exact ⟨h, rfl⟩
  | cons i places ih =>
    obtain ⟨kept, calls⟩ := step i r w h
    obtain ⟨all, later⟩ := ih (f i r w).1 (f i r w).2 kept
    exact ⟨all, later.trans calls⟩

/-- What is done away with in one place after another is left in none of them. -/
theorem foldl_clears (bad : Task → Prop)
    (clears : ∀ i r w j t, (f i r w).1.tasks[j]? = some t → bad t → j ≠ i ∧ r.tasks[j]? = some t)
    (places : List Nat) (r : Roster) (w : World) {j : Nat} {t : Task}
    (left : (places.foldl (fun s i => f i s.1 s.2) (r, w)).1.tasks[j]? = some t) (worse : bad t) :
    j ∉ places ∧ r.tasks[j]? = some t := by
  induction places generalizing r w with
  | nil => exact ⟨List.not_mem_nil, left⟩
  | cons i places ih =>
    obtain ⟨later, there⟩ := ih (f i r w).1 (f i r w).2 left
    obtain ⟨other, before⟩ := clears i r w j t there worse
    exact ⟨List.not_mem_cons_of_ne_of_not_mem other later, before⟩

theorem mem_line (here : r.tasks[i]? = some t) (waits : t.turn? ≠ none) : i ∈ r.line := by
  obtain ⟨turn, turns⟩ := Option.ne_none_iff_exists'.mp waits
  refine List.mem_map.mpr ⟨(turn, i), List.mem_mergeSort.mpr ?_, rfl⟩
  refine List.mem_filterMap.mpr ⟨(t, i), List.mem_zipIdx_iff_getElem?.mpr here, ?_⟩
  rw [turns]
  rfl

theorem setTask_getElem? {j : Nat} {u : Task} (here : (r.setTask i t).tasks[j]? = some u) :
    j = i ∧ u = t ∨ j ≠ i ∧ r.tasks[j]? = some u := by
  change (r.tasks.set i t)[j]? = some u at here
  rw [List.getElem?_set] at here
  split at here
  · rename_i same
    split at here
    · exact .inl ⟨same.symm, (Option.some.inj here).symm⟩
    · cases here
  · rename_i other
    exact .inr ⟨Ne.symm other, here⟩

theorem finishAt_clears (i : Nat) (r : Roster) (w : World) (j : Nat) (t : Task)
    (here : (r.finishAt i w).1.tasks[j]? = some t) (waits : t.turn? ≠ none) :
    j ≠ i ∧ r.tasks[j]? = some t := by
  unfold finishAt at here
  cases place : r.tasks[i]? with
  | none =>
    rw [place] at here
    refine ⟨?_, here⟩
    rintro rfl
    cases place.symm.trans here
  | some u =>
    rw [place] at here
    rcases setTask_getElem? here with ⟨-, rfl⟩ | other
    · exact absurd rfl waits
    · exact other

theorem cancelAt_clears (i : Nat) (r : Roster) (w : World) (j : Nat) (t : Task)
    (here : (r.cancelAt i w).1.tasks[j]? = some t) (works : ∃ p, t.phase = .working p) :
    j ≠ i ∧ r.tasks[j]? = some t := by
  obtain ⟨p, working⟩ := works
  unfold cancelAt at here
  cases place : r.tasks[i]? with
  | none =>
    rw [place] at here
    refine ⟨?_, here⟩
    rintro rfl
    cases place.symm.trans here
  | some u =>
    rw [place] at here
    dsimp only at here
    cases phase : u.phase with
    | working q =>
      rw [phase] at here
      rcases setTask_getElem? here with ⟨-, rfl⟩ | other
      · cases working
      · exact other
    | unstarted | waiting | finished | cancelled =>
      rw [phase] at here
      refine ⟨?_, here⟩
      rintro rfl
      cases place.symm.trans here
      cases phase.symm.trans working

theorem Sound.startTask (h : r.Sound kind) (i : Nat) (w : World) :
    (r.startTask i w).1.Sound kind ∧ (r.startTask i w).2.calls = w.calls := by
  unfold Roster.startTask
  cases place : r.tasks[i]? with
  | none => exact ⟨h, rfl⟩
  | some t =>
    dsimp only
    split
    · exact ⟨h, rfl⟩
    · exact h.rest (h.fit t (List.mem_of_getElem? place)) i _

theorem Sound.start (h : r.Sound kind) (w : World) :
    (r.start w).1.Sound kind ∧ (r.start w).2.calls = w.calls :=
  foldl_keeps (fun i _ w sound => sound.startTask i w) _ r w h

theorem start_stopping (r : Roster) (w : World) : (r.start w).1.stopping = r.stopping := by
  have one (i : Nat) (r : Roster) (w : World) : (r.startTask i w).1.stopping = r.stopping := by
    unfold Roster.startTask
    split
    · rfl
    · split
      · rfl
      · exact rest_stopping _ _ _ _
  have all (places : List Nat) (s : Roster × World) :
      (places.foldl (fun s i => s.1.startTask i s.2) s).1.stopping = s.1.stopping := by
    induction places generalizing s with
    | nil => rfl
    | cons i places ih => exact (ih _).trans (one i s.1 s.2)
  exact all _ _

theorem Sound.add (h : r.Sound kind) {d : Duty} (keeps : ∀ n, (d.work n).Asks (Query.Keeps kind)) :
    (r.add d).Sound kind where
  fit t here := by
    rcases List.mem_append.mp here with there | new
    · exact h.fit t there
    · cases List.mem_singleton.mp new
      exact ⟨keeps, nofun⟩
  heard stopping t here := by
    rcases List.mem_append.mp here with there | new
    · exact h.heard stopping t there
    · cases List.mem_singleton.mp new
      rfl

theorem Sound.addAll (h : r.Sound kind) {ds : List Duty}
    (keeps : ∀ d ∈ ds, ∀ n, (d.work n).Asks (Query.Keeps kind)) :
    (ds.foldl Roster.add r).Sound kind := by
  induction ds generalizing r with
  | nil => exact h
  | cons d ds ih =>
    obtain ⟨own, others⟩ := List.forall_mem_cons.mp keeps
    exact ih (h.add own) others

/-- Some tasks have come to an end, and nothing has begun. -/
structure Ends (r r' : Roster) : Prop where
  tasks : ∀ t ∈ r'.tasks, t ∈ r.tasks ∨ t.isActive = false ∧ ∃ u ∈ r.tasks, t.duty = u.duty
  began : r'.Began → r.Began
  stopping : r'.stopping = r.stopping

namespace Ends

variable {r' r'' : Roster}

theorem refl (r : Roster) : r.Ends r := ⟨fun _ => .inl, id, rfl⟩

theorem trans (h : r.Ends r') (h' : r'.Ends r'') : r.Ends r'' where
  tasks t here := by
    rcases h'.tasks t here with there | ⟨ended, u, there, same⟩
    · exact h.tasks t there
    · rcases h.tasks u there with first | ⟨-, v, first, same'⟩
      · exact .inr ⟨ended, u, first, same⟩
      · exact .inr ⟨ended, v, first, same.trans same'⟩
  began := h.began ∘ h'.began
  stopping := h'.stopping.trans h.stopping

theorem fit (h : r.Ends r') (fit : ∀ t ∈ r.tasks, t.Fit kind) : ∀ t ∈ r'.tasks, t.Fit kind := by
  intro t here
  rcases h.tasks t here with there | ⟨ended, u, there, same⟩
  · exact fit t there
  · refine ⟨same ▸ (fit u there).duty, fun p working => ?_⟩
    unfold Task.isActive at ended
    rw [working] at ended
    cases ended

theorem idle (h : r.Ends r') (idle : r.Idle) : r'.Idle := by
  intro t here
  rcases h.tasks t here with there | ⟨ended, -⟩
  · exact idle t there
  · exact ended

theorem heard (h : r.Ends r') (heard : ∀ t ∈ r.tasks, t.turn? = none) :
    ∀ t ∈ r'.tasks, t.turn? = none := by
  intro t here
  rcases h.tasks t here with there | ⟨ended, -⟩
  · exact heard t there
  · unfold Task.isActive at ended
    unfold Task.turn?
    cases phase : t.phase with
    | waiting =>
      rw [phase] at ended
      cases ended
    | unstarted | working | finished | cancelled => rfl

theorem setTask {u : Task} (here : r.tasks[i]? = some u) (ended : t.isActive = false)
    (same : t.duty = u.duty) : r.Ends (r.setTask i t) where
  tasks v there := by
    rcases List.mem_or_eq_of_mem_set there with before | rfl
    · exact .inl before
    · exact .inr ⟨ended, u, List.mem_of_getElem? here, same⟩
  began := id
  stopping := rfl

theorem mark (r : Roster) (w : World) (name : Text) {m : Mark} (quiet : m ≠ .began) :
    r.Ends (r.mark w name m) where
  tasks _ := .inl
  began began := by
    obtain ⟨x, here, begins⟩ := began
    rcases List.mem_cons.mp here with rfl | there
    · exact absurd begins quiet
    · exact ⟨x, there, begins⟩
  stopping := rfl

end Ends

theorem finishAt_ends (i : Nat) (r : Roster) (w : World) :
    r.Ends (r.finishAt i w).1 ∧ (r.finishAt i w).2.calls = w.calls := by
  unfold finishAt
  cases place : r.tasks[i]? with
  | none => exact ⟨.refl r, rfl⟩
  | some t => exact ⟨.setTask place rfl rfl, rfl⟩

theorem cancelAt_ends (i : Nat) (r : Roster) (w : World) :
    r.Ends (r.cancelAt i w).1 ∧ (r.cancelAt i w).2.calls = w.calls := by
  unfold cancelAt
  cases place : r.tasks[i]? with
  | none => exact ⟨.refl r, rfl⟩
  | some t =>
    dsimp only
    split
    · have marked := Ends.mark r w t.duty.name (m := .cancelled) nofun
      have ended : Task.isActive { t with phase := .cancelled, ticks := t.ticks + 1 } = false := rfl
      exact ⟨marked.trans (.setTask (r := r.mark w t.duty.name .cancelled) place ended rfl), rfl⟩
    · exact ⟨.refl r, rfl⟩

theorem foldl_ends (step : ∀ i r w, r.Ends (f i r w).1 ∧ (f i r w).2.calls = w.calls)
    (places : List Nat) (r : Roster) (w : World) :
    r.Ends (places.foldl (fun s i => f i s.1 s.2) (r, w)).1 ∧
      (places.foldl (fun s i => f i s.1 s.2) (r, w)).2.calls = w.calls := by
  refine foldl_keeps (I := r.Ends) (fun i r' w ends => ?_) places r w (.refl r)
  obtain ⟨more, calls⟩ := step i r' w
  exact ⟨ends.trans more, calls⟩

theorem stop_stopping (r : Roster) (w : World) : (r.stop w).1.stopping = true := by
  unfold Roster.stop
  split
  · rename_i stopping
    exact stopping
  · exact (foldl_ends finishAt_ends _ _ w).1.stopping

theorem Sound.stop (h : r.Sound kind) (w : World) :
    (r.stop w).1.Sound kind ∧ (r.Idle → (r.stop w).1.Idle) ∧ ((r.stop w).1.Began → r.Began) ∧
      (r.stop w).2.calls = w.calls := by
  unfold Roster.stop
  by_cases stopping : r.stopping = true
  · rw [if_pos stopping]
    exact ⟨h, id, id, rfl⟩
  · rw [if_neg stopping]
    dsimp only
    have asked := Ends.mark r w [] (m := .stopAsked) nofun
    obtain ⟨ends, calls⟩ := foldl_ends finishAt_ends
      ({ r.mark w [] .stopAsked with stopping := true } : Roster).line
      { r.mark w [] .stopAsked with stopping := true } w
    refine ⟨⟨ends.fit h.fit, fun _ t here => ?_⟩, fun idle => ends.idle idle,
      fun began => asked.began (ends.began began), calls⟩
    obtain ⟨j, place⟩ := List.mem_iff_getElem?.mp here
    cases waits : t.turn? with
    | none => rfl
    | some turn =>
      have waits : t.turn? ≠ none := by simp [waits]
      obtain ⟨absent, there⟩ := foldl_clears (fun t => t.turn? ≠ none) finishAt_clears _ _ w
        place waits
      exact absurd (mem_line there waits) absent

theorem dismiss_stopping (timeout : Binary64) (r : Roster) (w : World) :
    (r.dismiss timeout w).1.stopping = r.stopping :=
  (foldl_ends cancelAt_ends (List.range r.tasks.length) r _).1.stopping

theorem Sound.dismiss (h : r.Sound kind) (stopping : r.stopping = true) (timeout : Binary64)
    (w : World) : (r.dismiss timeout w).1.Sound kind ∧ (r.dismiss timeout w).1.Idle ∧
      ((r.dismiss timeout w).1.Began → r.Began) ∧ (r.dismiss timeout w).2.calls = w.calls := by
  obtain ⟨ends, calls⟩ := foldl_ends cancelAt_ends (List.range r.tasks.length) r
    (w.logLine .warning (r.forcedLine timeout))
  have heard := ends.heard (h.heard stopping)
  refine ⟨⟨ends.fit h.fit, fun _ => heard⟩, fun t here => ?_, ends.began, calls⟩
  have waitsNot := heard t here
  obtain ⟨j, place⟩ := List.mem_iff_getElem?.mp here
  unfold Task.turn? at waitsNot
  unfold Task.isActive
  cases phase : t.phase with
  | waiting =>
    rw [phase] at waitsNot
    cases waitsNot
  | working p =>
    obtain ⟨absent, there⟩ := foldl_clears (fun t => ∃ p, t.phase = .working p) cancelAt_clears
      _ _ _ place ⟨p, phase⟩
    obtain ⟨bound, -⟩ := List.getElem?_eq_some_iff.mp there
    exact absurd (List.mem_range.mpr bound) absent
  | unstarted | finished | cancelled => rfl

end Roster

end Faucet
