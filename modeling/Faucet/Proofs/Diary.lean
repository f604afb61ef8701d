import Faucet.Proofs.Halting

/-!
The marks that a task has made under a name of its own. Whatever the others do, they only change by what
the task itself does; turns begin and end by turns.
-/

set_option autoImplicit false

namespace Faucet

/-- Whether a mark is about the beginning of a turn or about its end, if it is about either. -/
def Mark.opens? : Mark → Option Bool
  | .began => some true
  | .ended | .failed _ | .cancelled => some false
  | .stopAsked => none

namespace Roster

variable {r : Roster} {i : Nat} {t t' : Task} {w : World} {marks : List Mark} {out : Roster × World}
  {F : Nat → Task → List (Nat × Bool) → Prop}

def duties (r : Roster) : List Duty := r.tasks.map (·.duty)

theorem duties_getElem? (here : r.tasks[i]? = some t) : r.duties[i]? = some t.duty := by
  unfold duties
  rw [List.getElem?_map, here]
  rfl

theorem duties_add (r : Roster) (d : Duty) : (r.add d).duties = r.duties ++ [d] := List.map_append

theorem Turned.duties (turned : Turned i t' marks r w out) (here : r.tasks[i]? = some t)
    (same : t'.duty = t.duty) : out.1.duties = r.duties := by
  obtain ⟨bound, rfl⟩ := List.getElem?_eq_some_iff.mp here
  unfold Roster.duties
  rw [turned.tasks, List.map_set, same]
  have mapped : i < (r.tasks.map (·.duty)).length := by
    rw [List.length_map]
    exact bound
  have self := List.set_getElem_self mapped
  rw [List.getElem_map] at self
  exact self

theorem stop_duties (going : r.stopping = false) (w : World) : (r.stop w).1.duties = r.duties := by
  unfold duties
  rw [stop_tasks going, List.map_map]
  exact List.map_congr_left fun t _ => t.stopped_duty

/-- When turns of some name began and when they ended, the latest first. -/
def marksOf (name : Text) (r : Roster) : List (Nat × Bool) :=
  r.history.filterMap fun x => if x.2.1 = name then x.2.2.opens?.map (x.1, ·) else none

theorem Turned.marksOf (turned : Turned i t marks r w out) (name : Text) :
    out.1.marksOf name = (if t.duty.name = name then
      marks.filterMap (fun m => m.opens?.map (w.elapsed, ·)) else []) ++ r.marksOf name := by
  unfold Roster.marksOf
  rw [turned.history, List.filterMap_append, List.filterMap_map]
  congr 1
  split
  · rename_i same
    exact List.filterMap_congr fun m _ => if_pos same
  · rename_i other
    exact List.filterMap_eq_nil_iff.mpr fun m _ => if_neg other

theorem stop_marksOf (going : r.stopping = false) (w : World) (name : Text) :
    (r.stop w).1.marksOf name = r.marksOf name := by
  unfold marksOf
  rw [(stop_same going w).1]
  exact List.filterMap_cons_none (ite_self none)

def Named (r : Roster) : Prop :=
  ∀ x ∈ r.history, x.2.2.opens? ≠ none → ∃ d ∈ r.duties, d.name = x.2.1

theorem Named.turned (h : r.Named) (here : r.tasks[i]? = some t)
    (turned : Turned i t' marks r w out) (same : t'.duty = t.duty) : out.1.Named := by
  intro x there opens
  rw [turned.duties here same]
  rw [turned.history] at there
  rcases List.mem_append.mp there with new | old
  · obtain ⟨m, -, rfl⟩ := List.mem_map.mp new
    exact ⟨t'.duty, same ▸ List.mem_of_getElem? (duties_getElem? here), rfl⟩
  · exact h x old opens

theorem Named.add (h : r.Named) (d : Duty) : (r.add d).Named := by
  intro x here opens
  obtain ⟨d', listed, name⟩ := h x here opens
  exact ⟨d', duties_add r d ▸ List.mem_append_left _ listed, name⟩

theorem Named.stop (h : r.Named) (going : r.stopping = false) (w : World) : (r.stop w).1.Named := by
  intro x here opens
  rw [(stop_same going w).1] at here
  rw [stop_duties going]
  rcases List.mem_cons.mp here with rfl | old
  · exact absurd rfl opens
  · exact h x old opens

def Own (r : Roster) (i : Nat) (name : Text) : Prop :=
  ∀ j d, r.duties[j]? = some d → d.name = name → j = i

theorem Own.of_add {name : Text} {d : Duty} (own : (r.add d).Own i name) : r.Own i name := by
  intro j d' here
  refine own j d' ?_
  rw [duties_add, List.getElem?_append_left (List.getElem?_eq_some_iff.mp here).1]
  exact here

theorem own_of_duties {r' : Roster} (same : r'.duties = r.duties) {name : Text}
    (own : r'.Own i name) : r.Own i name := by
  unfold Own at own ⊢
  rw [← same]
  exact own

theorem Named.marksOf_nil (h : r.Named) {name : Text} (none : ∀ d ∈ r.duties, d.name ≠ name) :
    r.marksOf name = [] := by
  refine List.filterMap_eq_nil_iff.mpr fun x here => ?_
  split
  · rename_i same
    cases opens : x.2.2.opens? with
    | none => rfl
    | some b =>
      obtain ⟨d, listed, named⟩ := h x here (by rw [opens]; nofun)
      exact absurd (named.trans same) (none d listed)
  · rfl

theorem Named.marksOf_new (h : r.Named) {d : Duty} (new : r.tasks.length ≤ i)
    (own : (r.add d).Own i d.name) : r.marksOf d.name = [] := by
  refine h.marksOf_nil fun d' listed same => ?_
  obtain ⟨j, place⟩ := List.mem_iff_getElem?.mp listed
  have bound : j < r.duties.length := (List.getElem?_eq_some_iff.mp place).1
  obtain rfl := own.of_add j d' place same
  unfold duties at bound
  rw [List.length_map] at bound
  exact absurd bound (Nat.not_lt_of_le new)

/-- Something holds of each task and of the marks that it has made. -/
def Each (F : Nat → Task → List (Nat × Bool) → Prop) (r : Roster) : Prop :=
  ∀ i t, r.tasks[i]? = some t →
    ∃ made, F i t made ∧ (r.Own i t.duty.name → r.marksOf t.duty.name = made)

theorem Each.add (h : r.Each F) (named : r.Named) (d : Duty)
    (new : F r.tasks.length { duty := d } []) : (r.add d).Each F := by
  intro i t here
  change (r.tasks ++ [{ duty := d }])[i]? = some t at here
  rcases Nat.lt_or_ge i r.tasks.length with old | late
  · rw [List.getElem?_append_left old] at here
    obtain ⟨made, holds, own⟩ := h i t here
    exact ⟨made, holds, own ∘ Own.of_add⟩
  · have bound := (List.getElem?_eq_some_iff.mp here).1
    rw [List.length_append, List.length_singleton] at bound
    obtain rfl : i = r.tasks.length := by omega
    rw [List.getElem?_append_right late] at here
    obtain rfl := List.mem_singleton.mp (List.mem_of_getElem? here)
    exact ⟨[], new, named.marksOf_new late⟩

theorem Each.turned (h : r.Each F) (here : r.tasks[i]? = some t)
    (turned : Turned i t' marks r w out) (same : t'.duty = t.duty)
    (goes : ∀ made, F i t made →
      F i t' (marks.filterMap (fun m => m.opens?.map (w.elapsed, ·)) ++ made)) : out.1.Each F := by
  intro j u there
  have owns {k : Nat} {name : Text} : out.1.Own k name → r.Own k name :=
    own_of_duties (turned.duties here same)
  rw [turned.tasks] at there
  rcases setTask_getElem? there with ⟨rfl, rfl⟩ | ⟨other, old⟩
  · obtain ⟨made, holds, own⟩ := h j t here
    refine ⟨_, goes made holds, fun alone => ?_⟩
    rw [turned.marksOf, same, if_pos rfl, own (owns (same ▸ alone))]
  · obtain ⟨made, holds, own⟩ := h j u old
    refine ⟨made, holds, fun alone => ?_⟩
    rw [turned.marksOf, if_neg fun named => ?_]
    · exact own (owns alone)
    · have place := duties_getElem? here
      rw [← same] at place
      exact other (owns alone i _ place named).symm

theorem Each.stop {F' : Nat → Task → List (Nat × Bool) → Prop} (h : r.Each F)
    (going : r.stopping = false) (w : World)
    (stops : ∀ i t made, r.tasks[i]? = some t → F i t made → F' i t.stopped made) :
    (r.stop w).1.Each F' := by
  intro i t here
  rw [stop_tasks going, List.getElem?_map] at here
  obtain ⟨u, old, rfl⟩ := Option.map_eq_some_iff.mp here
  obtain ⟨made, holds, own⟩ := h i u old
  refine ⟨made, stops i u made old holds, fun alone => ?_⟩
  rw [u.stopped_duty] at alone ⊢
  rw [stop_marksOf going]
  exact own (own_of_duties (stop_duties going w) alone)

/-- A dismissal is a turn of its own, if there is anything to dismiss. -/
theorem cancelAt_cases (i : Nat) (r : Roster) (w : World) :
    r.cancelAt i w = (r, w) ∨ ∃ t, r.tasks[i]? = some t ∧ t.isWorking = true ∧
      Turned i { t with phase := .cancelled, ticks := t.ticks + 1 } [.cancelled] r w
        (r.cancelAt i w) := by
  unfold cancelAt
  cases here : r.tasks[i]? with
  | none => exact .inl rfl
  | some t =>
    dsimp only
    unfold Task.isWorking
    cases phase : t.phase with
    | working work => exact .inr ⟨t, rfl, by rw [phase], ⟨rfl, rfl, rfl, rfl⟩⟩
    | _ => exact .inl rfl

theorem startTask_cases (i : Nat) (r : Roster) (w : World) :
    r.startTask i w = (r, w) ∨ ∃ t, r.tasks[i]? = some t ∧ t.isStarted = false ∧
      Turned i (t.rested r.stopping r.turn w.elapsed) [] r w (r.startTask i w) := by
  cases here : r.tasks[i]? with
  | none =>
    refine .inl (startTask_started (fun t own => ?_) w)
    cases here.symm.trans own
  | some t =>
    cases fresh : t.isStarted with
    | false => exact .inr ⟨t, rfl, fresh, startTask_turned here fresh w⟩
    | true =>
      refine .inl (startTask_started (fun u own => ?_) w)
      cases here.symm.trans own
      exact fresh

theorem wake_cases (i : Nat) (r : Roster) (w : World) :
    r.wake i w = (r, w) ∨ ∃ t, r.tasks[i]? = some t ∧ t.isActive = true ∧
      Turned i (t.settled r.stopping r.turn w.elapsed (t.proceed w).1)
        ((t.proceed w).1.endMarks ++ t.openMarks) r w (r.wake i w) := by
  cases here : r.tasks[i]? with
  | none =>
    unfold Roster.wake
    rw [here]
    exact .inl rfl
  | some t =>
    cases active : t.isActive with
    | true =>
      have turned := wake_turned here active w
      rw [(t.proceed_ahead w).still] at turned
      exact .inr ⟨t, rfl, active, turned⟩
    | false =>
      unfold Roster.wake
      rw [here]
      unfold Task.isActive at active
      dsimp only
      cases phase : t.phase with
      | waiting | working => rw [phase] at active; cases active
      | unstarted | finished | cancelled => exact .inl rfl

end Roster

end Faucet
