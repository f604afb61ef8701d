import Faucet.Proofs.Turns

/-!
What a stop and a dismissal make of the tasks of a roster. A stop ends those who wait and leaves those
who work alone; a dismissal ends those who work and leaves all others alone. Neither takes time.
-/

set_option autoImplicit false

namespace Faucet

namespace Task

def ended (t : Task) : Task := { t with phase := .finished }

def dismissed (t : Task) : Task :=
  match t.phase with
  | .working _ => { t with phase := .cancelled, ticks := t.ticks + 1 }
  | _ => t

theorem dismissed_dismissed (t : Task) : t.dismissed.dismissed = t.dismissed := by
  obtain ⟨duty, phase, ticks⟩ := t
  cases phase <;> rfl

def isWorking (t : Task) : Bool :=
  match t.phase with
  | .working _ => true
  | _ => false

theorem dismissed_of_idle {t : Task} (still : t.isWorking = false) : t.dismissed = t := by
  obtain ⟨duty, phase, ticks⟩ := t
  cases phase with
  | working => cases still
  | _ => rfl

theorem turn?_ne_none {t : Task} :
    t.turn? ≠ none ↔ ∃ wake turn, t.phase = .waiting wake turn := by
  unfold turn?
  cases t.phase with
  | waiting wake turn => exact ⟨fun _ => ⟨wake, turn, rfl⟩, fun _ => nofun⟩
  | _ => exact ⟨fun waits => absurd rfl waits, fun ⟨_, _, waits⟩ => nomatch waits⟩

end Task

namespace Roster

variable {r : Roster} {w : World} {i : Nat} {t : Task}

/-- What is done once to the task at each of some places, however often the place comes up. -/
theorem foldl_getElem? {f : Nat → Roster → World → Roster × World} {g : Task → Task}
    (again : ∀ t, g (g t) = g t)
    (one : ∀ i r w j, (f i r w).1.tasks[j]? = if j = i then r.tasks[j]?.map g else r.tasks[j]?)
    (places : List Nat) (r : Roster) (w : World) (j : Nat) :
    (places.foldl (fun s i => f i s.1 s.2) (r, w)).1.tasks[j]? =
      if j ∈ places then r.tasks[j]?.map g else r.tasks[j]? := by
  induction places generalizing r w with
  | nil => exact (if_neg List.not_mem_nil).symm
  | cons i places ih =>
    change (places.foldl _ (f i r w)).1.tasks[j]? = _
    rw [ih, one]
    by_cases here : j = i
    · rw [if_pos here, if_pos (List.mem_cons.mpr (.inl here)), Option.map_map]
      have same : g ∘ g = g := funext again
      rw [same, ite_self]
    · rw [if_neg here]
      simp only [List.mem_cons, here, false_or]

theorem getElem?_setTask (here : r.tasks[i]? = some t) {g : Task → Task} (j : Nat) :
    (r.setTask i (g t)).tasks[j]? = if j = i then r.tasks[j]?.map g else r.tasks[j]? := by
  obtain ⟨bound, -⟩ := List.getElem?_eq_some_iff.mp here
  change (r.tasks.set i (g t))[j]? = _
  by_cases same : j = i
  · rw [same, if_pos rfl, here, List.getElem?_set_self bound]
    rfl
  · rw [if_neg same, List.getElem?_set_ne (Ne.symm same)]

theorem getElem?_same {g : Task → Task} (own : r.tasks[i]?.map g = r.tasks[i]?) (j : Nat) :
    r.tasks[j]? = if j = i then r.tasks[j]?.map g else r.tasks[j]? := by
  split
  · rename_i same
    rw [same, own]
  · rfl

theorem finishAt_getElem? (i : Nat) (r : Roster) (w : World) (j : Nat) :
    (r.finishAt i w).1.tasks[j]? =
      if j = i then r.tasks[j]?.map Task.ended else r.tasks[j]? := by
  unfold finishAt
  cases here : r.tasks[i]? with
  | none => exact getElem?_same (by rw [here]; rfl) j
  | some t => exact getElem?_setTask here (g := Task.ended) j

theorem finishAt_same (i : Nat) (r : Roster) (w : World) :
    (r.finishAt i w).1.history = r.history ∧ (r.finishAt i w).1.stopping = r.stopping ∧
      (r.finishAt i w).2.elapsed = w.elapsed := by
  unfold finishAt
  cases r.tasks[i]? <;> exact ⟨rfl, rfl, rfl⟩

theorem mem_line_iff : i ∈ r.line ↔ ∃ t, r.tasks[i]? = some t ∧ t.turn? ≠ none := by
  refine ⟨fun here => ?_, fun ⟨t, here, waits⟩ => mem_line here waits⟩
  obtain ⟨⟨turn, j⟩, listed, rfl⟩ := List.mem_map.mp here
  obtain ⟨⟨t, j⟩, place, turns⟩ := List.mem_filterMap.mp (List.mem_mergeSort.mp listed)
  obtain ⟨_, waits, same⟩ := Option.map_eq_some_iff.mp turns
  cases same
  exact ⟨t, List.mem_zipIdx_iff_getElem?.mp place, Option.ne_none_iff_exists'.mpr ⟨turn, waits⟩⟩

/-- Those who wait come to their end at a stop, and those who work go on. -/
theorem stop_tasks (going : r.stopping = false) (w : World) :
    (r.stop w).1.tasks = r.tasks.map Task.stopped := by
  refine List.ext_getElem? fun j => ?_
  unfold Roster.stop
  rw [if_neg (by rw [going]; exact Bool.false_ne_true), List.getElem?_map]
  refine (foldl_getElem? (g := Task.ended) (fun _ => rfl) finishAt_getElem? _ _ w j).trans ?_
  change (if _ then r.tasks[j]?.map _ else r.tasks[j]?) = _
  cases here : r.tasks[j]? with
  | none => exact ite_self none
  | some t =>
    have waits : j ∈ r.line ↔ ∃ wake turn, t.phase = .waiting wake turn := by
      rw [mem_line_iff, ← Task.turn?_ne_none, here]
      exact ⟨fun ⟨_, same, waits⟩ => Option.some.inj same ▸ waits, fun waits => ⟨t, rfl, waits⟩⟩
    change (if j ∈ r.line then some _ else some t) = some t.stopped
    unfold Task.stopped
    cases phase : t.phase with
    | waiting wake turn => exact if_pos (waits.mpr ⟨wake, turn, phase⟩)
    | _ =>
      refine if_neg fun listed => ?_
      obtain ⟨_, _, waiting⟩ := waits.mp listed
      cases phase.symm.trans waiting

theorem stop_same (going : r.stopping = false) (w : World) :
    (r.stop w).1.history = (w.elapsed, [], .stopAsked) :: r.history ∧
      (r.stop w).2.elapsed = w.elapsed := by
  unfold Roster.stop
  rw [if_neg (by rw [going]; exact Bool.false_ne_true)]
  refine List.foldlRecOn (motive := fun s : Roster × World => s.1.history = _ ∧ s.2.elapsed = w.elapsed) _ _
    ⟨rfl, rfl⟩ fun s same i _ => ?_
  obtain ⟨history, -, still⟩ := finishAt_same i s.1 s.2
  exact ⟨history.trans same.1, still.trans same.2⟩

theorem stop_again (stopping : r.stopping = true) (w : World) : r.stop w = (r, w) := by
  unfold Roster.stop
  exact if_pos stopping

theorem cancelAt_getElem? (i : Nat) (r : Roster) (w : World) (j : Nat) :
    (r.cancelAt i w).1.tasks[j]? =
      if j = i then r.tasks[j]?.map Task.dismissed else r.tasks[j]? := by
  unfold cancelAt
  cases here : r.tasks[i]? with
  | none => exact getElem?_same (by rw [here]; rfl) j
  | some t =>
    have becomes : t.dismissed = match t.phase with
      | .working _ => { t with phase := .cancelled, ticks := t.ticks + 1 }
      | _ => t := rfl
    dsimp only
    cases phase : t.phase with
    | working work =>
      rw [phase] at becomes
      have set := getElem?_setTask here (g := Task.dismissed) j
      rw [becomes] at set
      exact set
    | _ =>
      rw [phase] at becomes
      refine getElem?_same ?_ j
      rw [here]
      exact congrArg some becomes

theorem cancelAt_elapsed (i : Nat) (r : Roster) (w : World) :
    (r.cancelAt i w).2.elapsed = w.elapsed := by
  unfold cancelAt
  split
  · rfl
  · split <;> rfl

theorem dismiss_tasks (timeout : Binary64) (r : Roster) (w : World) :
    (r.dismiss timeout w).1.tasks = r.tasks.map Task.dismissed := by
  refine List.ext_getElem? fun j => ?_
  refine (foldl_getElem? Task.dismissed_dismissed cancelAt_getElem? _ r _ j).trans ?_
  rw [List.getElem?_map]
  split
  · rfl
  · rename_i outside
    have none : r.tasks[j]? = none :=
      List.getElem?_eq_none (Nat.le_of_not_lt (outside ∘ List.mem_range.mpr))
    rw [none]
    rfl

end Roster

end Faucet
