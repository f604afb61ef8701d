import Mathlib.Algebra.Order.BigOperators.Group.List
import Mathlib.Algebra.Order.Ring.Nat
import Faucet.Proofs.Lasting
import Faucet.Proofs.Tasks

/-!
The turns of a roster. A turn moves one task on and leaves the others where they are; it takes no time
itself, and leaves its task with nothing to do before a later time. So a roster that lets its tasks
take their turns up to a time gets there.
-/

set_option autoImplicit false

namespace Faucet

namespace Paused

def endMarks : Paused Unit → List Mark
  | .ended (.ok ()) => [.ended]
  | .ended (.error e) => [.failed e]
  | _ => []

end Paused

namespace Task

/-- A task that has nothing to do: it comes to its end if a stop was asked for, and waits if not. -/
def rested (t : Task) (stopping : Bool) (turn now : Nat) : Task :=
  if stopping then { t with phase := .finished }
  else { t with phase := .waiting (t.duty.span?.map (now + ·)) turn }

def settled (t : Task) (stopping : Bool) (turn now : Nat) : Paused Unit → Task
  | .ended _ => rested { t with ticks := t.ticks + 1 } stopping turn now
  | work => { t with phase := .working work }

def proceed (t : Task) (w : World) : Paused Unit × World :=
  match t.phase with
  | .working work => work.resume StoreStep.stepper w
  | _ => (t.duty.work t.ticks).advance StoreStep.stepper w

/-- A turn is new unless it goes on with work that was begun before. -/
def openMarks (t : Task) : List Mark :=
  match t.phase with
  | .waiting .. => [.began]
  | _ => []

def stopped (t : Task) : Task :=
  match t.phase with
  | .waiting .. => { t with phase := .finished }
  | _ => t

variable (t : Task) (stopping : Bool) (turn now : Nat)

theorem rested_duty : (t.rested stopping turn now).duty = t.duty := by
  unfold rested
  split <;> rfl

theorem settled_duty (p : Paused Unit) : (t.settled stopping turn now p).duty = t.duty := by
  cases p with
  | ended r => exact rested_duty _ _ _ _
  | waiting | calling => rfl

theorem stopped_duty : t.stopped.duty = t.duty := by
  unfold stopped
  split <;> rfl

theorem proceed_ahead (w : World) : Paused.Ahead w (t.proceed w) := by
  unfold proceed
  split
  · exact Paused.resume_ahead _ w
  · exact Job.advance_ahead _ w

theorem isActive_of_wake? {u : Nat} (wakes : t.wake? = some u) : t.isActive = true := by
  unfold wake? at wakes
  unfold isActive
  cases phase : t.phase with
  | waiting | working => rfl
  | unstarted | finished | cancelled =>
    rw [phase] at wakes
    cases wakes

theorem spanOf?_pos {b : Binary64} {us : Nat} (span : Duty.spanOf? b = some us) : 0 < us := by
  cases b with
  | finite n m e =>
    obtain rfl := Option.some.inj span
    omega
  | infinite | nan => cases span

/-- Whoever has done what there was to do has something to do at a later time only. -/
theorem proceed_late {w : World} {u : Nat}
    (wakes : (t.settled stopping turn w.elapsed (t.proceed w).1).wake? = some u) : w.elapsed < u := by
  have late := (t.proceed_ahead w).late
  generalize (t.proceed w).1 = p at late wakes
  cases p with
  | ended r =>
    unfold settled rested at wakes
    dsimp only at wakes
    split at wakes
    · cases wakes
    · change t.duty.span?.map (w.elapsed + ·) = some u at wakes
      obtain ⟨us, span, rfl⟩ := Option.map_eq_some_iff.mp wakes
      have pos := spanOf?_pos span
      omega
  | waiting | calling => exact late u wakes

end Task

namespace Roster

variable {r : Roster} {w : World} {i : Nat} {t : Task}

def dues (r : Roster) : List (Option (Nat × Nat)) :=
  r.tasks.zipIdx.map fun p => p.1.wake?.map fun t => (t, p.2)

theorem earlier_cases (x y : Option (Nat × Nat)) :
    (earlier x y = x ∨ earlier x y = y) ∧ (earlier x y = none → x = none ∧ y = none) ∧
      ∀ v, earlier x y = some v → (∀ a, x = some a → v.1 ≤ a.1) ∧ ∀ b, y = some b → v.1 ≤ b.1 := by
  match x, y with
  | none, y => exact ⟨.inr rfl, fun none => ⟨rfl, none⟩, fun v same =>
      ⟨nofun, fun b own => by cases same.symm.trans own; exact Nat.le_refl _⟩⟩
  | some x, none => exact ⟨.inl rfl, nofun, fun v same => ⟨fun a own => by
      cases same.symm.trans own; exact Nat.le_refl _, nofun⟩⟩
  | some x, some y =>
    have picks : earlier (some x) (some y) = if y.1 < x.1 then some y else some x := rfl
    rw [picks]
    split
    · exact ⟨.inr rfl, nofun, fun v same => by
        cases same
        exact ⟨fun a own => by cases own; omega, fun b own => by cases own; exact Nat.le_refl _⟩⟩
    · exact ⟨.inl rfl, nofun, fun v same => by
        cases same
        exact ⟨fun a own => by cases own; exact Nat.le_refl _, fun b own => by cases own; omega⟩⟩

theorem foldl_earlier (l : List (Option (Nat × Nat))) (x : Option (Nat × Nat)) :
    (l.foldl earlier x = x ∨ l.foldl earlier x ∈ l) ∧
      (l.foldl earlier x = none → x = none ∧ ∀ y ∈ l, y = none) ∧
      ∀ v, l.foldl earlier x = some v →
        (∀ a, x = some a → v.1 ≤ a.1) ∧ ∀ b, some b ∈ l → v.1 ≤ b.1 := by
  induction l generalizing x with
  | nil => exact ⟨.inl rfl, fun none => ⟨none, List.forall_mem_nil _⟩, fun v same =>
      ⟨fun a own => by cases same.symm.trans own; exact Nat.le_refl _,
        fun b here => absurd here List.not_mem_nil⟩⟩
  | cons y l ih =>
    obtain ⟨from', empty, least⟩ := ih (earlier x y)
    obtain ⟨either, both, first⟩ := earlier_cases x y
    refine ⟨?_, fun none => ?_, fun v same => ?_⟩
    · rcases from' with same | there
      · rcases either with first | second
        · exact .inl (same.trans first)
        · exact .inr (List.mem_cons.mpr (.inl (same.trans second)))
      · exact .inr (List.mem_cons_of_mem y there)
    · obtain ⟨first, rest⟩ := empty none
      exact ⟨(both first).1, List.forall_mem_cons.mpr ⟨(both first).2, rest⟩⟩
    · obtain ⟨before, after⟩ := least v same
      cases picked : earlier x y with
      | none =>
        obtain ⟨rfl, rfl⟩ := both picked
        exact ⟨nofun, fun b here => after b ((List.mem_cons.mp here).resolve_left nofun)⟩
      | some u =>
        obtain ⟨left, right⟩ := first u picked
        have le := before u picked
        refine ⟨fun a own => Nat.le_trans le (left a own), fun b here => ?_⟩
        rcases List.mem_cons.mp here with own | there
        · exact Nat.le_trans le (right b own.symm)
        · exact after b there

theorem due?_some {at' : Nat} (due : r.due? = some (at', i)) :
    ∃ t, r.tasks[i]? = some t ∧ t.wake? = some at' := by
  have here : r.due? = none ∨ r.due? ∈ r.dues := (foldl_earlier r.dues none).1
  rw [due] at here
  rcases here with none | listed
  · cases none
  · obtain ⟨⟨t, j⟩, place, own⟩ := List.mem_map.mp listed
    obtain ⟨_, wakes, same⟩ := Option.map_eq_some_iff.mp own
    cases same
    exact ⟨t, List.mem_zipIdx_iff_getElem?.mp place, wakes⟩

theorem mem_dues (here : t ∈ r.tasks) : ∃ j, t.wake?.map (fun u => (u, j)) ∈ r.dues := by
  obtain ⟨j, place⟩ := List.mem_iff_getElem?.mp here
  have listed : (t, j) ∈ r.tasks.zipIdx := List.mem_zipIdx_iff_getElem?.mpr place
  exact ⟨j, List.mem_map_of_mem listed⟩

theorem wake?_of_due?_none (due : r.due? = none) : ∀ t ∈ r.tasks, t.wake? = none := by
  intro t here
  obtain ⟨j, listed⟩ := mem_dues here
  exact Option.map_eq_none_iff.mp (((foldl_earlier r.dues none).2.1 due).2 _ listed)

theorem due?_le {at' : Nat} (due : r.due? = some (at', i)) (here : t ∈ r.tasks) {u : Nat}
    (wakes : t.wake? = some u) : at' ≤ u := by
  obtain ⟨j, listed⟩ := mem_dues here
  rw [wakes] at listed
  exact ((foldl_earlier r.dues none).2.2 _ due).2 _ listed

theorem Idle.due? (h : r.Idle) : r.due? = none := by
  cases due : r.due? with
  | none => rfl
  | some next =>
    obtain ⟨t, place, wakes⟩ := due?_some due
    cases (h t (List.mem_of_getElem? place)).symm.trans (t.isActive_of_wake? wakes)

/-- One task is another one now, and marks have been made for it. -/
structure Turned (i : Nat) (t : Task) (marks : List Mark) (r : Roster) (w : World)
    (out : Roster × World) : Prop where
  tasks : out.1.tasks = r.tasks.set i t
  stopping : out.1.stopping = r.stopping
  still : out.2.elapsed = w.elapsed
  history : out.1.history = marks.map (fun m => (w.elapsed, t.duty.name, m)) ++ r.history

theorem rest_turned (i : Nat) (t : Task) (r : Roster) (w : World) :
    Turned i (t.rested r.stopping r.turn w.elapsed) [] r w (r.rest i t w) := by
  unfold Roster.rest Task.rested
  split <;> exact ⟨rfl, rfl, rfl, rfl⟩

theorem settle_turned (i : Nat) (t : Task) (r : Roster) (w : World) (p : Paused Unit) :
    Turned i (t.settled r.stopping r.turn w.elapsed p) p.endMarks r w (r.settle i t w p) := by
  -- the marks of the end come before the task is put to rest
  have rests (t' : Task) (m : Mark) (same : t'.duty = t.duty) (w' : World)
      (still : w'.elapsed = w.elapsed) : Turned i (t'.rested r.stopping r.turn w.elapsed) [m] r w
        ((r.mark w t.duty.name m).rest i t' w') := by
    obtain ⟨tasks, stopping, still', history⟩ := rest_turned i t' (r.mark w t.duty.name m) w'
    refine ⟨still ▸ tasks, stopping, still'.trans still, history.trans ?_⟩
    rw [← same, ← t'.rested_duty r.stopping r.turn w.elapsed]
    rfl
  cases p with
  | ended e =>
    cases e with
    | ok u => exact rests { t with ticks := t.ticks + 1 } .ended rfl w rfl
    | error e => exact rests { t with ticks := t.ticks + 1 } (.failed e) rfl _ rfl
  | waiting | calling => exact ⟨rfl, rfl, rfl, rfl⟩

theorem wake_turned (here : r.tasks[i]? = some t) (active : t.isActive = true) (w : World) :
    Turned i (t.settled r.stopping r.turn (t.proceed w).2.elapsed (t.proceed w).1)
      ((t.proceed w).1.endMarks ++ t.openMarks) r w (r.wake i w) := by
  have still := (t.proceed_ahead w).still
  unfold Roster.wake
  rw [here]
  unfold Task.isActive at active
  unfold Task.openMarks Task.proceed
  unfold Task.proceed at still
  dsimp only
  cases phase : t.phase with
  | unstarted | finished | cancelled =>
    rw [phase] at active
    cases active
  | waiting wake turn =>
    rw [phase] at still
    obtain ⟨tasks, stopping, still', history⟩ := settle_turned i t (r.mark w t.duty.name .began)
      ((t.duty.work t.ticks).advance StoreStep.stepper w).2
      ((t.duty.work t.ticks).advance StoreStep.stepper w).1
    refine ⟨tasks, stopping, still'.trans still, history.trans ?_⟩
    rw [still, List.map_append, List.append_assoc, Task.settled_duty, Task.settled_duty]
    rfl
  | working p =>
    rw [phase] at still
    obtain ⟨tasks, stopping, still', history⟩ := settle_turned i t r (p.resume StoreStep.stepper w).2
      (p.resume StoreStep.stepper w).1
    refine ⟨tasks, stopping, still'.trans still, history.trans ?_⟩
    rw [still, List.append_nil]

theorem startTask_turned (here : r.tasks[i]? = some t) (fresh : t.isStarted = false) (w : World) :
    Turned i (t.rested r.stopping r.turn w.elapsed) [] r w (r.startTask i w) := by
  unfold Roster.startTask
  rw [here]
  dsimp only
  rw [fresh]
  obtain ⟨tasks, stopping, still, history⟩ := rest_turned i t r (w.logLine .info t.duty.startLine)
  exact ⟨tasks, stopping, still, history⟩

theorem startTask_started (started : ∀ t, r.tasks[i]? = some t → t.isStarted = true) (w : World) :
    r.startTask i w = (r, w) := by
  unfold Roster.startTask
  cases here : r.tasks[i]? with
  | none => rfl
  | some t => exact if_pos (started t here)

def Clear (r : Roster) (time : Nat) : Prop := ∀ t ∈ r.tasks, ∀ u, t.wake? = some u → time ≤ u

/-- A turn of the task that is next. -/
structure Due (r : Roster) (w : World) (at' i : Nat) (t : Task) : Prop where
  here : r.tasks[i]? = some t
  wakes : t.wake? = some at'
  active : t.isActive = true
  now : (w.elapse (at' - w.elapsed)).elapsed = at'

theorem Clear.due {at' : Nat} (clear : r.Clear w.elapsed) (due : r.due? = some (at', i)) :
    ∃ t, Due r w at' i t := by
  obtain ⟨t, here, wakes⟩ := due?_some due
  refine ⟨t, here, wakes, t.isActive_of_wake? wakes, ?_⟩
  have le := clear t (List.mem_of_getElem? here) at' wakes
  change w.elapsed + (at' - w.elapsed) = at'
  omega

theorem Due.turned {at' : Nat} (h : Due r w at' i t) :
    ∃ w', w'.elapsed = at' ∧ Turned i (t.settled r.stopping r.turn at' (t.proceed w').1)
      ((t.proceed w').1.endMarks ++ t.openMarks) r w' (r.wake i (w.elapse (at' - w.elapsed))) := by
  have turned := wake_turned h.here h.active (w.elapse (at' - w.elapsed))
  rw [(t.proceed_ahead _).still, h.now] at turned
  exact ⟨_, h.now, turned⟩

theorem Due.clear {at' : Nat} (h : Due r w at' i t) (due : r.due? = some (at', i)) :
    let out := r.wake i (w.elapse (at' - w.elapsed))
    out.2.elapsed = at' ∧ out.1.Clear out.2.elapsed := by
  obtain ⟨w', rfl, turned⟩ := h.turned
  refine ⟨turned.still, fun u here v wakes => ?_⟩
  rw [turned.still]
  rw [turned.tasks] at here
  rcases List.mem_or_eq_of_mem_set here with other | rfl
  · exact due?_le due other wakes
  · exact Nat.le_of_lt (t.proceed_late _ _ wakes)

theorem runWithin_keeps {I : Roster → Prop} (limit : Option Nat)
    (step : ∀ (r : Roster) (w : World) (at' i : Nat) (t : Task), I r → Due r w at' i t →
      limit.all (at' < ·) = true → I (r.wake i (w.elapse (at' - w.elapsed))).1)
    (fuel : Nat) (r : Roster) (w : World) (clear : r.Clear w.elapsed) (h : I r) :
    let out := r.runWithin limit fuel w
    I out.1 ∧ out.1.Clear out.2.elapsed := by
  induction fuel generalizing r w with
  | zero => exact ⟨h, clear⟩
  | succ fuel ih =>
    unfold Roster.runWithin
    cases due : r.due? with
    | none => exact ⟨h, clear⟩
    | some next =>
      obtain ⟨at', i⟩ := next
      dsimp only
      split
      · rename_i early
        obtain ⟨t, turn⟩ := clear.due due
        exact ih _ _ (turn.clear due).2 (step r w at' i t h turn early)
      · exact ⟨h, clear⟩

def Task.room (limit : Nat) (t : Task) : Nat := (t.wake?.map (limit - ·)).getD 0

def room (limit : Nat) (r : Roster) : Nat := (r.tasks.map (Task.room limit)).sum

theorem sum_set_lt {l : List Nat} {i a b : Nat} (here : l[i]? = some a) (less : b < a) :
    (l.set i b).sum < l.sum := by
  induction l generalizing i with
  | nil => cases here
  | cons x l ih =>
    cases i with
    | zero =>
      obtain rfl := Option.some.inj here
      rw [List.set_cons_zero, List.sum_cons, List.sum_cons]
      omega
    | succ i =>
      have rest := ih here
      rw [List.set_cons_succ, List.sum_cons, List.sum_cons]
      omega

/-- With each turn there is less room before a limit. -/
theorem Due.room_lt {at' limit : Nat} (h : Due r w at' i t) (early : at' < limit) :
    (r.wake i (w.elapse (at' - w.elapsed))).1.room limit < r.room limit := by
  obtain ⟨w', rfl, turned⟩ := h.turned
  unfold room
  rw [turned.tasks, List.map_set]
  refine sum_set_lt (a := Task.room limit t) ?_ ?_
  · rw [List.getElem?_map, h.here]
    rfl
  · have before : Task.room limit t = limit - w'.elapsed := by
      unfold Task.room
      rw [h.wakes]
      rfl
    rw [before]
    unfold Task.room
    cases wakes : (t.settled r.stopping r.turn w'.elapsed (t.proceed w').1).wake? with
    | none => exact Nat.sub_pos_of_lt early
    | some u =>
      have later := t.proceed_late _ _ wakes
      change limit - u < limit - w'.elapsed
      omega

theorem Clear.room_le (clear : r.Clear w.elapsed) (limit : Nat) :
    r.room limit ≤ r.tasks.length * (limit - w.elapsed) := by
  have each : ∀ x ∈ r.tasks.map (Task.room limit), x ≤ limit - w.elapsed := by
    intro x here
    obtain ⟨t, listed, rfl⟩ := List.mem_map.mp here
    unfold Task.room
    cases wakes : t.wake? with
    | none => exact Nat.zero_le _
    | some u =>
      have le := clear t listed u wakes
      change limit - u ≤ limit - w.elapsed
      omega
  have all := List.sum_le_card_nsmul _ _ each
  rw [List.length_map] at all
  exact all

theorem runWithin_clear (limit fuel : Nat) (r : Roster) (w : World) (clear : r.Clear w.elapsed)
    (enough : r.room limit < fuel) :
    let out := r.runWithin (some limit) fuel w
    out.1.Clear limit ∧ w.elapsed ≤ out.2.elapsed ∧ out.2.elapsed ≤ max w.elapsed limit := by
  induction fuel generalizing r w with
  | zero => cases enough
  | succ fuel ih =>
    have stays : w.elapsed ≤ w.elapsed ∧ w.elapsed ≤ max w.elapsed limit :=
      ⟨Nat.le_refl _, Nat.le_max_left _ _⟩
    unfold Roster.runWithin
    cases due : r.due? with
    | none =>
      refine ⟨fun t here u wakes => ?_, stays⟩
      cases (wake?_of_due?_none due t here).symm.trans wakes
    | some next =>
      obtain ⟨at', i⟩ := next
      dsimp only
      split
      · rename_i early
        have early : at' < limit := of_decide_eq_true early
        obtain ⟨t, turn⟩ := clear.due due
        obtain ⟨now, clear'⟩ := turn.clear due
        have less := turn.room_lt early
        obtain ⟨done, after, before⟩ := ih _ _ clear' (by omega)
        rw [now] at after before
        have le := clear t (List.mem_of_getElem? turn.here) at' turn.wakes
        exact ⟨done, Nat.le_trans le after, by omega⟩
      · rename_i late
        have late : ¬at' < limit := fun early => late (decide_eq_true early)
        refine ⟨fun t here u wakes => ?_, stays⟩
        have le := due?_le due here wakes
        omega

theorem Clear.enough (clear : r.Clear w.elapsed) (time : Nat) :
    r.room time < r.steps (time - w.elapsed) := by
  have le := clear.room_le time
  unfold steps
  rw [Nat.mul_add]
  omega

theorem Clear.runTo (clear : r.Clear w.elapsed) (time : Nat) :
    (r.runTo time w).1.Clear (r.runTo time w).2.elapsed ∧
      (r.runTo time w).2.elapsed = max w.elapsed time := by
  obtain ⟨done, after, before⟩ := runWithin_clear time _ r w clear (clear.enough time)
  obtain ⟨-, own⟩ := runWithin_keeps (I := fun _ => True) (some time) (fun _ _ _ _ _ _ _ _ => trivial)
    (r.steps (time - w.elapsed)) r w clear trivial
  unfold Roster.runTo
  generalize r.runWithin (some time) (r.steps (time - w.elapsed)) w = out at done after before own
  obtain ⟨r', w'⟩ := out
  change w'.elapsed ≤ _ at before
  change w.elapsed ≤ w'.elapsed at after
  change r'.Clear (w'.elapsed + (time - w'.elapsed)) ∧ w'.elapsed + (time - w'.elapsed) = _
  refine ⟨fun t here u wakes => ?_, by omega⟩
  have first := done t here u wakes
  have second : w'.elapsed ≤ u := own t here u wakes
  omega

theorem runOut_of_acc (acc : Acc Next (r, w)) :
    r.runOut w = (r.next? w).elim (r, w) fun later => later.1.runOut later.2 := by
  have : Nonempty (Roster × World) := ⟨(r, w)⟩
  unfold runOut
  rw [WellFounded.partialExtrinsicFix_eq_apply_of_acc acc]
  dsimp only
  split
  · rename_i idle
    rw [idle, Option.elim_none]
  · rename_i turn
    rw [turn]
    rfl

theorem runOut_of_idle (done : r.due? = none) : Acc Next (r, w) ∧ r.runOut w = (r, w) := by
  have idle : r.next? w = none := congrArg (Option.map _) done
  have acc : Acc Next (r, w) := Acc.intro _ fun _ turn => nomatch idle.symm.trans turn
  exact ⟨acc, by rw [runOut_of_acc acc, idle, Option.elim_none]⟩

theorem runOut_of_next {later : Roster × World} (turn : r.next? w = some later)
    (acc : Acc Next later) : Acc Next (r, w) ∧ r.runOut w = later.1.runOut later.2 := by
  have here : Acc Next (r, w) :=
    Acc.intro _ fun _ other => Option.some.inj (turn.symm.trans other) ▸ acc
  exact ⟨here, by rw [runOut_of_acc here, turn, Option.elim_some]⟩

theorem runOut_eq {limit fuel : Nat} {r' : Roster} {w' : World}
    (runs : r.runWithin (some limit) fuel w = (r', w')) (done : r'.due? = none) :
    Acc Next (r, w) ∧ r.runOut w = (r', w') := by
  induction fuel generalizing r w with
  | zero =>
    cases runs
    exact runOut_of_idle done
  | succ fuel ih =>
    unfold Roster.runWithin at runs
    cases due : r.due? with
    | none =>
      rw [due] at runs
      cases runs
      exact runOut_of_idle due
    | some first =>
      rw [due] at runs
      dsimp only at runs
      split at runs
      · obtain ⟨acc, out⟩ := ih runs
        obtain ⟨here, same⟩ := runOut_of_next (congrArg (Option.map _) due) acc
        exact ⟨here, same.trans out⟩
      · cases runs
        cases due.symm.trans done

end Roster

end Faucet
