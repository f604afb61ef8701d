import Mathlib.Algebra.BigOperators.Intervals
import Faucet.Proofs.OneAtATime
import Faucet.Proofs.Past

/-!
The timeline of a task. Its turns come at times that depend on when it was started, on its interval and
on how long its own turns take, and on nothing else: whoever else a roster keeps, and whatever becomes
of them. A stop ends it at once if it waits, and after its turn if it works.
-/

set_option autoImplicit false

namespace Faucet

theorem Task.isStarted_rested (t : Task) (stopping : Bool) (turn now : Nat) :
    (t.rested stopping turn now).isStarted = true := by
  unfold rested
  split <;> rfl

namespace Roster

variable {starts : Nat → Nat} {stop : Option Nat} {r : Roster} {w : World}

theorem unstarted_of_startTask {i j : Nat} {t : Task} (here : (r.startTask i w).1.tasks[j]? = some t)
    (fresh : t.isStarted = false) : r.tasks[j]? = some t := by
  rcases startTask_cases i r w with same | ⟨u, place, -, turned⟩
  · rw [same] at here
    exact here
  · rw [turned.tasks] at here
    rcases setTask_getElem? here with ⟨-, rfl⟩ | ⟨-, old⟩
    · cases (u.isStarted_rested _ _ _).symm.trans fresh
    · exact old

theorem elapsed_startTask (i : Nat) (r : Roster) (w : World) :
    (r.startTask i w).2.elapsed = w.elapsed := by
  rcases startTask_cases i r w with same | ⟨t, -, -, turned⟩
  · rw [same]
  · exact turned.still

theorem Past.start (past : r.Past starts stop w.elapsed)
    (own : ∀ i t, r.tasks[i]? = some t → t.isStarted = false → starts i = w.elapsed) :
    (r.start w).1.Past starts stop w.elapsed ∧ (r.start w).2.elapsed = w.elapsed := by
  have all := List.foldlRecOn (List.range r.tasks.length) (fun s i => s.1.startTask i s.2)
    (motive := fun s : Roster × World => (s.1.Past starts stop w.elapsed ∧ s.2.elapsed = w.elapsed) ∧
      ∀ i t, s.1.tasks[i]? = some t → t.isStarted = false → starts i = w.elapsed)
    (b := (r, w)) ⟨⟨past, rfl⟩, own⟩ fun s kept i _ => by
      obtain ⟨⟨past, still⟩, own⟩ := kept
      have same := (elapsed_startTask i s.1 s.2).trans still
      rw [← still] at past own
      refine ⟨⟨still ▸ past.begins i (own i), same⟩, fun j t here fresh => ?_⟩
      exact (own j t (unstarted_of_startTask here fresh) fresh).trans still
  exact all.1

theorem Past.runWithin (past : r.Past starts stop w.elapsed) (limit : Option Nat) (fuel : Nat) :
    (r.runWithin limit fuel w).1.Past starts stop (r.runWithin limit fuel w).2.elapsed := by
  induction fuel generalizing r w with
  | zero => exact past
  | succ fuel ih =>
    unfold Roster.runWithin
    cases due : r.due? with
    | none => exact past
    | some next =>
      obtain ⟨time, i⟩ := next
      dsimp only
      split
      · obtain ⟨t, turn⟩ := past.regular.clear.due due
        have waited : r.Past starts stop (w.elapse (time - w.elapsed)).elapsed := by
          refine past.waits (Nat.le_add_right _ _) fun u here v wakes => ?_
          rw [turn.now]
          exact due?_le due here wakes
        have moved := waited.turns turn.here (turn.now.symm ▸ turn.wakes)
        rw [turn.now] at moved
        exact ih ((turn.clear due).1.symm ▸ moved)
      · exact past

theorem Past.runTo (past : r.Past starts stop w.elapsed) (time : Nat) :
    (r.runTo time w).1.Past starts stop (r.runTo time w).2.elapsed := by
  obtain ⟨clear, -⟩ := past.regular.clear.runTo time
  have runs := past.runWithin (some time) (r.steps (time - w.elapsed))
  unfold Roster.runTo at clear ⊢
  exact runs.waits (Nat.le_add_right _ _) clear

end Roster

/-! ### Timetables -/

/-- When a task was started, the pause before each of its turns, and how long each turn takes. -/
structure Timetable where
  start : Nat
  interval : Nat
  lasts : Nat → Nat

namespace Timetable

variable (p : Timetable) {stop : Option Nat} {now n : Nat}

/-- The time at which a turn begins, counted from zero. -/
def begins (n : Nat) : Nat := p.start + (n + 1) * p.interval + ∑ k ∈ Finset.range n, p.lasts k

def ends (n : Nat) : Nat := p.begins n + p.lasts n

/-- A turn takes place if its time comes before the stop. -/
def Takes (stop : Option Nat) (n : Nat) : Prop := ∀ T, stop = some T → p.begins n < T

/-- The time at which a task is done that is told to stop: at once if no turn is in flight then, and at
the end of the turn otherwise. -/
def Closes (T e : Nat) : Prop :=
  e = T ∧ (∀ n, p.begins n < T → p.ends n ≤ T) ∨ ∃ n, p.begins n < T ∧ T < p.ends n ∧ e = p.ends n

def rounds : Nat → List (Nat × Bool)
  | 0 => []
  | n + 1 => (p.ends n, false) :: (p.begins n, true) :: rounds n

theorem begins_succ (n : Nat) : p.begins (n + 1) = p.ends n + p.interval := by
  unfold ends begins
  rw [Finset.sum_range_succ, Nat.add_one_mul (n + 1)]
  omega

theorem ends_lt_begins (pos : 0 < p.interval) {n m : Nat} (less : n < m) : p.ends n < p.begins m := by
  induction less with
  | refl =>
    rw [p.begins_succ]
    omega
  | step _ ih =>
    rw [p.begins_succ]
    unfold ends at ih ⊢
    omega

theorem begins_mono (pos : 0 < p.interval) {n m : Nat} (le : n ≤ m) : p.begins n ≤ p.begins m := by
  rcases Nat.eq_or_lt_of_le le with rfl | less
  · exact Nat.le_refl _
  · exact Nat.le_of_lt (Nat.lt_of_le_of_lt (Nat.le_add_right _ _) (p.ends_lt_begins pos less))

def spent : Nat → List Nat
  | 0 => []
  | n + 1 => p.lasts n :: spent n

def pace : Pace := ⟨p.start, p.interval⟩

theorem length_spent (n : Nat) : (p.spent n).length = n := by
  induction n with
  | zero => rfl
  | succ n ih => exact congrArg (· + 1) ih

theorem pace_begins (n : Nat) : p.pace.begins (p.spent n) = p.begins n := by
  induction n with
  | zero =>
    unfold begins Pace.begins Pace.overAt spent pace
    simp
  | succ n ih =>
    rw [p.begins_succ, ends, ← ih, ← Pace.overAt_cons]
    rfl

theorem pace_overAt (n : Nat) : p.pace.overAt (p.spent (n + 1)) = p.ends n := by
  change p.pace.overAt (p.lasts n :: p.spent n) = _
  rw [Pace.overAt_cons, p.pace_begins]
  rfl

theorem pace_rounds (n : Nat) : p.pace.rounds (p.spent n) = p.rounds n := by
  induction n with
  | zero => rfl
  | succ n ih =>
    change (p.pace.overAt (p.spent (n + 1)), false) :: (p.pace.begins (p.spent n), true) :: _ = _
    rw [p.pace_overAt, p.pace_begins, ih]
    rfl

theorem spent_of_took {d : Duty} (lasts : ∀ n, (d.work n).Lasts (p.lasts n)) {spent : List Nat}
    (took : d.Took spent) : spent = p.spent spent.length := by
  induction took with
  | nil => rfl
  | cons took own ih =>
    rw [List.length_cons, own _ (lasts _)]
    exact congrArg _ ih

/-! ### Where a task is -/

/-- So many turns are over, and another one is in flight or not. -/
structure Stage (stop : Option Nat) (now n : Nat) (busy : Bool) : Prop where
  done : ∀ k < n, p.ends k ≤ now ∧ p.Takes stop k
  opened : busy = true → p.begins n ≤ now ∧ now < p.ends n ∧ p.Takes stop n
  free : busy = false → now < p.begins n ∨ ∃ T, stop = some T ∧ T ≤ p.begins n

variable {p} {busy : Bool}

theorem Stage.not_begun (h : p.Stage stop now n busy) (pos : 0 < p.interval) {k : Nat} (le : n ≤ k)
    (takes : p.Takes stop k) : p.begins k ≤ now → busy = true ∧ k = n := by
  intro begun
  have before := p.begins_mono pos le
  cases busy with
  | false =>
    rcases h.free rfl with early | ⟨T, asked, late⟩
    · omega
    · have first := takes T asked
      omega
  | true =>
    obtain ⟨-, late, -⟩ := h.opened rfl
    refine ⟨rfl, (Nat.eq_or_lt_of_le le).elim Eq.symm fun less => ?_⟩
    have after := p.ends_lt_begins pos less
    omega

theorem Stage.ticks (h : p.Stage stop now n busy) (pos : 0 < p.interval) (k : Nat) :
    k < n ↔ p.ends k ≤ now ∧ p.Takes stop k := by
  refine ⟨h.done k, fun ⟨ended, takes⟩ => Nat.lt_of_not_le fun le => ?_⟩
  have begun : p.begins k ≤ now := Nat.le_trans (Nat.le_add_right _ _) ended
  obtain ⟨at', rfl⟩ := h.not_begun pos le takes begun
  obtain ⟨-, late, -⟩ := h.opened at'
  omega

theorem Stage.begun (h : p.Stage stop now n busy) (pos : 0 < p.interval) (k : Nat) :
    k < n ∨ busy = true ∧ k = n ↔ p.begins k ≤ now ∧ p.Takes stop k := by
  refine ⟨?_, fun ⟨begun, takes⟩ => ?_⟩
  · rintro (less | ⟨at', rfl⟩)
    · obtain ⟨ended, takes⟩ := h.done k less
      exact ⟨Nat.le_trans (Nat.le_add_right _ _) ended, takes⟩
    · obtain ⟨begun, -, takes⟩ := h.opened at'
      exact ⟨begun, takes⟩
  · rcases Nat.lt_or_ge k n with less | le
    · exact .inl less
    · exact .inr (h.not_begun pos le takes begun)

/-- Nothing is in flight any more from the time on at which a task that was told to stop is done. -/
theorem Stage.closed (h : p.Stage stop now n busy) (pos : 0 < p.interval) {T e : Nat}
    (asked : stop = some T) (past : T ≤ now) (closes : p.Closes T e) : busy = false ↔ e ≤ now := by
  have takes {k : Nat} (early : p.begins k < T) : p.Takes stop k := fun T' same => by
    cases asked.symm.trans same
    exact early
  refine ⟨fun idle => ?_, fun ended => Bool.eq_false_iff.mpr fun at' => ?_⟩
  · rcases closes with ⟨rfl, -⟩ | ⟨k, early, late, rfl⟩
    · exact past
    · rcases (h.begun pos k).mpr ⟨by omega, takes early⟩ with less | ⟨at', -⟩
      · exact (h.done k less).1
      · cases at'.symm.trans idle
  · obtain ⟨begun, late, own⟩ := h.opened at'
    have early := own T asked
    rcases closes with ⟨rfl, all⟩ | ⟨k, first, last, rfl⟩
    · have ended := all n early
      omega
    · rcases Nat.lt_trichotomy n k with less | rfl | less
      · have := p.ends_lt_begins pos less
        omega
      · omega
      · have := p.ends_lt_begins pos less
        omega

def marks (p : Timetable) (n : Nat) (busy : Bool) : List (Nat × Bool) :=
  (if busy then [(p.begins n, true)] else []) ++ p.rounds n

theorem ends_le_of_overAt (pos : 0 < p.interval) (ended : p.pace.overAt (p.spent n) ≤ now) {k : Nat}
    (less : k < n) : p.ends k ≤ now := by
  cases n with
  | zero => cases less
  | succ n =>
    rw [p.pace_overAt] at ended
    rcases Nat.lt_succ_iff_lt_or_eq.mp less with below | rfl
    · have before := p.ends_lt_begins pos below
      have begun : p.begins n ≤ p.ends n := Nat.le_add_right _ _
      omega
    · exact ended

theorem takes_of_le (pos : 0 < p.interval) (apart : ∀ n, stop ≠ some (p.begins n))
    (early : ∀ T, stop = some T → p.begins n ≤ T) {k : Nat} (le : k ≤ n) : p.Takes stop k := by
  intro T asked
  have before := Nat.le_trans (p.begins_mono pos le) (early T asked)
  exact Nat.lt_of_le_of_ne before fun same => apart k (same ▸ asked)

theorem stage_of_stands {t : Task} {marks : List (Nat × Bool)} (pos : 0 < p.interval)
    (apart : ∀ n, stop ≠ some (p.begins n)) (started : t.isStarted = true)
    (kept : t.phase ≠ .cancelled) (late : ∀ u, t.wake? = some u → now < u)
    (lasts : (t.duty.work n).Lasts (p.lasts n))
    (stands : Stands p.pace t.duty stop now (p.spent n) t.phase t.ticks marks) :
    t.ticks = n ∧ p.Stage stop now n t.isWorking ∧
      (t.phase = .finished ↔ stop.isSome = true ∧ t.isWorking = false) ∧
        marks = p.marks n t.isWorking := by
  obtain ⟨duty, phase, ticks⟩ := t
  cases stands with
  | unstarted => cases started
  | cancelled => exact absurd rfl kept
  | waiting turn going ended =>
    have next : now < p.begins n := late _ (congrArg some (p.pace_begins n))
    refine ⟨p.length_spent n, ⟨fun k less => ⟨ends_le_of_overAt pos ended less, fun T asked => ?_⟩,
      nofun, fun _ => .inl next⟩, ⟨nofun, fun ⟨asked, _⟩ => ?_⟩, p.pace_rounds n⟩
    · cases going.symm.trans asked
    · rw [going] at asked
      cases asked
  | working under begun early leaves =>
    rw [p.pace_begins] at begun early leaves
    have takes {k : Nat} (le : k ≤ n) := takes_of_le pos apart early le
    have flies : now < p.ends n := by
      have ends := leaves (p.lasts n) (by rw [p.length_spent]; exact lasts)
      change Paused.Leaves now _ (p.ends n) at ends
      generalize p.ends n = e at ends
      cases ends with
      | ended r => exact absurd rfl under
      | waiting rest =>
        have next := late _ rfl
        omega
    refine ⟨p.length_spent n, ⟨fun k less => ⟨?_, takes (Nat.le_of_lt less)⟩,
      fun _ => ⟨begun, flies, takes (Nat.le_refl n)⟩, nofun⟩, ⟨nofun, nofun⟩, ?_⟩
    · have before := p.ends_lt_begins pos less
      omega
    · rw [p.pace_begins, p.pace_rounds]
      rfl
  | finished asked ended closed early =>
    rename_i T
    rw [p.pace_begins] at closed
    refine ⟨p.length_spent n, ⟨fun k less => ⟨ends_le_of_overAt pos ended less, ?_⟩, nofun,
      fun _ => .inr ⟨T, asked, closed⟩⟩, ⟨fun _ => ⟨by rw [asked]; rfl, rfl⟩, fun _ => rfl⟩,
      p.pace_rounds n⟩
    cases n with
    | zero => cases less
    | succ n =>
      refine takes_of_le pos apart (fun T' same => ?_) (Nat.le_of_lt_succ less)
      cases asked.symm.trans same
      have first := early (p.lasts n) (p.spent n) rfl
      rw [p.pace_begins] at first
      exact first

end Timetable

namespace Roster

variable {starts : Nat → Nat} {stop : Option Nat} {r : Roster} {now i : Nat} {t : Task}
  {p : Timetable}

theorem Past.stage (past : r.Past starts stop now) (here : r.tasks[i]? = some t)
    (started : t.isStarted = true) (kept : t.phase ≠ .cancelled) (start : p.start = starts i)
    (span : t.duty.span? = some p.interval) (lasts : ∀ n, (t.duty.work n).Lasts (p.lasts n))
    (apart : ∀ n, stop ≠ some (p.begins n)) (quiet : t.wake? ≠ some now) :
    p.Stage stop now t.ticks t.isWorking ∧
      (t.phase = .finished ↔ stop.isSome = true ∧ t.isWorking = false) ∧
        (r.Own i t.duty.name → r.marksOf t.duty.name = p.marks t.ticks t.isWorking) := by
  obtain ⟨made, tells, own⟩ := past.tells i t here
  obtain ⟨spent, took, stands⟩ := tells.paced p.interval span
  have late (u : Nat) (wakes : t.wake? = some u) : now < u :=
    Nat.lt_of_le_of_ne (past.regular.clear t (List.mem_of_getElem? here) u wakes)
      fun same => quiet (same ▸ wakes)
  rw [← start, p.spent_of_took lasts took] at stands
  obtain ⟨ticks, stage, ended, marks⟩ := Timetable.stage_of_stands (Task.spanOf?_pos span) apart
    started kept late (lasts _) stands
  rw [ticks]
  exact ⟨stage, ended, fun alone => (own alone).trans marks⟩

end Roster

end Faucet
