import Faucet.Proofs.Pace

/-!
What a roster has gone through. Of all that can become of it each task only notices its own turns, the
stop and its own dismissal; so what it does follows from its pace and from how long its turns take.
-/

set_option autoImplicit false

namespace Faucet

/-- What a task can tell: it stands as its pace and the length of its turns have it, or it has never
had a turn because its pause has no end. -/
structure Task.Tells (start : Nat) (stop : Option Nat) (now : Nat) (t : Task)
    (made : List (Nat × Bool)) : Prop where
  paced : ∀ us, t.duty.span? = some us → ∃ spent, t.duty.Took spent ∧
    Stands ⟨start, us⟩ t.duty stop now spent t.phase t.ticks made
  idle : t.duty.span? = none → Idles stop t.phase t.ticks made

namespace Roster

/-- What a roster can have become by a time. Its tasks were started at given times, each has had its
turns when they were due, in any order if several were at once, and the stop is noted with its time.
Nothing is said about the world but what its clock shows. -/
inductive Past (starts : Nat → Nat) : Option Nat → Roster → Nat → Prop
  | fresh (now : Nat) : Past starts none {} now
  | adds {stop : Option Nat} {r : Roster} {now : Nat} (past : Past starts stop r now) (d : Duty) :
    Past starts stop (r.add d) now
  | begins {stop : Option Nat} {r : Roster} {w : World} (past : Past starts stop r w.elapsed) (i : Nat)
    (own : ∀ t, r.tasks[i]? = some t → t.isStarted = false → starts i = w.elapsed) :
    Past starts stop (r.startTask i w).1 w.elapsed
  | waits {stop : Option Nat} {r : Roster} {now : Nat} (past : Past starts stop r now) {time : Nat}
    (later : now ≤ time) (clear : r.Clear time) : Past starts stop r time
  | turns {stop : Option Nat} {r : Roster} {w : World} (past : Past starts stop r w.elapsed) {i : Nat}
    {t : Task} (here : r.tasks[i]? = some t) (wakes : t.wake? = some w.elapsed) :
    Past starts stop (r.wake i w).1 w.elapsed
  | stops {r : Roster} {w : World} (past : Past starts none r w.elapsed) :
    Past starts (some w.elapsed) (r.stop w).1 w.elapsed
  | cancels {stop : Option Nat} {r : Roster} {w : World} (past : Past starts stop r w.elapsed)
    (i : Nat) : Past starts stop (r.cancelAt i w).1 w.elapsed

variable {starts : Nat → Nat} {stop : Option Nat} {r : Roster} {now i : Nat} {t t' : Task} {w : World}
  {marks : List Mark} {out : Roster × World}

structure Regular (stop : Option Nat) (now : Nat) (r : Roster) : Prop where
  clear : r.Clear now
  stopping : r.stopping = stop.isSome
  asked : ∀ T, stop = some T → T ≤ now
  named : r.Named

theorem Regular.turned (h : Regular stop now r) (here : r.tasks[i]? = some t)
    (turned : Turned i t' marks r w out) (same : t'.duty = t.duty)
    (late : ∀ u, t'.wake? = some u → now ≤ u) : Regular stop now out.1 where
  clear u there v wakes := by
    rw [turned.tasks] at there
    rcases List.mem_or_eq_of_mem_set there with other | rfl
    · exact h.clear u other v wakes
    · exact late v wakes
  stopping := turned.stopping.trans h.stopping
  asked := h.asked
  named := h.named.turned here turned same

theorem rested_late (t : Task) (stopping : Bool) (turn now u : Nat)
    (wakes : (t.rested stopping turn now).wake? = some u) : now ≤ u := by
  unfold Task.rested at wakes
  split at wakes
  · cases wakes
  · change t.duty.span?.map (now + ·) = some u at wakes
    obtain ⟨us, -, rfl⟩ := Option.map_eq_some_iff.mp wakes
    exact Nat.le_add_right _ _

theorem Past.regular (past : r.Past starts stop now) : Regular stop now r := by
  induction past with
  | fresh now => exact ⟨List.forall_mem_nil _, rfl, nofun, List.forall_mem_nil _⟩
  | adds past d ih =>
    refine ⟨fun u here v wakes => ?_, ih.stopping, ih.asked, ih.named.add d⟩
    rcases List.mem_append.mp here with old | new
    · exact ih.clear u old v wakes
    · cases List.mem_singleton.mp new
      cases wakes
  | @begins stop r w past i own ih =>
    rcases startTask_cases i r w with same | ⟨t, here, -, turned⟩
    · rw [same]
      exact ih
    · exact ih.turned here turned (t.rested_duty _ _ _) fun u => rested_late t _ _ _ u
  | waits past later clear ih =>
    exact ⟨clear, ih.stopping, fun T same => Nat.le_trans (ih.asked T same) later, ih.named⟩
  | @turns stop r w past i t here wakes ih =>
    rcases wake_cases i r w with same | ⟨u, there, -, turned⟩
    · rw [same]
      exact ih
    · exact ih.turned there turned (u.settled_duty _ _ _ _) fun v woken =>
        Nat.le_of_lt (u.proceed_late _ _ woken)
  | @stops r w past ih =>
    refine ⟨fun u here v wakes => ?_, r.stop_stopping w, fun T same => ?_, ih.named.stop ih.stopping w⟩
    · rw [stop_tasks ih.stopping] at here
      obtain ⟨⟨duty, phase, ticks⟩, old, rfl⟩ := List.mem_map.mp here
      refine ih.clear _ old v ?_
      cases phase with
      | waiting => cases wakes
      | _ => exact wakes
    · exact Nat.le_of_eq (Option.some.inj same).symm
  | @cancels stop r w past i ih =>
    rcases cancelAt_cases i r w with same | ⟨t, here, -, turned⟩
    · rw [same]
      exact ih
    · exact ih.turned here turned rfl nofun

theorem Past.tells (past : r.Past starts stop now) :
    r.Each fun i t made => t.Tells (starts i) stop now made := by
  induction past with
  | fresh now => exact fun i t here => nomatch here
  | adds past d ih =>
    exact ih.add past.regular.named d
      ⟨fun us span => ⟨[], .nil, .unstarted rfl⟩, fun span => .unstarted⟩
  | @begins stop r w past i own ih =>
    rcases startTask_cases i r w with same | ⟨t, here, fresh, turned⟩
    · rw [same]
      exact ih
    · have regular := past.regular
      rw [regular.stopping] at turned
      refine ih.turned here turned (t.rested_duty _ _ _) fun made tells => ⟨fun us span => ?_,
        fun span => ?_⟩
      · rw [t.rested_duty] at span ⊢
        obtain ⟨spent, took, stands⟩ := tells.paced us span
        exact ⟨spent, took, stands.started fresh (own t here fresh) span regular.asked _⟩
      · rw [t.rested_duty] at span
        exact (tells.idle span).started span fresh _ _
  | waits past later clear ih =>
    intro i t here
    obtain ⟨made, tells, own⟩ := ih i t here
    refine ⟨made, ⟨fun us span => ?_, tells.idle⟩, own⟩
    obtain ⟨spent, took, stands⟩ := tells.paced us span
    exact ⟨spent, took, stands.later later⟩
  | @turns stop r w past i t here wakes ih =>
    rcases wake_cases i r w with same | ⟨u, there, -, turned⟩
    · rw [same]
      exact ih
    · cases here.symm.trans there
      have regular := past.regular
      rw [regular.stopping] at turned
      refine ih.turned here turned (t.settled_duty _ _ _ _) fun made tells => ⟨fun us span => ?_,
        fun span => ?_⟩
      · rw [t.settled_duty] at span ⊢
        obtain ⟨spent, took, stands⟩ := tells.paced us span
        exact stands.turn took span regular.asked wakes _
      · rw [t.settled_duty] at span
        cases wakes.symm.trans (tells.idle span).wake?.1
  | @stops r w past ih =>
    have regular := past.regular
    refine ih.stop regular.stopping w fun i t made here tells => ⟨fun us span => ?_, fun span => ?_⟩
    · rw [t.stopped_duty] at span ⊢
      obtain ⟨spent, took, stands⟩ := tells.paced us span
      exact ⟨spent, took, stands.stopped fun v => regular.clear t (List.mem_of_getElem? here) v⟩
    · rw [t.stopped_duty] at span
      exact (tells.idle span).stopped _
  | @cancels stop r w past i ih =>
    rcases cancelAt_cases i r w with same | ⟨t, here, works, turned⟩
    · rw [same]
      exact ih
    · refine ih.turned here turned rfl fun made tells => ⟨fun us span => ?_, fun span => ?_⟩
      · obtain ⟨spent, took, stands⟩ := tells.paced us span
        exact ⟨spent, took, stands.cancelled_of_working works w.elapsed⟩
      · cases works.symm.trans (tells.idle span).wake?.2

end Roster

end Faucet
