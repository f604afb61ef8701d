import Faucet.Proofs.Turns
import Faucet.World.Watch
import Mathlib.Logic.Hydra

/-!
The end of a long run. Every piece of work comes to its end after finitely many waits, whatever it
is answered; so once a stop was asked for, the opening, the work at hand and the closing do, one
after another, and the run is over.
-/

set_option autoImplicit false

namespace Faucet

namespace Paused

variable {α : Type}

def Later (later p : Paused α) : Prop :=
  p.wake? ≠ none ∧ ∃ w : World, later = (p.resume StoreStep.stepper w).1

/-- No bound holds for all answers, so waits are not counted: what is left is a smaller job. -/
theorem acc_advance (j : Job α) (w : World) : Acc Later (j.advance StoreStep.stepper w).1 := by
  have ended (r : Except Failure α) : Acc Later (.ended r) :=
    .intro _ fun _ later => absurd rfl later.1
  induction j generalizing w with
  | done a => exact ended (.ok a)
  | fail e => exact ended (.error e)
  | ask q next ih =>
    cases w.meets StoreStep.stepper_hushed q with
    | answers r w' calls goes =>
      rw [goes]
      exact ih r w'
    | waits t r w' calls goes =>
      rw [goes]
      refine .intro _ ?_
      rintro _ ⟨-, later, rfl⟩
      exact ih r later
    | starts t w' calls goes =>
      rename_i c
      rw [goes]
      refine .intro _ ?_
      rintro _ ⟨-, later, rfl⟩
      exact ih (later.finishCall c).1 (later.finishCall c).2

theorem later_wf : WellFounded (Later (α := α)) := by
  refine ⟨fun p => .intro p ?_⟩
  rintro _ ⟨under, w, rfl⟩
  cases p with
  | ended r => exact absurd rfl under
  | waiting t rest => exact acc_advance rest w
  | calling t c next => exact acc_advance (next (w.finishCall c).1) (w.finishCall c).2

end Paused

def Task.works (t : Task) : List (Paused Unit) :=
  match t.phase with
  | .working p => [p]
  | _ => []

namespace Roster

variable {kind : WalletCall → Prop} {r : Roster} {w : World} {i : Nat} {t : Task}

def works (r : Roster) : Multiset (Paused Unit) := ↑(r.tasks.flatMap Task.works)

theorem works_setTask (here : r.tasks[i]? = some t) : ∃ others : Multiset (Paused Unit),
    r.works = others + ↑t.works ∧ ∀ u, (r.setTask i u).works = others + ↑u.works := by
  obtain ⟨bound, rfl⟩ := List.getElem?_eq_some_iff.mp here
  have parts (u : Task) :
      (↑((r.tasks.take i ++ u :: r.tasks.drop (i + 1)).flatMap Task.works) : Multiset (Paused Unit)) =
        ↑((r.tasks.take i).flatMap Task.works ++ (r.tasks.drop (i + 1)).flatMap Task.works) +
          ↑u.works := by
    rw [List.flatMap_append, List.flatMap_cons, Multiset.coe_add, Multiset.coe_eq_coe,
      List.append_assoc]
    exact List.perm_append_comm.append_left _
  refine ⟨↑((r.tasks.take i).flatMap Task.works ++ (r.tasks.drop (i + 1)).flatMap Task.works), ?_,
    fun u => ?_⟩
  · unfold works
    rw [← parts, List.cons_getElem_drop_succ, List.take_append_drop]
  · change (↑((r.tasks.set i u).flatMap Task.works) : Multiset (Paused Unit)) = _
    rw [List.set_eq_take_append_cons_drop, if_pos bound]
    exact parts u

theorem works_settle (stopping : r.stopping = true) (here : r.tasks[i]? = some t)
    {p q : Paused Unit} (working : t.works = [p]) (less : Paused.Later q p) (w : World) :
    Relation.CutExpand Paused.Later (r.settle i t w q).1.works r.works := by
  obtain ⟨others, before, after⟩ := works_setTask here
  have finishes (r' : Roster) (w' : World) (t' : Task) (tasks : r'.tasks = r.tasks)
      (stops : r'.stopping = true) :
      Relation.CutExpand Paused.Later (r'.rest i t' w').1.works r.works := by
    unfold Roster.rest
    rw [if_pos stops]
    have left : (r'.setTask i { t' with phase := .finished }).works =
        others + ↑(Task.works { t' with phase := .finished }) := by
      rw [← after]
      unfold works setTask
      rw [tasks]
    change Relation.CutExpand Paused.Later (r'.setTask i { t' with phase := .finished }).works _
    rw [left, before, working, Relation.cutExpand_add_left]
    exact Relation.cutExpand_singleton fun _ here => absurd here (Multiset.notMem_zero _)
  have goesOn (q' : Paused Unit) (same : q' = q) :
      Relation.CutExpand Paused.Later (r.setTask i { t with phase := .working q' }).works r.works := by
    rw [after, before, working, Relation.cutExpand_add_left]
    exact Relation.cutExpand_singleton_singleton (same ▸ less)
  cases q with
  | ended e =>
    cases e with
    | ok u => exact finishes _ _ _ rfl stopping
    | error e => exact finishes _ _ _ rfl stopping
  | waiting wake rest => exact goesOn _ rfl
  | calling wake c next => exact goesOn _ rfl

theorem Sound.working (h : r.Sound kind) (stopping : r.stopping = true) (here : t ∈ r.tasks)
    (active : t.isActive = true) : ∃ p, t.phase = .working p ∧ t.wake? ≠ none := by
  have heard := h.heard stopping t here
  have fit := h.fit t here
  unfold Task.turn? at heard
  unfold Task.isActive at active
  unfold Task.wake?
  cases phase : t.phase with
  | waiting => rw [phase] at heard; cases heard
  | working p => exact ⟨p, rfl, (fit.work p phase).2⟩
  | unstarted | finished | cancelled => rw [phase] at active; cases active

/-- Once a stop was asked for, some work is due unless nobody has anything to do, and there is less
of it afterwards. -/
theorem Sound.due? (h : r.Sound kind) (stopping : r.stopping = true) (busy : r.isIdle = false) :
    ∃ at' i, r.due? = some (at', i) ∧
      ∀ w, Relation.CutExpand Paused.Later (r.wake i w).1.works r.works := by
  have some : r.tasks.any Task.isActive = true := by simpa [isIdle] using busy
  obtain ⟨t, here, active⟩ := List.any_eq_true.mp some
  cases due : r.due? with
  | none =>
    obtain ⟨p, -, under⟩ := h.working stopping here active
    exact absurd (wake?_of_due?_none due t here) under
  | some next =>
    obtain ⟨at', i⟩ := next
    obtain ⟨u, place, wakes⟩ := due?_some due
    obtain ⟨p, working, under⟩ := h.working stopping (List.mem_of_getElem? place)
      (u.isActive_of_wake? wakes)
    refine ⟨at', i, rfl, fun w => ?_⟩
    have works : u.works = [p] := by
      unfold Task.works
      rw [working]
    have still : p.wake? ≠ none := by
      unfold Task.wake? at under
      rw [working] at under
      exact under
    unfold Roster.wake
    rw [place]
    dsimp only
    rw [working]
    exact works_settle stopping place works ⟨still, w, rfl⟩ _

end Roster

namespace Watch

variable {kind : WalletCall → Prop} {c : Watch}

theorem afterClosing_roster (outcome : Except Failure Bool) (c : Watch) (w : World)
    (work : Paused Unit) : (c.afterClosing outcome w work).roster = c.roster := by
  unfold afterClosing
  split <;> rfl

theorem leave_roster (clean : Bool) (c : Watch) (w : World) :
    (c.leave clean w).1.roster = c.roster :=
  afterClosing_roster _ _ _ _

theorem drained_roster (c : Watch) (w : World) : (c.drained w).1.roster = c.roster := by
  unfold drained
  split
  · exact leave_roster _ _ _
  · rfl

theorem noticed_roster (c : Watch) (w : World) : (c.noticed w).1.roster = c.roster := by
  unfold noticed
  split
  · exact drained_roster _ _
  · rfl

theorem takeUp_stopping (c : Watch) (w : World) :
    (c.takeUp w).1.roster.stopping = c.roster.stopping := by
  have adds (ds : List Duty) (r : Roster) : (ds.foldl Roster.add r).stopping = r.stopping := by
    induction ds generalizing r with
    | nil => rfl
    | cons d ds ih => exact ih _
  have starts := Roster.start_stopping (c.duties.foldl Roster.add c.roster) w
  unfold takeUp
  dsimp only
  rw [noticed_roster]
  exact starts.trans (adds _ _)

theorem settle_stopping (c : Watch) (w : World) :
    (c.settle w).1.roster.stopping = c.roster.stopping := by
  unfold settle
  split
  · exact takeUp_stopping c w
  · exact congrArg Roster.stopping (afterClosing_roster _ _ _ _)
  · exact congrArg Roster.stopping (noticed_roster c w)
  · exact congrArg Roster.stopping (drained_roster c w)
  · exact congrArg Roster.stopping (afterClosing_roster _ _ _ _)
  · rfl

theorem wake_stopping (c : Watch) (w : World) :
    (c.wake w).1.roster.stopping = c.roster.stopping := by
  unfold wake
  split
  · exact settle_stopping _ _
  · exact (congrArg Roster.stopping (leave_roster _ _ _)).trans (Roster.dismiss_stopping _ _ _)
  · exact congrArg Roster.stopping (afterClosing_roster _ _ _ _)
  · rfl

theorem runWithin_keeps {I : Watch → World → Prop}
    (step : ∀ t task c w, I c w → I (c.step t task w).1 (c.step t task w).2) (limit : Option Nat)
    (fuel : Nat) (c : Watch) (w : World) (h : I c w) :
    I (c.runWithin limit fuel w).1 (c.runWithin limit fuel w).2 := by
  induction fuel generalizing c w with
  | zero => exact h
  | succ fuel ih =>
    have orElse (late : Bool) {next : Watch × World} (goes : I next.1 next.2) :
        I (if late then (c, w) else next).1 (if late then (c, w) else next).2 := by
      cases late with
      | true => exact h
      | false => exact goes
    unfold Watch.runWithin
    cases c.outcome? with
    | some outcome => exact h
    | none =>
      cases c.due? with
      | none => exact h
      | some due => exact orElse _ (ih _ _ (step due.1 due.2 c w h))

theorem runActs_keeps {I : Watch → World → Prop}
    (step : ∀ t task c w, I c w → I (c.step t task w).1 (c.step t task w).2)
    (act : ∀ a us c w, I c w → I ((c.perform a (w.elapse us)).1.settle (c.perform a (w.elapse us)).2).1
      ((c.perform a (w.elapse us)).1.settle (c.perform a (w.elapse us)).2).2)
    (acts : List Act) (c : Watch) (w : World) (h : I c w) :
    I (c.runActs acts w).1 (c.runActs acts w).2 := by
  induction acts generalizing c w with
  | nil => exact runWithin_keeps step none Roster.patience c w h
  | cons a rest ih =>
    have before := runWithin_keeps step (some a.time) (4 * (a.time + 1 - w.elapsed) + 4) c w h
    unfold Watch.runActs
    dsimp only
    split
    · exact before
    · exact ih _ _ (act a _ _ _ before)

/-- What can be done at once has been done. -/
def Settled (c : Watch) : Prop := ∀ w, c.settle w = (c, w)

theorem afterClosing_settled (outcome : Except Failure Bool) (c : Watch) (w : World)
    (work : Paused Unit) : (c.afterClosing outcome w work).Settled := by
  intro w'
  cases work with
  | ended r => cases r <;> rfl
  | waiting t rest => rfl
  | calling t call next => rfl

theorem leave_settled (clean : Bool) (c : Watch) (w : World) : (c.leave clean w).1.Settled :=
  afterClosing_settled _ _ _ _

theorem settle_draining {d : Option Nat} (stage : c.stage = .draining d) (w : World) :
    c.settle w = c.drained w := by
  unfold settle
  rw [stage]

theorem drained_settled (stage : ∃ d, c.stage = .draining d) (w : World) :
    (c.drained w).1.Settled := by
  obtain ⟨d, draining⟩ := stage
  unfold drained
  split
  · exact leave_settled _ _ _
  · rename_i busy
    intro w'
    rw [settle_draining draining]
    unfold drained
    rw [if_neg busy]

theorem noticed_settled (stage : c.stage = .watching) (w : World) : (c.noticed w).1.Settled := by
  unfold noticed
  split
  · exact drained_settled ⟨_, rfl⟩ w
  · rename_i going
    intro w'
    unfold settle
    rw [stage]
    dsimp only
    unfold noticed
    rw [if_neg going]

theorem settle_settled (c : Watch) (w : World) : (c.settle w).1.Settled := by
  unfold settle
  split
  · exact noticed_settled rfl _
  · exact afterClosing_settled _ _ _ _
  · rename_i watching
    exact noticed_settled watching w
  · rename_i d draining
    exact drained_settled ⟨d, draining⟩ w
  · exact afterClosing_settled _ _ _ _
  · rename_i opened failed watching draining closing
    intro w'
    unfold settle
    cases stage : c.stage with
    | opening work =>
      cases work with
      | ended r =>
        cases r with
        | ok u => exact absurd stage opened
        | error e => exact absurd stage (failed e)
      | waiting t rest => rfl
      | calling t call next => rfl
    | watching => exact absurd stage watching
    | draining d => exact absurd stage (draining d)
    | closing outcome work => exact absurd stage (closing outcome work)
    | _ => rfl

theorem Settled.wake (h : c.Settled) (w : World) : (c.wake w).1.Settled := by
  unfold Watch.wake
  split
  · exact settle_settled _ _
  · exact leave_settled _ _ _
  · exact afterClosing_settled _ _ _ _
  · exact h

theorem Settled.step (h : c.Settled) (t : Nat) (task : Option Nat) (w : World) :
    (c.step t task w).1.Settled := by
  cases task with
  | none => exact h.wake _
  | some i => exact settle_settled _ _

def ComesToEnd (at' : Watch × World) : Prop :=
  ∃ n, (at'.1.runWithin none n at'.2).1.outcome?.isSome = true

theorem comesToEnd_of_step {w : World} {t : Nat} {task : Option Nat} (going : c.outcome? = none)
    (leaves : c.stage ≠ .watching) (due : c.due? = some (t, task))
    (next : ComesToEnd (c.step t task w)) : ComesToEnd (c, w) := by
  obtain ⟨n, ended⟩ := next
  refine ⟨n + 1, ?_⟩
  unfold runWithin
  rw [going, due]
  dsimp only
  cases stage : c.stage with
  | watching => exact absurd stage leaves
  | _ => exact ended

theorem afterClosing_ends (idle : c.roster.Idle) (outcome : Except Failure Bool) (work : Paused Unit)
    (w : World) : ComesToEnd (c.afterClosing outcome w work, w) := by
  induction work using Paused.later_wf.induction generalizing c w with
  | _ work ih =>
    have goesOn {t : Nat} (under : work.wake? = some t)
        (same : c.afterClosing outcome w work = { c with stage := .closing outcome work }) :
        ComesToEnd (c.afterClosing outcome w work, w) := by
      rw [same]
      have due : due? { c with stage := .closing outcome work } = some (t, none) := by
        unfold due? wake?
        dsimp only
        rw [idle.due?, under]
      have later : Paused.Later (work.resume StoreStep.stepper (w.elapse (t - w.elapsed))).1 work :=
        ⟨Option.ne_none_iff_exists'.mpr ⟨t, under⟩, _, rfl⟩
      exact comesToEnd_of_step rfl nofun due
        (ih _ later (c := { c with stage := .closing outcome work }) idle _)
    cases work with
    | ended r => cases r <;> exact ⟨0, rfl⟩
    | waiting t rest => exact goesOn rfl rfl
    | calling t call next => exact goesOn rfl rfl

theorem close_ends (idle : c.roster.Idle) (outcome : Except Failure Bool) (w : World) :
    ComesToEnd (c.close outcome w) :=
  afterClosing_ends idle outcome _ _

theorem leave_ends (idle : c.roster.Idle) (clean : Bool) (w : World) :
    ComesToEnd (c.leave clean w) :=
  close_ends idle _ _

theorem due?_draining {d : Option Nat} {u i : Nat} (stage : c.stage = .draining d)
    (turn : c.roster.due? = some (u, i)) :
    c.due? = some (u, some i) ∨ ∃ t, c.due? = some (t, none) := by
  unfold due? wake?
  rw [stage, turn]
  cases d with
  | none => exact .inl rfl
  | some t =>
    dsimp only
    split
    · exact .inr ⟨t, rfl⟩
    · exact .inl rfl

theorem drained_ends (sound : c.roster.Sound kind) (stopping : c.roster.stopping = true)
    (stage : ∃ d, c.stage = .draining d) (w : World) : ComesToEnd (c.drained w) := by
  -- on the work that is left: a turn of a task leaves less of it, and a dismissal ends the wait
  generalize left : c.roster.works = works
  induction works using Paused.later_wf.cutExpand.induction generalizing c w with
  | _ works ih =>
    obtain ⟨d, draining⟩ := stage
    unfold drained
    split
    · rename_i done
      exact leave_ends (Roster.idle_of_isIdle done) true _
    · rename_i busy
      rw [Bool.not_eq_true] at busy
      obtain ⟨u, i, turn, less⟩ := sound.due? stopping busy
      have going : c.outcome? = none := by
        unfold outcome?
        rw [draining]
      have leaves : c.stage ≠ .watching := by
        rw [draining]
        nofun
      rcases due?_draining draining turn with turns | ⟨t, up⟩
      · refine comesToEnd_of_step going leaves turns ?_
        have fewer := less (w.elapse (u - w.elapsed))
        have sound' := (sound.wake i (w.elapse (u - w.elapsed))).1
        have stops := (Roster.wake_stopping i c.roster (w.elapse (u - w.elapsed))).trans stopping
        unfold step
        dsimp only
        cases goes : c.roster.wake i (w.elapse (u - w.elapsed)) with
        | mk roster w' =>
          rw [goes] at fewer sound' stops
          change ComesToEnd (settle { c with roster } w')
          rw [settle_draining (c := { c with roster }) draining]
          exact ih _ (left ▸ fewer) (c := { c with roster }) sound' stops ⟨d, draining⟩ w' rfl
      · refine comesToEnd_of_step going leaves up ?_
        change ComesToEnd (c.wake _)
        unfold wake
        rw [draining]
        exact leave_ends (sound.dismiss stopping _ _).2.1 false _

theorem noticed_ends (sound : c.roster.Sound kind) (stopping : c.roster.stopping = true) (w : World) :
    ComesToEnd (c.noticed w) := by
  unfold noticed
  rw [if_pos stopping]
  exact drained_ends (c := { c with stage := .draining _ }) sound stopping ⟨_, rfl⟩ w

theorem takeUp_ends (sound : c.roster.Sound kind) (stopping : c.roster.stopping = true)
    (duties : ∀ d ∈ c.duties, ∀ n, (d.work n).Asks (Query.Keeps kind)) (w : World) :
    ComesToEnd (c.takeUp w) := by
  have stops := (takeUp_stopping c w).trans stopping
  unfold takeUp at stops ⊢
  dsimp only at stops ⊢
  rw [noticed_roster] at stops
  exact noticed_ends ((sound.addAll duties).start w).1 stops _

theorem opening_ends (sound : c.roster.Sound kind) (stopping : c.roster.stopping = true)
    (idle : c.roster.Idle) (duties : ∀ d ∈ c.duties, ∀ n, (d.work n).Asks (Query.Keeps kind))
    (work : Paused Unit) (w : World) : ComesToEnd ({ c with stage := .opening work }.settle w) := by
  induction work using Paused.later_wf.induction generalizing w with
  | _ work ih =>
    have goesOn {t : Nat} (under : work.wake? = some t) :
        ComesToEnd ({ c with stage := .opening work }, w) := by
      have due : due? { c with stage := .opening work } = some (t, none) := by
        unfold due? wake?
        dsimp only
        rw [idle.due?, under]
      have later : Paused.Later (work.resume StoreStep.stepper (w.elapse (t - w.elapsed))).1 work :=
        ⟨Option.ne_none_iff_exists'.mpr ⟨t, under⟩, _, rfl⟩
      exact comesToEnd_of_step rfl nofun due (ih _ later _)
    cases work with
    | ended r =>
      cases r with
      | ok u =>
        exact takeUp_ends (c := { c with stage := .opening (.ended (.ok u)) }) sound stopping duties w
      | error e => exact close_ends idle _ _
    | waiting t rest => exact goesOn rfl
    | calling t call next => exact goesOn rfl

end Watch

end Faucet
