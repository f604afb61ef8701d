import Faucet.Proofs.Diary
import Faucet.Proofs.Ending

/-!
One turn at a time. Of one duty no turn begins before the one before it is over, in a long run with
everything else that can happen in it: whatever its work is answered and how late, whoever acts from
outside, and when it is dismissed.
-/

set_option autoImplicit false

namespace Faucet

/-- Turns that begin and end by turns, the latest first: a turn begins if none is open, and ends if one
is. -/
inductive Alternating : Bool → List (Nat × Bool) → Prop
  | nil : Alternating false []
  | opens (time : Nat) {marks : List (Nat × Bool)} (before : Alternating false marks) :
    Alternating true ((time, true) :: marks)
  | closes (time : Nat) {marks : List (Nat × Bool)} (before : Alternating true marks) :
    Alternating false ((time, false) :: marks)

theorem Task.isWorking_rested (t : Task) (stopping : Bool) (turn now : Nat) :
    (t.rested stopping turn now).isWorking = false := by
  unfold rested
  split <;> rfl

theorem Alternating.settled {t : Task} {now : Nat} {marks : List (Nat × Bool)}
    (h : Alternating true marks) (work : Paused Unit) (stopping : Bool) (turn : Nat) :
    Alternating (t.settled stopping turn now work).isWorking
      (work.endMarks.filterMap (fun m => m.opens?.map (now, ·)) ++ marks) := by
  cases work with
  | ended e =>
    change Alternating (Task.rested _ stopping turn now).isWorking _
    rw [Task.isWorking_rested]
    cases e <;> exact h.closes now
  | waiting | calling => exact h

namespace Roster

variable {r : Roster} {w : World}

structure Alternates (r : Roster) : Prop where
  named : r.Named
  each : r.Each fun _ t made => Alternating t.isWorking made

theorem alternates_nil : Alternates {} := ⟨nofun, fun _ _ here => nomatch here⟩

theorem Alternates.add (h : r.Alternates) (d : Duty) : (r.add d).Alternates :=
  ⟨h.named.add d, h.each.add h.named d .nil⟩

theorem Alternates.startTask (h : r.Alternates) (i : Nat) (w : World) :
    (r.startTask i w).1.Alternates ∧ (r.startTask i w).1.duties = r.duties := by
  rcases startTask_cases i r w with same | ⟨t, here, fresh, turned⟩
  · rw [same]
    exact ⟨h, rfl⟩
  · have duty := t.rested_duty r.stopping r.turn w.elapsed
    refine ⟨⟨h.named.turned here turned duty, h.each.turned here turned duty fun made alternating => ?_⟩,
      turned.duties here duty⟩
    rw [t.isWorking_rested]
    obtain ⟨d, phase, ticks⟩ := t
    cases phase with
    | unstarted => exact alternating
    | waiting | working | finished | cancelled => cases fresh

theorem Alternates.wake (h : r.Alternates) (i : Nat) (w : World) :
    (r.wake i w).1.Alternates ∧ (r.wake i w).1.duties = r.duties := by
  rcases wake_cases i r w with same | ⟨t, here, active, turned⟩
  · rw [same]
    exact ⟨h, rfl⟩
  · have duty := t.settled_duty r.stopping r.turn w.elapsed (t.proceed w).1
    refine ⟨⟨h.named.turned here turned duty, h.each.turned here turned duty fun made alternating => ?_⟩,
      turned.duties here duty⟩
    rw [List.filterMap_append, List.append_assoc]
    refine Alternating.settled ?_ _ _ _
    obtain ⟨d, phase, ticks⟩ := t
    cases phase with
    | waiting => exact alternating.opens w.elapsed
    | working => exact alternating
    | unstarted | finished | cancelled => cases active

theorem Alternates.stop (h : r.Alternates) (w : World) :
    (r.stop w).1.Alternates ∧ (r.stop w).1.duties = r.duties := by
  cases going : r.stopping with
  | true =>
    rw [stop_again going]
    exact ⟨h, rfl⟩
  | false =>
    refine ⟨⟨h.named.stop going w, h.each.stop going w fun i t made here alternating => ?_⟩,
      stop_duties going w⟩
    obtain ⟨d, phase, ticks⟩ := t
    cases phase <;> exact alternating

theorem Alternates.cancelAt (h : r.Alternates) (i : Nat) (w : World) :
    (r.cancelAt i w).1.Alternates ∧ (r.cancelAt i w).1.duties = r.duties := by
  rcases cancelAt_cases i r w with same | ⟨t, here, works, turned⟩
  · rw [same]
    exact ⟨h, rfl⟩
  · refine ⟨⟨h.named.turned here turned rfl, h.each.turned here turned rfl fun made alternating => ?_⟩,
      turned.duties here rfl⟩
    rw [works] at alternating
    exact alternating.closes w.elapsed

theorem Alternates.foldl {f : Nat → Roster → World → Roster × World}
    (one : ∀ i r w, r.Alternates → (f i r w).1.Alternates ∧ (f i r w).1.duties = r.duties)
    (h : r.Alternates) (places : List Nat) (w : World) :
    (places.foldl (fun s i => f i s.1 s.2) (r, w)).1.Alternates ∧
      (places.foldl (fun s i => f i s.1 s.2) (r, w)).1.duties = r.duties := by
  refine List.foldlRecOn places _
    (motive := fun s : Roster × World => s.1.Alternates ∧ s.1.duties = r.duties) ⟨h, rfl⟩
    fun s kept i _ => ?_
  obtain ⟨alternates, same⟩ := one i s.1 s.2 kept.1
  exact ⟨alternates, same.trans kept.2⟩

theorem Alternates.start (h : r.Alternates) (w : World) :
    (r.start w).1.Alternates ∧ (r.start w).1.duties = r.duties :=
  h.foldl (fun i _ w h => h.startTask i w) _ w

theorem Alternates.dismiss (h : r.Alternates) (timeout : Binary64) (w : World) :
    (r.dismiss timeout w).1.Alternates ∧ (r.dismiss timeout w).1.duties = r.duties :=
  h.foldl (fun i _ w h => h.cancelAt i w) _ _

theorem Alternates.addAll (h : r.Alternates) (ds : List Duty) :
    (ds.foldl Roster.add r).Alternates ∧ (ds.foldl Roster.add r).duties = r.duties ++ ds := by
  induction ds generalizing r with
  | nil => exact ⟨h, (List.append_nil _).symm⟩
  | cons d ds ih =>
    obtain ⟨alternates, more⟩ := ih (h.add d)
    rw [duties_add, List.append_assoc] at more
    exact ⟨alternates, more⟩

end Roster

namespace Watch

variable {plan : Plan} {c : Watch} {w : World}

/-- The duties of a run are taken up once, and the turns of each begin and end by turns. -/
structure TakesTurns (plan : Plan) (c : Watch) : Prop where
  planned : c.plan = plan
  alternates : c.roster.Alternates
  once : c.roster.duties = [] ∨
    (∀ work, c.stage ≠ .opening work) ∧ c.roster.duties.map (·.name) = plan.duties.map (·.name)

theorem TakesTurns.of_eq {c' : Watch} (h : TakesTurns plan c) (plans : c'.plan = c.plan)
    (rosters : c'.roster = c.roster)
    (stages : (∃ work, c'.stage = .opening work) → ∃ work, c.stage = .opening work) :
    TakesTurns plan c' where
  planned := plans.trans h.planned
  alternates := rosters ▸ h.alternates
  once := by
    rw [rosters]
    refine h.once.imp_right fun ⟨opened, same⟩ => ⟨fun work opens => ?_, same⟩
    obtain ⟨before, opening⟩ := stages ⟨work, opens⟩
    exact opened before opening

theorem TakesTurns.of_roster {roster : Roster} (h : TakesTurns plan c)
    (goes : roster.Alternates ∧ roster.duties = c.roster.duties) :
    TakesTurns plan { c with roster } where
  planned := h.planned
  alternates := goes.1
  once := by
    change roster.duties = [] ∨ _ ∧ roster.duties.map (·.name) = _
    rw [goes.2]
    exact h.once

theorem TakesTurns.afterClosing (h : TakesTurns plan c) (outcome : Except Failure Bool) (w : World)
    (work : Paused Unit) : TakesTurns plan (c.afterClosing outcome w work) := by
  unfold Watch.afterClosing
  split <;> exact h.of_eq rfl rfl (fun ⟨_, opens⟩ => nomatch opens)

theorem TakesTurns.leave (h : TakesTurns plan c) (clean : Bool) (w : World) :
    TakesTurns plan (c.leave clean w).1 :=
  h.afterClosing _ _ _

theorem TakesTurns.drained (h : TakesTurns plan c) (w : World) : TakesTurns plan (c.drained w).1 := by
  unfold Watch.drained
  split
  · exact h.leave _ _
  · exact h

theorem TakesTurns.noticed (h : TakesTurns plan c) (w : World) : TakesTurns plan (c.noticed w).1 := by
  unfold Watch.noticed
  split
  · have drains (d : Option Nat) : TakesTurns plan { c with stage := .draining d } :=
      h.of_eq rfl rfl fun ⟨_, opens⟩ => nomatch opens
    exact (drains _).drained w
  · exact h

theorem TakesTurns.takeUp (h : TakesTurns plan c) (fresh : c.roster.duties = []) (w : World) :
    TakesTurns plan (c.takeUp w).1 := by
  obtain ⟨added, duties⟩ := h.alternates.addAll c.duties
  obtain ⟨started, same⟩ := added.start w
  rw [duties, fresh] at same
  have names : c.duties.map (·.name) = plan.duties.map (·.name) := by
    unfold Watch.duties
    rw [h.planned, List.map_map]
    rfl
  have taken : TakesTurns plan { c with
      stage := .watching, roster := ((c.duties.foldl Roster.add c.roster).start w).1 } :=
    ⟨h.planned, started, .inr ⟨nofun, (congrArg (List.map (·.name)) same).trans names⟩⟩
  exact taken.noticed _

theorem TakesTurns.settle (h : TakesTurns plan c) (w : World) : TakesTurns plan (c.settle w).1 := by
  unfold Watch.settle
  split
  · rename_i stage
    refine h.takeUp (h.once.resolve_right fun opened => ?_) w
    exact opened.1 _ stage
  · exact h.afterClosing _ _ _
  · exact h.noticed w
  · exact h.drained w
  · exact h.afterClosing _ _ _
  · exact h

theorem TakesTurns.wake (h : TakesTurns plan c) (w : World) : TakesTurns plan (c.wake w).1 := by
  unfold Watch.wake
  split
  · rename_i work stage
    have resumes (work' : Paused Unit) : TakesTurns plan { c with stage := .opening work' } :=
      h.of_eq rfl rfl fun _ => ⟨work, stage⟩
    exact (resumes _).settle _
  · exact TakesTurns.leave (h.of_roster (h.alternates.dismiss _ w)) _ _
  · exact h.afterClosing _ _ _
  · exact h

theorem TakesTurns.step (h : TakesTurns plan c) (t : Nat) (task : Option Nat) (w : World) :
    TakesTurns plan (c.step t task w).1 := by
  cases task with
  | none => exact h.wake _
  | some i => exact TakesTurns.settle (h.of_roster (h.alternates.wake i _)) _

theorem TakesTurns.perform (h : TakesTurns plan c) (a : Act) (w : World) :
    TakesTurns plan (c.perform a w).1 := by
  unfold Watch.perform
  split
  · exact h.of_roster (h.alternates.stop _)
  · exact h.of_roster (h.alternates.stop _)
  · split <;> exact h
  · exact h
  · split <;> exact h

theorem TakesTurns.begin (plan : Plan) (node : Option Rpc) (before : Job Unit) (w : World) :
    TakesTurns plan (Watch.begin plan node before w).1 := by
  have fresh (stage : Stage) (finish : Option Nat) :
      TakesTurns plan { plan, node, stage, finish } := ⟨rfl, Roster.alternates_nil, .inl rfl⟩
  unfold Watch.begin
  dsimp only
  split
  · exact fresh _ _
  · exact (fresh _ none).settle _

theorem TakesTurns.run (plan : Plan) (node : Option Rpc) (before : Job Unit) (acts : List Act)
    (w : World) : TakesTurns plan (Watch.run plan node before acts w).1 := by
  have begins := TakesTurns.begin plan node before w
  exact runActs_keeps (I := fun c _ => TakesTurns plan c) (fun t task c w h => h.step t task w)
    (fun a us c w h => (h.perform a _).settle _) _ _ _ begins

theorem plan_names (plan : Plan) : (plan.duties.map (·.name)).Nodup := by
  unfold Plan.duties
  split
  · exact (by decide : (["batch processor", "balance refresher", "auto-consolidation"].map
      Text.ofString).Nodup)
  · exact (by decide : (["batch processor", "balance refresher"].map Text.ofString).Nodup)

/-- No turn of a duty begins before the one before it is over. -/
theorem TakesTurns.one (h : TakesTurns plan c) {d : Duty} (here : d ∈ plan.duties) :
    ∃ busy, Alternating busy (c.roster.marksOf d.name) := by
  rcases h.once with none | ⟨-, names⟩
  · have unmade : c.roster.marksOf d.name = [] :=
      h.alternates.named.marksOf_nil fun d' listed => by rw [none] at listed; cases listed
    exact ⟨false, unmade ▸ .nil⟩
  · obtain ⟨i, place⟩ := List.mem_iff_getElem?.mp (List.mem_map_of_mem here (f := (·.name)))
    have alone : c.roster.Own i d.name := by
      intro j d' there same
      have named : (c.roster.duties.map (·.name))[j]? = some d.name := by
        rw [List.getElem?_map, there, ← same]
        rfl
      rw [names] at named
      have bound := (List.getElem?_eq_some_iff.mp named).1
      exact (List.getElem?_inj bound (plan_names plan)).mp (named.trans place.symm)
    rw [← names, List.getElem?_map] at place
    obtain ⟨d', there, same⟩ := Option.map_eq_some_iff.mp place
    unfold Roster.duties at there
    rw [List.getElem?_map] at there
    obtain ⟨t, task, rfl⟩ := Option.map_eq_some_iff.mp there
    obtain ⟨made, alternating, own⟩ := h.alternates.each i t task
    rw [same] at own
    exact ⟨_, (own alone).symm ▸ alternating⟩

end Watch

end Faucet
