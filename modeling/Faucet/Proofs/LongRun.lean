import Faucet.Proofs.Ending
import Faucet.Proofs.Opening

/-!
The order of a long run, whatever the node answers and how late, whatever the store does and whoever
acts from outside. First the opening asks for what it needs, then the duties do, and the wallet is
closed once, at the very end. Duties are not taken up before the wallet was found and the sweep has
come to its end.
-/

set_option autoImplicit false

namespace Faucet

namespace Watch

variable {plan : Plan} {base opening ticks closing : List WalletCall} {told : Paused (Told Unit)}
  {c : Watch} {w w' : World}

/-- How a run gets on from the world in which its opening began. All that happens in it is one of
these, and what the opening was answered is told. -/
inductive Trail (plan : Plan) (start : World) : Paused (Told Unit) → Watch × World → Prop
  | opens {told : Paused (Told Unit)} {w : World}
    (goes : (plan.settleIn.narrated []).advance StoreStep.stepper start = (told, w)) :
    Trail plan start told (settle { plan, node := none, stage := .opening told.untold } w)
  | passes {told : Paused (Told Unit)} {c : Watch} {w : World} (trail : Trail plan start told (c, w))
    (us : Nat) : Trail plan start told (c, w.elapse us)
  | resumes {told told' : Paused (Told Unit)} {c : Watch} {w w' : World} {work : Paused Unit}
    (trail : Trail plan start told (c, w)) (stage : c.stage = .opening work)
    (goes : told.resume StoreStep.stepper w = (told', w')) :
    Trail plan start told' (settle { c with stage := .opening told'.untold } w')
  | wakes {told : Paused (Told Unit)} {c : Watch} {w : World} (trail : Trail plan start told (c, w))
    (opened : ∀ work, c.stage ≠ .opening work) : Trail plan start told (c.wake w)
  | turns {told : Paused (Told Unit)} {c : Watch} {w w' : World} {roster : Roster}
    (trail : Trail plan start told (c, w)) (i : Nat) (goes : c.roster.wake i w = (roster, w')) :
    Trail plan start told (settle { c with roster } w')
  | acts {told : Paused (Told Unit)} {c c' : Watch} {w w' : World}
    (trail : Trail plan start told (c, w)) (a : Act) (goes : c.perform a w = (c', w')) :
    Trail plan start told (c'.settle w')

/-- The calls of a run so far: those of its opening, those of its duties, and those of its closing. -/
structure Account (plan : Plan) (base : List WalletCall) (told : Paused (Told Unit))
    (opening ticks closing : List WalletCall) (c : Watch) (w : World) : Prop where
  planned : c.plan = plan
  scripted : c.node = none
  calls : w.calls = base ++ opening ++ ticks ++ closing
  tells : told.Tells plan.settleIn opening
  kinds : ∀ x ∈ ticks, x.isTick
  ready : c.roster.Began ∨ ticks ≠ [] → plan.Ready told
  sound : c.roster.Sound WalletCall.isTick

inductive Kept (plan : Plan) (base : List WalletCall) (told : Paused (Told Unit)) :
    Watch × World → Prop
  | opening {opening : List WalletCall} {c : Watch} {w : World}
    (account : Account plan base told opening [] [] c w) (stage : c.stage = .opening told.untold)
    (idle : c.roster.Idle) (fresh : ¬c.roster.Began) : Kept plan base told (c, w)
  | watching {opening ticks : List WalletCall} {c : Watch} {w : World}
    (account : Account plan base told opening ticks [] c w) (ready : plan.Ready told)
    (stage : c.stage = .watching ∨ (∃ d, c.stage = .draining d) ∧ c.roster.stopping = true) :
    Kept plan base told (c, w)
  | closing {opening ticks : List WalletCall} {c : Watch} {w : World}
    (account : Account plan base told opening ticks [.close] c w) (idle : c.roster.Idle)
    (stage : (∃ outcome work, c.stage = .closing outcome work ∧ work.Keeps fun _ => False) ∨
      ∃ outcome, c.stage = .over outcome) : Kept plan base told (c, w)

theorem sees_none {w w' : World} (h : w.Sees (fun _ => False) w') : w'.calls = w.calls := by
  obtain ⟨made, calls, none⟩ := h
  have empty : made = [] := List.eq_nil_iff_forall_not_mem.mpr none
  rw [calls, empty, List.append_nil]

theorem Account.of_eq {c' : Watch} (h : Account plan base told opening ticks closing c w)
    (plans : c'.plan = c.plan) (nodes : c'.node = c.node)
    (began : c'.roster.Began → c.roster.Began) (sound : c'.roster.Sound WalletCall.isTick)
    (same : w'.calls = w.calls) : Account plan base told opening ticks closing c' w' where
  planned := plans.trans h.planned
  scripted := nodes.trans h.scripted
  calls := same.trans h.calls
  tells := h.tells
  kinds := h.kinds
  ready some := h.ready (some.imp_left began)
  sound := sound

theorem advance_close (w : World) :
    (Upkeep.close.advance StoreStep.stepper w).2.calls = w.calls ++ [.close] ∧
      (Upkeep.close.advance StoreStep.stepper w).1.Keeps fun _ => False := by
  have rest (r : Except Failure Unit) : ((Job.ofExcept r).bind fun _ => Job.closeStore).Asks
      Query.Quiet :=
    Job.asks_bind (Job.asks_ofExcept r) fun _ => Job.asks_closeStore trivial
  have course : Upkeep.close = .ask (.wallet .close) fun r =>
      (Job.ofExcept r).bind fun _ => Job.closeStore := rfl
  rw [course]
  cases w.meets StoreStep.stepper_hushed (.wallet .close) with
  | answers r w' calls goes =>
    obtain ⟨sees, keeps⟩ := Job.advance_sees StoreStep.stepper_hushed (rest r) w'
    rw [goes]
    exact ⟨(sees_none sees).trans calls, keeps⟩
  | waits t r w' calls goes =>
    rw [goes]
    exact ⟨calls, rest r⟩
  | starts t w' calls goes =>
    rw [goes]
    exact ⟨calls, rest⟩

theorem Account.afterClosing (h : Account plan base told opening ticks [.close] c w)
    (idle : c.roster.Idle) (outcome : Except Failure Bool) {work : Paused Unit}
    (keeps : work.Keeps fun _ => False) : Kept plan base told (c.afterClosing outcome w work, w) := by
  cases work with
  | ended r =>
    cases r with
    | ok u => exact .closing (h.of_eq rfl rfl id h.sound rfl) idle (.inr ⟨_, rfl⟩)
    | error e => exact .closing (h.of_eq rfl rfl id h.sound rfl) idle (.inr ⟨_, rfl⟩)
  | waiting t rest => exact .closing (h.of_eq rfl rfl id h.sound rfl) idle (.inl ⟨_, _, rfl, keeps⟩)
  | calling t call next =>
    exact .closing (h.of_eq rfl rfl id h.sound rfl) idle (.inl ⟨_, _, rfl, keeps⟩)

theorem Account.close (h : Account plan base told opening ticks [] c w) (idle : c.roster.Idle)
    (outcome : Except Failure Bool) : Kept plan base told (c.close outcome w) := by
  obtain ⟨calls, keeps⟩ := advance_close w
  unfold Watch.close
  rw [h.scripted]
  change Kept plan base told (c.afterClosing outcome (Upkeep.close.advance StoreStep.stepper w).2
    (Upkeep.close.advance StoreStep.stepper w).1, (Upkeep.close.advance StoreStep.stepper w).2)
  have closed : Account plan base told opening ticks [.close] c
      (Upkeep.close.advance StoreStep.stepper w).2 :=
    { h with calls := by rw [calls, h.calls, List.append_nil] }
  exact closed.afterClosing idle outcome keeps

theorem Account.leave (h : Account plan base told opening ticks [] c w) (idle : c.roster.Idle)
    (clean : Bool) : Kept plan base told (c.leave clean w) := by
  have quiet : (Plan.farewell clean).Asks Query.Quiet := by
    unfold Plan.farewell
    split <;> exact Job.asks_log trivial
  have calls := Job.calls_complete StoreStep.stepper_hushed quiet w
  exact (h.of_eq rfl rfl id h.sound calls).close idle (.ok clean)

theorem Account.drained (h : Account plan base told opening ticks [] c w) (ready : plan.Ready told)
    (stage : ∃ d, c.stage = .draining d) (stopping : c.roster.stopping = true) :
    Kept plan base told (c.drained w) := by
  unfold Watch.drained
  split
  · rename_i done
    have told : Account plan base told opening ticks [] c (w.logLine .info Roster.stoppedLine) :=
      h.of_eq rfl rfl id h.sound rfl
    exact told.leave (Roster.idle_of_isIdle done) true
  · exact .watching h ready (.inr ⟨stage, stopping⟩)

theorem Account.noticed (h : Account plan base told opening ticks [] c w) (ready : plan.Ready told)
    (stage : c.stage = .watching) : Kept plan base told (c.noticed w) := by
  unfold Watch.noticed
  split
  · rename_i stopping
    have drains (d : Option Nat) :
        Account plan base told opening ticks [] { c with stage := .draining d } w :=
      h.of_eq rfl rfl id h.sound rfl
    exact (drains _).drained ready ⟨_, rfl⟩ stopping
  · exact .watching h ready (.inl stage)

theorem Account.duties (h : Account plan base told opening ticks closing c w) :
    ∀ d ∈ c.duties, ∀ n, (d.work n).Asks (Query.Keeps WalletCall.isTick) := by
  intro d here n
  obtain ⟨d', listed, rfl⟩ := List.mem_map.mp here
  rw [h.scripted, h.planned] at *
  exact plan.duties_ticks d' listed n

theorem Account.takeUp (h : Account plan base told opening [] [] c w) (ready : plan.Ready told) :
    Kept plan base told (c.takeUp w) := by
  obtain ⟨sound, calls⟩ := (h.sound.addAll h.duties).start w
  have taken : Account plan base told opening [] [] { c with
      stage := .watching, roster := ((c.duties.foldl Roster.add c.roster).start w).1 }
      ((c.duties.foldl Roster.add c.roster).start w).2 :=
    { h with calls := calls.trans h.calls, ready := fun _ => ready, sound := sound }
  exact taken.noticed ready rfl

/-! ### One thing after another -/

theorem Account.opened (h : Account plan base told opening [] [] c w)
    (stage : c.stage = .opening told.untold) (idle : c.roster.Idle) (fresh : ¬c.roster.Began) :
    Kept plan base told (c.settle w) := by
  have stays : Kept plan base told (c, w) := .opening h stage idle fresh
  unfold Watch.settle
  rw [stage]
  have tells := h.tells
  cases tells with
  | ended walks =>
    rename_i r log
    cases r with
    | ok u => exact h.takeUp (Plan.ready_of_walks walks)
    | error e => exact h.close idle (.error e)
  | waiting walks => exact stays
  | calling walks => exact stays

theorem Kept.settle (h : Kept plan base told (c, w)) : Kept plan base told (c.settle w) := by
  cases h with
  | opening account stage idle fresh => exact account.opened stage idle fresh
  | watching account ready stage =>
    unfold Watch.settle
    rcases stage with watching | ⟨⟨d, draining⟩, stopping⟩
    · rw [watching]
      exact account.noticed ready watching
    · rw [draining]
      exact account.drained ready ⟨d, draining⟩ stopping
  | closing account idle stage =>
    unfold Watch.settle
    rcases stage with ⟨outcome, work, closes, keeps⟩ | ⟨outcome, ended⟩
    · rw [closes]
      exact account.afterClosing idle outcome keeps
    · rw [ended]
      exact .closing account idle (.inr ⟨outcome, ended⟩)

theorem Kept.of_eq {c' : Watch} (h : Kept plan base told (c, w)) (plans : c'.plan = c.plan)
    (nodes : c'.node = c.node) (stages : c'.stage = c.stage)
    (stopping : c.roster.stopping = true → c'.roster.stopping = true)
    (idle : c.roster.Idle → c'.roster.Idle) (began : c'.roster.Began → c.roster.Began)
    (sound : c.roster.Sound WalletCall.isTick → c'.roster.Sound WalletCall.isTick)
    (same : w'.calls = w.calls) : Kept plan base told (c', w') := by
  cases h with
  | opening account stage idle' fresh =>
    exact .opening (account.of_eq plans nodes began (sound account.sound) same)
      (stages.trans stage) (idle idle') (fresh ∘ began)
  | watching account ready stage =>
    refine .watching (account.of_eq plans nodes began (sound account.sound) same) ready ?_
    rw [stages]
    exact stage.imp_right fun drains => ⟨drains.1, stopping drains.2⟩
  | closing account idle' stage =>
    refine .closing (account.of_eq plans nodes began (sound account.sound) same) (idle idle') ?_
    rw [stages]
    exact stage

theorem Kept.passes (h : Kept plan base told (c, w)) (us : Nat) :
    Kept plan base told (c, w.elapse us) :=
  h.of_eq rfl rfl rfl id id id id rfl

theorem Kept.sound (h : Kept plan base told (c, w)) : c.roster.Sound WalletCall.isTick := by
  cases h with
  | opening account => exact account.sound
  | watching account => exact account.sound
  | closing account => exact account.sound

theorem Kept.stop (h : Kept plan base told (c, w)) : Kept plan base told (c.stop w) := by
  obtain ⟨sound, idle, began, calls⟩ := h.sound.stop w
  exact h.of_eq rfl rfl rfl (fun _ => c.roster.stop_stopping w) idle began (fun _ => sound) calls

theorem Kept.perform (h : Kept plan base told (c, w)) (a : Act) :
    Kept plan base told (c.perform a w) := by
  have same {w' : World} (calls : w'.calls = w.calls) : Kept plan base told (c, w') :=
    h.of_eq rfl rfl rfl id id id id calls
  unfold Watch.perform
  cases a.deed with
  | stop => exact Kept.stop (same rfl)
  | signal => exact Kept.stop (same rfl)
  | submit address tier source =>
    have calls := Job.calls_complete StoreStep.stepper_hushed
      ((c.plan.intake.submit_requests address tier source).mono Query.quiet_of_isRequest) w
    dsimp only
    split
    · rename_i r w' done
      rw [done] at calls
      exact same calls
    · rename_i e w' done
      rw [done] at calls
      exact same calls
  | script change => exact same rfl
  | step s =>
    have calls := s.take_hushed StoreStep.stepper_hushed w
    dsimp only
    split
    · rename_i answer w' done
      change s.take StoreStep.stepper w = _ at done
      rw [done] at calls
      exact same calls
    · rename_i e w' done
      change s.take StoreStep.stepper w = _ at done
      rw [done] at calls
      exact same calls

theorem Kept.turns (h : Kept plan base told (c, w)) (i : Nat) :
    Kept plan base told ({ c with roster := (c.roster.wake i w).1 }, (c.roster.wake i w).2) := by
  cases h with
  | opening account stage idle fresh =>
    rw [idle.wake]
    exact .opening account stage idle fresh
  | closing account idle stage =>
    rw [idle.wake]
    exact .closing account idle stage
  | watching account ready stage =>
    rename_i opening ticks
    obtain ⟨sound, made, calls, kinds⟩ := account.sound.wake i w
    have more : Account plan base told opening (ticks ++ made) []
        { c with roster := (c.roster.wake i w).1 } (c.roster.wake i w).2 :=
      { account with
        calls := by
          rw [calls, account.calls]
          simp only [List.append_nil, List.append_assoc]
        kinds := List.forall_mem_append.mpr ⟨account.kinds, kinds⟩
        ready := fun _ => ready
        sound := sound }
    exact .watching more ready (stage.imp_right fun drains =>
      ⟨drains.1, (Roster.wake_stopping i c.roster w).trans drains.2⟩)

theorem Kept.wakes (h : Kept plan base told (c, w)) (opened : ∀ work, c.stage ≠ .opening work) :
    Kept plan base told (c.wake w) := by
  cases h with
  | opening account stage idle fresh => exact absurd stage (opened _)
  | watching account ready stage =>
    unfold Watch.wake
    rcases stage with watching | ⟨⟨d, draining⟩, stopping⟩
    · rw [watching]
      exact .watching account ready (.inl watching)
    · rw [draining]
      obtain ⟨sound, idle, began, calls⟩ :=
        account.sound.dismiss stopping c.plan.settings.shutdownTimeout w
      have dismissed : Account plan base told _ _ []
          { c with roster := (c.roster.dismiss c.plan.settings.shutdownTimeout w).1 } _ :=
        account.of_eq rfl rfl began sound calls
      exact dismissed.leave idle false
  | closing account idle stage =>
    unfold Watch.wake
    rcases stage with ⟨outcome, work, closes, keeps⟩ | ⟨outcome, ended⟩
    · obtain ⟨sees, later⟩ := work.resume_sees StoreStep.stepper_hushed keeps w
      rw [closes]
      exact (account.of_eq rfl rfl id account.sound (sees_none sees)).afterClosing idle outcome later
    · rw [ended]
      exact .closing account idle (.inr ⟨outcome, ended⟩)

theorem Kept.opens {work : Paused Unit} (h : Kept plan base told (c, w))
    (stage : c.stage = .opening work) : ∃ opening, Account plan base told opening [] [] c w ∧
      work = told.untold ∧ c.roster.Idle ∧ ¬c.roster.Began := by
  cases h with
  | opening account opens idle fresh =>
    exact ⟨_, account, Stage.opening.inj (stage.symm.trans opens), idle, fresh⟩
  | watching account ready watches =>
    rcases watches with watching | ⟨⟨d, draining⟩, -⟩
    · cases stage.symm.trans watching
    · cases stage.symm.trans draining
  | closing account idle closes =>
    rcases closes with ⟨outcome, work, closes, -⟩ | ⟨outcome, ended⟩
    · cases stage.symm.trans closes
    · cases stage.symm.trans ended

theorem Kept.resumes {told' : Paused (Told Unit)} {work : Paused Unit}
    (h : Kept plan base told (c, w)) (stage : c.stage = .opening work)
    (goes : told.resume StoreStep.stepper w = (told', w')) :
    Kept plan base told' (Watch.settle { c with stage := .opening told'.untold } w') := by
  obtain ⟨opening, account, -, idle, fresh⟩ := h.opens stage
  obtain ⟨made, calls, tells⟩ := Paused.resume_tells StoreStep.stepper_hushed account.tells w
  rw [goes] at calls tells
  have more : Account plan base told' (opening ++ made) [] []
      { c with stage := .opening told'.untold } w' :=
    { account with
      calls := by
        rw [calls, account.calls]
        simp only [List.append_nil, List.append_assoc]
      tells := tells
      ready := fun some => some.elim (fun began => absurd began fresh) (absurd rfl) }
  exact more.opened rfl idle fresh

theorem kept_opens {start : World}
    (goes : (plan.settleIn.narrated []).advance StoreStep.stepper start = (told, w)) :
    Kept plan start.calls told
      (Watch.settle { plan, node := none, stage := .opening told.untold } w) := by
  obtain ⟨made, calls, tells⟩ := Job.advance_tells StoreStep.stepper_hushed
    (.stay plan.settleIn) start
  rw [goes] at calls tells
  have idle : Roster.Idle {} := List.forall_mem_nil _
  have fresh : ¬Roster.Began {} := fun began => by
    obtain ⟨m, here, -⟩ := began
    cases here
  have sound : Roster.Sound WalletCall.isTick {} :=
    ⟨List.forall_mem_nil _, fun _ => List.forall_mem_nil _⟩
  have first : Account plan start.calls told made [] []
      { plan, node := none, stage := .opening told.untold } w :=
    { planned := rfl
      scripted := rfl
      calls := by
        rw [List.append_nil, List.append_nil]
        exact calls
      tells := tells
      kinds := List.forall_mem_nil _
      ready := fun some => some.elim (fun began => absurd began fresh) (absurd rfl)
      sound := sound }
  exact first.opened rfl idle fresh

theorem Trail.kept {at' : Watch × World} {start : World} (trail : Trail plan start told at') :
    Kept plan start.calls told at' := by
  induction trail with
  | opens goes => exact kept_opens goes
  | passes trail us ih => exact ih.passes us
  | resumes trail stage goes ih => exact ih.resumes stage goes
  | wakes trail opened ih => exact ih.wakes opened
  | turns trail i goes ih =>
    have turned := ih.turns i
    rw [goes] at turned
    exact turned.settle
  | acts trail a goes ih =>
    have acted := ih.perform a
    rw [goes] at acted
    exact acted.settle

theorem Trail.wake {start : World} (trail : Trail plan start told (c, w)) :
    ∃ told', Trail plan start told' (c.wake w) := by
  cases stage : c.stage with
  | opening work =>
    obtain ⟨opening, -, same, -⟩ := trail.kept.opens stage
    refine ⟨(told.resume StoreStep.stepper w).1, ?_⟩
    have goes := told.resume_untold StoreStep.stepper_hushed w
    unfold Watch.wake
    rw [stage, same]
    dsimp only
    rw [goes]
    exact trail.resumes stage rfl
  | _ =>
    exact ⟨told, trail.wakes fun work opens => by cases stage.symm.trans opens⟩

theorem Trail.step {start : World} (trail : Trail plan start told (c, w)) (t : Nat)
    (task : Option Nat) : ∃ told', Trail plan start told' (c.step t task w) := by
  have later := trail.passes (t - w.elapsed)
  cases task with
  | none => exact later.wake
  | some i => exact ⟨told, later.turns i rfl⟩

/-- How a run has come to where it is, with nothing left to be done at once. -/
def OnCourse (plan : Plan) (start : World) (c : Watch) (w : World) : Prop :=
  (∃ told, Trail plan start told (c, w)) ∧ c.Settled

theorem OnCourse.step {start : World} (t : Nat) (task : Option Nat) (c : Watch) (w : World)
    (h : OnCourse plan start c w) : OnCourse plan start (c.step t task w).1 (c.step t task w).2 := by
  obtain ⟨⟨told, trail⟩, settled⟩ := h
  exact ⟨trail.step t task, settled.step t task w⟩

theorem OnCourse.runWithin {start : World} (h : OnCourse plan start c w) (limit : Option Nat)
    (fuel : Nat) : OnCourse plan start (c.runWithin limit fuel w).1 (c.runWithin limit fuel w).2 :=
  runWithin_keeps OnCourse.step limit fuel c w h

theorem OnCourse.runActs {start : World} (h : OnCourse plan start c w) (acts : List Act) :
    OnCourse plan start (c.runActs acts w).1 (c.runActs acts w).2 := by
  refine runActs_keeps OnCourse.step (fun a us c w h => ?_) acts c w h
  obtain ⟨⟨told, trail⟩, -⟩ := h
  exact ⟨⟨told, (trail.passes us).acts a rfl⟩, settle_settled _ _⟩

theorem OnCourse.ends {start : World} (h : OnCourse plan start c w)
    (stops : c.outcome?.isSome = true ∨ c.roster.stopping = true) : ComesToEnd (c, w) := by
  obtain ⟨⟨told, trail⟩, settled⟩ := h
  rcases stops with ended | stopping
  · exact ⟨0, ended⟩
  rw [← settled w]
  cases trail.kept with
  | opening account stage idle fresh =>
    have same : { c with stage := .opening told.untold } = c := by rw [← stage]
    rw [← same]
    exact opening_ends account.sound stopping idle account.duties told.untold w
  | watching account ready stage =>
    rcases stage with watching | ⟨⟨d, draining⟩, -⟩
    · have noticed : c.settle w = c.noticed w := by
        unfold Watch.settle
        rw [watching]
      rw [noticed]
      exact noticed_ends account.sound stopping w
    · rw [settle_draining draining]
      exact drained_ends account.sound stopping ⟨d, draining⟩ w
  | closing account idle stage =>
    unfold Watch.settle
    rcases stage with ⟨outcome, work, closes, -⟩ | ⟨outcome, ended⟩
    · rw [closes]
      exact afterClosing_ends idle outcome work w
    · rw [ended]
      refine ⟨0, ?_⟩
      change c.outcome?.isSome = true
      unfold outcome?
      rw [ended]
      rfl

theorem runWithin_over {o : Except Failure Bool} (ended : c.outcome? = some o) (limit : Option Nat)
    (fuel : Nat) (w : World) : c.runWithin limit fuel w = (c, w) := by
  cases fuel with
  | zero => rfl
  | succ fuel =>
    unfold Watch.runWithin
    rw [ended]

theorem runActs_over {o : Except Failure Bool} (ended : c.outcome? = some o) (acts : List Act)
    (w : World) : c.runActs acts w = (c, w) := by
  cases acts with
  | nil => exact runWithin_over ended _ _ w
  | cons a rest =>
    unfold Watch.runActs
    rw [runWithin_over ended]
    dsimp only
    rw [ended]
    rfl

/-! ### The order -/

/-- What puts a faucet together before its run: nothing, if that has been done. -/
def making (plan : Plan) (own : Bool) : Job Unit :=
  if own then do
    Job.ofExcept plan.settings.requireCredentials
    Job.prepare
  else return ()

def greeting (plan : Plan) (own : Bool) : Job Unit := do
  Plan.greet plan.settings
  making plan own

theorem greeting_quiet (plan : Plan) (own : Bool) : (greeting plan own).Asks Query.Quiet := by
  refine Job.asks_bind ?_ fun _ => ?_
  · exact Job.asks_bind (Job.asks_ofExcept _) fun _ => Job.asks_bind (Job.asks_log trivial) fun _ =>
      Job.asks_bind (Job.asks_log trivial) fun _ => Job.asks_bind (Job.asks_log trivial) fun _ =>
        Job.asks_log trivial
  · cases own with
    | false => trivial
    | true => exact Job.asks_bind (Job.asks_ofExcept _) fun _ => Job.asks_prepare trivial

/-- The calls of a run are in order: those of the opening, those of the duties, and one that closes
the wallet, which is there if the run is over. A duty has a turn only if the opening has found the
wallet and swept, so none ever has if either fails. -/
def Orderly (plan : Plan) (start : World) (out : Watch × World) : Prop :=
  ∃ told opening ticks closing, Trail plan start told out ∧
    out.2.calls = start.calls ++ opening ++ ticks ++ closing ∧
      told.Tells plan.settleIn opening ∧ (∀ x ∈ opening, x.isOpening) ∧ (∀ x ∈ ticks, x.isTick) ∧
        (out.1.roster.Began ∨ ticks ≠ [] → plan.Ready told) ∧
          (closing = [.close] ∨ closing = [] ∧ out.1.outcome? = none)

theorem Trail.orderly {out : Watch × World} {start : World} (trail : Trail plan start told out) :
    Orderly plan start out := by
  have kinds {opening : List WalletCall} (tells : told.Tells plan.settleIn opening) :
      ∀ x ∈ opening, x.isOpening := tells.keeps plan.settleIn_asks
  obtain ⟨c, w⟩ := out
  cases trail.kept with
  | opening account stage =>
    have running : c.outcome? = none := by
      unfold Watch.outcome?
      rw [stage]
    exact ⟨told, _, _, _, trail, account.calls, account.tells, kinds account.tells, account.kinds,
      account.ready, .inr ⟨rfl, running⟩⟩
  | watching account ready stage =>
    have running : c.outcome? = none := by
      unfold Watch.outcome?
      rcases stage with watching | ⟨⟨d, draining⟩, -⟩
      · rw [watching]
      · rw [draining]
    exact ⟨told, _, _, _, trail, account.calls, account.tells, kinds account.tells, account.kinds,
      account.ready, .inr ⟨rfl, running⟩⟩
  | closing account =>
    exact ⟨told, _, _, _, trail, account.calls, account.tells, kinds account.tells, account.kinds,
      account.ready, .inl rfl⟩

theorem begin_error {own : Bool} {e : Failure}
    (done : (greeting plan own).complete StoreStep.stepper w = (.error e, w')) :
    Watch.begin plan none (making plan own) w =
      ({ plan, node := none, stage := .over (.error e), finish := some w'.elapsed }, w') := by
  have stops : (do Plan.greet plan.settings; making plan own : Job Unit).complete
      StoreStep.stepper w = (.error e, w') := done
  unfold Watch.begin
  rw [stops]

theorem run_error {own : Bool} {e : Failure}
    (done : ((greeting plan own).complete StoreStep.stepper w).1 = .error e) (acts : List Act) :
    let out := Watch.run plan none (making plan own) acts w
    out.1.outcome? = some (.error e) ∧ out.2.calls = w.calls ∧ ¬out.1.roster.Began := by
  intro out
  have calls := Job.calls_complete StoreStep.stepper_hushed (greeting_quiet plan own) w
  cases fails : (greeting plan own).complete StoreStep.stepper w with
  | mk r w' =>
    rw [fails] at done calls
    cases done
    have ends : out = ({ plan, node := none, stage := .over (.error e)
                         finish := some w'.elapsed }, w') := by
      change Watch.run plan none (making plan own) acts w = _
      unfold Watch.run
      rw [begin_error fails]
      exact runActs_over rfl _ _
    rw [ends]
    refine ⟨rfl, calls, ?_⟩
    rintro ⟨m, here, -⟩
    cases here

end Watch

end Faucet
