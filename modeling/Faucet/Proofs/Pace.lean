import Faucet.Proofs.Diary

/-!
The pace of a task: when it was started, and the pause before each of its turns. After turns that took
so long it stands at one place and has made the marks of those turns, and whatever happens to it next
leaves it standing like that.
-/

set_option autoImplicit false

namespace Faucet

/-- The time at which a task was started, and the pause before each of its turns. -/
structure Pace where
  start : Nat
  interval : Nat

namespace Pace

variable (p : Pace)

def overAt (spent : List Nat) : Nat := p.start + spent.length * p.interval + spent.sum

def begins (spent : List Nat) : Nat := p.overAt spent + p.interval

def rounds : List Nat → List (Nat × Bool)
  | [] => []
  | us :: spent => (p.overAt (us :: spent), false) :: (p.begins spent, true) :: rounds spent

theorem overAt_cons (us : Nat) (spent : List Nat) : p.overAt (us :: spent) = p.begins spent + us := by
  unfold begins overAt
  rw [List.length_cons, List.sum_cons, Nat.add_one_mul]
  omega

end Pace

/-- Turns of a duty that took so long, the latest first. Where the length of a turn is given, that is
what it took. -/
inductive Duty.Took (d : Duty) : List Nat → Prop
  | nil : Took d []
  | cons {us : Nat} {spent : List Nat} (took : Took d spent)
    (own : ∀ given, (d.work spent.length).Lasts given → us = given) : Took d (us :: spent)

/-- How a task stands after turns that took so long, and the marks that it has made. -/
inductive Stands (p : Pace) (d : Duty) (stop : Option Nat) (now : Nat) (spent : List Nat) :
    Phase → Nat → List (Nat × Bool) → Prop
  | unstarted (fresh : spent = []) : Stands p d stop now spent .unstarted 0 []
  | waiting (turn : Nat) (going : stop = none) (ended : p.overAt spent ≤ now) :
    Stands p d stop now spent (.waiting (some (p.begins spent)) turn) spent.length (p.rounds spent)
  | working {work : Paused Unit} (under : work.wake? ≠ none) (begun : p.begins spent ≤ now)
    (early : ∀ T, stop = some T → p.begins spent ≤ T)
    (leaves : ∀ us, (d.work spent.length).Lasts us → work.Leaves now (p.begins spent + us)) :
    Stands p d stop now spent (.working work) spent.length
      ((p.begins spent, true) :: p.rounds spent)
  | finished {T : Nat} (asked : stop = some T) (ended : p.overAt spent ≤ now) (late : T ≤ p.begins spent)
    (early : ∀ us rest, spent = us :: rest → p.begins rest ≤ T) :
    Stands p d stop now spent .finished spent.length (p.rounds spent)
  | cancelled (time : Nat) : Stands p d stop now spent .cancelled (spent.length + 1)
      ((time, false) :: (p.begins spent, true) :: p.rounds spent)

section Stands

variable {p : Pace} {stop : Option Nat} {now : Nat} {spent : List Nat} {t : Task}
  {marks : List (Nat × Bool)}

theorem Stands.later {d : Duty} {phase : Phase} {ticks now' : Nat}
    (h : Stands p d stop now spent phase ticks marks) (later : now ≤ now') :
    Stands p d stop now' spent phase ticks marks := by
  cases h with
  | unstarted fresh => exact .unstarted fresh
  | waiting turn going ended => exact .waiting turn going (Nat.le_trans ended later)
  | working under begun early leaves =>
    exact .working under (Nat.le_trans begun later) early fun us lasts => (leaves us lasts).at under now'
  | finished asked ended late early => exact .finished asked (Nat.le_trans ended later) late early
  | cancelled time => exact .cancelled time

theorem Stands.rested {marks : List (Nat × Bool)} (ticks : t.ticks = spent.length)
    (span : t.duty.span? = some p.interval) (ended : p.overAt spent = now)
    (asked : ∀ T, stop = some T → T ≤ now)
    (early : ∀ T, stop = some T → ∀ us rest, spent = us :: rest → p.begins rest ≤ T)
    (rounds : marks = p.rounds spent) (turn : Nat) :
    Stands p t.duty stop now spent (t.rested stop.isSome turn now).phase
      (t.rested stop.isSome turn now).ticks marks := by
  subst ended rounds
  cases stop with
  | none =>
    change Stands p t.duty none _ spent (.waiting (t.duty.span?.map (p.overAt spent + ·)) turn) t.ticks _
    rw [span, ticks]
    exact .waiting turn rfl (Nat.le_refl _)
  | some T =>
    change Stands p t.duty (some T) _ spent .finished t.ticks _
    rw [ticks]
    exact .finished rfl (Nat.le_refl _) (Nat.le_trans (asked T rfl) (Nat.le_add_right _ _))
      (early T rfl)

theorem Stands.settled (took : t.duty.Took spent) (ticks : t.ticks = spent.length)
    (span : t.duty.span? = some p.interval) (begun : p.begins spent ≤ now)
    (asked : ∀ T, stop = some T → T ≤ now) (early : ∀ T, stop = some T → p.begins spent ≤ T)
    {work : Paused Unit}
    (leaves : ∀ us, (t.duty.work spent.length).Lasts us → work.Leaves now (p.begins spent + us))
    (under : (∃ r, work = .ended r) ∨ work.wake? ≠ none) (turn : Nat) :
    ∃ spent', t.duty.Took spent' ∧ Stands p t.duty stop now spent'
      (t.settled stop.isSome turn now work).phase (t.settled stop.isSome turn now work).ticks
      (work.endMarks.filterMap (fun m => m.opens?.map (now, ·)) ++
        (p.begins spent, true) :: p.rounds spent) := by
  rcases under with ⟨r, rfl⟩ | under
  · have ended : p.overAt ((now - p.begins spent) :: spent) = now := by
      rw [p.overAt_cons]
      omega
    refine ⟨(now - p.begins spent) :: spent, took.cons fun given lasts => ?_, ?_⟩
    · have ends : now = p.begins spent + given := by
        cases leaves given lasts
        rfl
      omega
    · have marked : (Paused.ended r).endMarks.filterMap (fun m => m.opens?.map (now, ·)) =
          [(now, false)] := by
        cases r <;> rfl
      refine Stands.rested (t := { t with ticks := t.ticks + 1 }) (congrArg (· + 1) ticks) span ended
        asked (fun T stopped us rest same => ?_) ?_ turn
      · cases same
        exact early T stopped
      · rw [marked]
        change (now, false) :: _ = (p.overAt (_ :: spent), false) :: _
        rw [ended]
        rfl
  · refine ⟨spent, took, ?_⟩
    cases work with
    | ended r => exact absurd rfl under
    | waiting | calling =>
      change Stands p t.duty stop now spent (.working _) t.ticks _
      rw [ticks]
      exact .working under begun early leaves

theorem Stands.turn {w : World}
    (h : Stands p t.duty stop w.elapsed spent t.phase t.ticks marks) (took : t.duty.Took spent)
    (span : t.duty.span? = some p.interval) (asked : ∀ T, stop = some T → T ≤ w.elapsed)
    (wakes : t.wake? = some w.elapsed) (turn : Nat) :
    ∃ spent', t.duty.Took spent' ∧ Stands p t.duty stop w.elapsed spent'
      (t.settled stop.isSome turn w.elapsed (t.proceed w).1).phase
      (t.settled stop.isSome turn w.elapsed (t.proceed w).1).ticks
      (((t.proceed w).1.endMarks ++ t.openMarks).filterMap (fun m => m.opens?.map (w.elapsed, ·)) ++
        marks) := by
  rw [List.filterMap_append, List.append_assoc]
  obtain ⟨duty, phase, ticks⟩ := t
  dsimp only at h took span
  cases h with
  | unstarted | finished | cancelled => cases wakes
  | waiting began going ended =>
    have now : p.begins spent = w.elapsed := Option.some.inj wakes
    have opened : [Mark.began].filterMap (fun m => m.opens?.map (w.elapsed, ·)) ++ p.rounds spent =
        (p.begins spent, true) :: p.rounds spent := by
      rw [now]
      rfl
    change ∃ spent', _ ∧ Stands p duty stop w.elapsed spent' _ _
      (_ ++ ([Mark.began].filterMap _ ++ p.rounds spent))
    rw [opened]
    refine Stands.settled took rfl span (Nat.le_of_eq now) asked (fun T stopped => ?_)
      (fun us lasts => ?_) ((duty.work spent.length).advance_ends w) turn
    · rw [going] at stopped
      cases stopped
    · rw [now]
      exact lasts.advance w
  | working under begun early leaves =>
    exact Stands.settled took rfl span begun asked early
      (fun us lasts => (leaves us lasts).resume wakes) (Paused.resume_ends under w) turn

theorem Stands.stopped (h : Stands p t.duty none now spent t.phase t.ticks marks)
    (clear : ∀ u, t.wake? = some u → now ≤ u) :
    Stands p t.duty (some now) now spent t.stopped.phase t.stopped.ticks marks := by
  obtain ⟨duty, phase, ticks⟩ := t
  cases h with
  | finished asked => cases asked
  | waiting turn going ended =>
    refine .finished rfl ended (clear _ rfl) fun us rest same => ?_
    rw [same, p.overAt_cons] at ended
    exact Nat.le_trans (Nat.le_add_right _ _) ended
  | unstarted fresh => exact .unstarted fresh
  | working under begun early leaves =>
    exact .working under begun (fun T same => Option.some.inj same ▸ begun) leaves
  | cancelled time => exact .cancelled time

theorem Stands.cancelled_of_working (h : Stands p t.duty stop now spent t.phase t.ticks marks)
    (works : t.isWorking = true) (time : Nat) :
    Stands p t.duty stop now spent .cancelled (t.ticks + 1) ((time, false) :: marks) := by
  obtain ⟨duty, phase, ticks⟩ := t
  cases h with
  | working => exact .cancelled time
  | unstarted | waiting | finished | cancelled => cases works

theorem Stands.started (h : Stands p t.duty stop now spent t.phase t.ticks marks)
    (fresh : t.isStarted = false) (start : p.start = now) (span : t.duty.span? = some p.interval)
    (asked : ∀ T, stop = some T → T ≤ now) (turn : Nat) :
    Stands p t.duty stop now spent (t.rested stop.isSome turn now).phase
      (t.rested stop.isSome turn now).ticks marks := by
  obtain ⟨duty, phase, ticks⟩ := t
  cases h with
  | unstarted first =>
    subst first
    have ended : p.overAt [] = now := by
      change p.start + 0 * p.interval + 0 = now
      rw [Nat.zero_mul]
      exact start
    exact Stands.rested rfl span ended asked (fun _ _ _ _ same => by cases same) rfl turn
  | waiting | working | finished | cancelled => cases fresh

end Stands

/-- How a task stands whose pause has no end: it has never had a turn. -/
inductive Idles (stop : Option Nat) : Phase → Nat → List (Nat × Bool) → Prop
  | unstarted : Idles stop .unstarted 0 []
  | waiting (turn : Nat) (going : stop = none) : Idles stop (.waiting none turn) 0 []
  | finished (asked : stop.isSome = true) : Idles stop .finished 0 []

section Idles

variable {stop : Option Nat} {t : Task} {marks : List (Nat × Bool)}

theorem Idles.started (h : Idles stop t.phase t.ticks marks) (span : t.duty.span? = none)
    (fresh : t.isStarted = false) (turn now : Nat) :
    Idles stop (t.rested stop.isSome turn now).phase (t.rested stop.isSome turn now).ticks marks := by
  obtain ⟨duty, phase, ticks⟩ := t
  dsimp only at span
  cases h with
  | unstarted =>
    cases stop with
    | none =>
      change Idles none (.waiting (duty.span?.map (now + ·)) turn) 0 []
      rw [span]
      exact .waiting turn rfl
    | some T => exact .finished rfl
  | waiting | finished => cases fresh

theorem Idles.stopped (h : Idles none t.phase t.ticks marks) (T : Nat) :
    Idles (some T) t.stopped.phase t.stopped.ticks marks := by
  obtain ⟨duty, phase, ticks⟩ := t
  cases h with
  | unstarted => exact .unstarted
  | waiting => exact .finished rfl
  | finished asked => cases asked

theorem Idles.wake? (h : Idles stop t.phase t.ticks marks) : t.wake? = none ∧ t.isWorking = false := by
  obtain ⟨duty, phase, ticks⟩ := t
  cases h <;> exact ⟨rfl, rfl⟩

end Idles

end Faucet
