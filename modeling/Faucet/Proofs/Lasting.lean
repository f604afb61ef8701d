import Faucet.Proofs.StoreWork

/-!
How long work takes. Time passes only where a job waits, so that what is done between two waits takes
none, in the middle of whatever else it is done.
-/

set_option autoImplicit false

namespace Faucet

namespace World

theorem elapsed_aloof : Aloof elapsed where
  database _ _ := rfl
  faults _ _ := rfl
  clock _ _ := rfl
  draws _ _ := rfl
  logs _ _ _ := rfl

theorem elapsed_finishCall (c : WalletCall) (w : World) : (w.finishCall c).2.elapsed = w.elapsed := by
  unfold finishCall
  split <;> rfl

theorem elapsed_startCall (c : WalletCall) (w : World) :
    (w.startCall StoreStep.stepper c).2.elapsed = w.elapsed :=
  takeAll_spares (StoreStep.stepper_spares elapsed_aloof) _ _

end World

def Query.isPrompt : Query → Prop
  | .wallet _ | .send _ | .sleep _ | .rest => False
  | _ => True

theorem World.meets_prompt (w : World) {q : Query} (prompt : q.isPrompt) :
    ∃ (r : q.Answer) (w' : World), w'.elapsed = w.elapsed ∧
      ∀ {α : Type} (next : q.Answer → Job α), (Job.ask q next).advance StoreStep.stepper w =
        (next r).advance StoreStep.stepper w' := by
  have spares := StoreStep.stepper_spares elapsed_aloof
  cases q with
  | enter m => exact ⟨_, _, enter_spares elapsed_aloof spares _ w, fun next => rfl⟩
  | session s => exact ⟨_, _, session_spares elapsed_aloof spares s w, fun next => rfl⟩
  | draw most => exact ⟨_, _, elapsed_aloof.draw most w, fun next => rfl⟩
  | notify e =>
    have still : (w.notify e).elapsed = w.elapsed := by
      unfold notify
      cases w.observer <;> rfl
    exact ⟨(), _, still, fun next => rfl⟩
  | prepare => exact ⟨_, { w with database := w.database.prepare.2 }, rfl, fun next => rfl⟩
  | closeStore => exact ⟨(), { w with database := w.database.close }, rfl, fun next => rfl⟩
  | requestId => exact ⟨_, { w with requests := w.requests + 1 }, rfl, fun next => rfl⟩
  | log level message => exact ⟨(), w.logLine level message, rfl, fun next => rfl⟩
  | cache d => exact ⟨(), { w with purse := d }, rfl, fun next => rfl⟩
  | payment | now | cached => exact ⟨_, w, rfl, fun next => rfl⟩
  | wallet | send | sleep | rest => cases prompt

variable {α : Type}

/-- Going on up to a wait takes no time, and the wait takes some. -/
structure Paused.Ahead (w : World) (out : Paused α × World) : Prop where
  still : out.2.elapsed = w.elapsed
  late : ∀ t, out.1.wake? = some t → w.elapsed < t

theorem Job.advance_ahead (j : Job α) (w : World) :
    Paused.Ahead w (j.advance StoreStep.stepper w) := by
  induction j generalizing w with
  | done a => exact ⟨rfl, nofun⟩
  | fail e => exact ⟨rfl, nofun⟩
  | ask q next ih =>
    -- waits for `us` microseconds before it goes on
    have waits (us : Nat) {p : Paused α} {w' : World} (still : w'.elapsed = w.elapsed)
        (long : us ≠ 0) (wake : p.wake? = some (w'.elapsed + us)) : Paused.Ahead w (p, w') := by
      refine ⟨still, fun t wakes => ?_⟩
      obtain rfl := Option.some.inj (wake.symm.trans wakes)
      omega
    have goesOn (r : q.Answer) {w' : World} (still : w'.elapsed = w.elapsed) :
        Paused.Ahead w ((next r).advance StoreStep.stepper w') := by
      obtain ⟨same, late⟩ := ih r w'
      exact ⟨same.trans still, still ▸ late⟩
    have prompts (prompt : q.isPrompt) :
        Paused.Ahead w ((Job.ask q next).advance StoreStep.stepper w) := by
      obtain ⟨r, w', still, goes⟩ := w.meets_prompt prompt
      rw [goes]
      exact goesOn r still
    cases q with
    | wallet c =>
      have still := w.elapsed_startCall c
      unfold advance
      split
      · rename_i e w' started
        rw [started] at still
        exact goesOn (.error e) still
      · rename_i u w' started
        rw [started] at still
        dsimp only
        split
        · exact goesOn _ ((w'.elapsed_finishCall c).trans still)
        · rename_i long
          exact waits _ still long rfl
    | send r =>
      have still : (w.sendRequest r).2.elapsed = w.elapsed := rfl
      unfold advance
      dsimp only
      split
      · exact goesOn _ still
      · rename_i long
        exact waits _ still long rfl
    | sleep us =>
      unfold advance
      split
      · exact goesOn () rfl
      · rename_i long
        exact waits us rfl long rfl
    | rest => exact goesOn () rfl
    | _ => exact prompts trivial

theorem Paused.resume_ahead (p : Paused α) (w : World) :
    Paused.Ahead w (p.resume StoreStep.stepper w) := by
  cases p with
  | ended r => exact ⟨rfl, nofun⟩
  | waiting t rest => exact rest.advance_ahead w
  | calling t c next =>
    obtain ⟨same, late⟩ := (next (w.finishCall c).1).advance_ahead (w.finishCall c).2
    have still := w.elapsed_finishCall c
    exact ⟨same.trans still, still ▸ late⟩

theorem Job.advance_ends (j : Job α) (w : World) :
    (∃ r, (j.advance StoreStep.stepper w).1 = .ended r) ∨
      (j.advance StoreStep.stepper w).1.wake? ≠ none := by
  cases (j.advance StoreStep.stepper w).1 with
  | ended r => exact .inl ⟨r, rfl⟩
  | waiting | calling => exact .inr nofun

theorem Paused.resume_ends {p : Paused α} (under : p.wake? ≠ none) (w : World) :
    (∃ r, (p.resume StoreStep.stepper w).1 = .ended r) ∨
      (p.resume StoreStep.stepper w).1.wake? ≠ none := by
  cases p with
  | ended r => exact absurd rfl under
  | waiting t rest => exact rest.advance_ends w
  | calling t c next => exact (next (w.finishCall c).1).advance_ends (w.finishCall c).2

/-- Work that takes so long in every world, whatever it is answered and whether it fails or not. -/
inductive Job.Lasts : Job α → Nat → Prop
  | done (a : α) : Lasts (.done a) 0
  | fail (e : Failure) : Lasts (.fail e) 0
  | sleeps (us : Nat) {next : Unit → Job α} {d : Nat} (rest : Lasts (next ()) d) :
    Lasts (.ask (.sleep us) next) (us + d)
  | asks {q : Query} {next : q.Answer → Job α} {d : Nat} (prompt : q.isPrompt)
    (rest : ∀ r, Lasts (next r) d) : Lasts (.ask q next) d

/-- Work that comes to its end at a time, if it has not come to it by now. -/
inductive Paused.Leaves (now : Nat) : Paused α → Nat → Prop
  | ended (r : Except Failure α) : Leaves now (.ended r) now
  | waiting {t d : Nat} {rest : Job α} (lasts : rest.Lasts d) : Leaves now (.waiting t rest) (t + d)

theorem Paused.Leaves.at {now e : Nat} {p : Paused α} (h : p.Leaves now e) (under : p.wake? ≠ none)
    (now' : Nat) : p.Leaves now' e := by
  cases h with
  | ended r => exact absurd rfl under
  | waiting lasts => exact .waiting lasts

theorem Job.Lasts.advance {j : Job α} {d : Nat} (h : j.Lasts d) (w : World) :
    (j.advance StoreStep.stepper w).1.Leaves w.elapsed (w.elapsed + d) := by
  induction h generalizing w with
  | done a => exact .ended _
  | fail e => exact .ended _
  | @sleeps us next d rest ih =>
    change ((if us = 0 then _ else _ : Paused α × World).1).Leaves _ _
    split
    · rename_i none
      rw [none, Nat.zero_add]
      exact ih w
    · rw [← Nat.add_assoc]
      exact .waiting rest
  | @asks q next d prompt rest ih =>
    obtain ⟨r, w', still, goes⟩ := w.meets_prompt prompt
    rw [goes, ← still]
    exact ih r w'

theorem Paused.Leaves.resume {now e : Nat} {p : Paused α} (h : p.Leaves now e) {w : World}
    (wakes : p.wake? = some w.elapsed) :
    (p.resume StoreStep.stepper w).1.Leaves w.elapsed e := by
  cases h with
  | ended r => cases wakes
  | waiting lasts =>
    obtain rfl := Option.some.inj wakes
    exact lasts.advance w

end Faucet
