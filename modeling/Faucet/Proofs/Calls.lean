import Faucet.Proofs.StoreWork

/-!
The calls of the wallet that a world has seen. Only a job that asks the wallet adds to them; nobody
who works on the store alone does, not even in the middle of a call.
-/

set_option autoImplicit false

namespace Faucet

namespace Query

def Keeps (kind : WalletCall → Prop) : Query → Prop
  | .wallet c => kind c
  | _ => True

abbrev Quiet : Query → Prop := Keeps fun _ => False

def calls : Query → List WalletCall
  | .wallet c => [c]
  | _ => []

theorem quiet_of_isStoreWork (q : Query) (h : q.isStoreWork) : q.Quiet := by
  cases q with
  | wallet c => cases h
  | _ => trivial

theorem quiet_of_isRequest (q : Query) (h : q.isRequest) : q.Quiet :=
  quiet_of_isStoreWork q (isStoreWork_of_isRequest q h)

theorem quiet_of_isSweep (q : Query) (h : q.isSweep) : q.Quiet :=
  quiet_of_isStoreWork q (isStoreWork_of_isSweep q h)

theorem keeps_of_quiet {kind : WalletCall → Prop} (q : Query) (h : q.Quiet) : q.Keeps kind := by
  cases q with
  | wallet c => cases h
  | _ => trivial

theorem Keeps.calls {kind : WalletCall → Prop} {q : Query} (h : q.Keeps kind) :
    ∀ c ∈ q.calls, kind c := by
  cases q with
  | wallet c => exact List.forall_mem_singleton.mpr h
  | _ => exact List.forall_mem_nil _

end Query

namespace World

def called? : Entry → Option WalletCall
  | .call c => some c
  | _ => none

def calls (w : World) : List WalletCall := (w.trace.filterMap fun e => called? e.2).reverse

variable {step : Stepper} (w : World)

theorem calls_call (c : WalletCall) : (w.record (.call c)).calls = w.calls ++ [c] := by
  change (c :: w.trace.filterMap fun e => called? e.2).reverse = _
  exact List.reverse_cons

theorem calls_notify (e : Event) : (w.notify e).calls = w.calls := by
  unfold notify
  cases w.observer <;> rfl

theorem calls_finishCall (c : WalletCall) : (w.finishCall c).2.calls = w.calls := by
  unfold finishCall
  split <;> rfl

theorem calls_aloof : Aloof calls where
  database _ _ := rfl
  faults _ _ := rfl
  clock _ _ := rfl
  draws _ _ := rfl
  logs _ _ _ := rfl

/-- No step that may be taken in the middle of something asks the wallet. -/
def Hushed (step : Stepper) : Prop := ∀ s w, (step s w).2.calls = w.calls

theorem calls_draw (most : Nat) : (w.draw most).2.calls = w.calls := calls_aloof.draw most w

theorem calls_enter (hushed : Hushed step) (isHit : FaultPoint → Bool) :
    (enter step isHit w).2.calls = w.calls := enter_spares calls_aloof hushed isHit w

theorem calls_session (hushed : Hushed step) (s : Statement) :
    (w.session step s).2.calls = w.calls := session_spares calls_aloof hushed s w

theorem calls_startCall (hushed : Hushed step) (c : WalletCall) :
    (w.startCall step c).2.calls = w.calls ++ [c] := by
  rw [← w.calls_call c]
  exact takeAll_spares hushed _ _

end World

theorem Job.calls_complete {α : Type} {step : World.Stepper} (hushed : World.Hushed step) {j : Job α}
    (quiet : j.Asks Query.Quiet) (w : World) : (j.complete step w).2.calls = w.calls := by
  induction j generalizing w with
  | done a => rfl
  | fail e => rfl
  | ask q next ih =>
    have later (r : q.Answer) : (next r).Asks Query.Quiet := by
      obtain ⟨_, _, rest⟩ := quiet r
      exact rest
    cases q with
    | wallet c =>
      obtain ⟨_, asked, _⟩ := quiet (.error (.faucet []))
      exact asked.elim
    | enter m => exact (ih _ (later _) _).trans (w.calls_enter hushed _)
    | session s => exact (ih _ (later _) _).trans (w.calls_session hushed s)
    | notify e => exact (ih _ (later _) _).trans (w.calls_notify e)
    | draw most => exact (ih _ (later _) _).trans (w.calls_draw most)
    | prepare | closeStore | payment | send | requestId | log | now | cached | cache | sleep | rest =>
      exact (ih _ (later _) _).trans rfl

namespace StoreStep

theorem take_hushed {stepper : World.Stepper} (hushed : World.Hushed stepper) (s : StoreStep)
    (w : World) : (s.take stepper w).2.calls = w.calls := take_spares World.calls_aloof hushed s w

theorem stepper_hushed : World.Hushed stepper := stepper_spares World.calls_aloof

end StoreStep

end Faucet
