import Faucet.Proofs.Calls
import Faucet.Proofs.Walk

/-!
Jobs that stop to wait, and what has been asked by then. A narrated job does what the job does and
tells in the end what it was answered, so that the course that a job took in a world can be spoken of.
-/

set_option autoImplicit false

namespace Faucet

variable {α : Type} {step : World.Stepper}

/-- What becomes of a question: it is answered on the spot, or its answer is known and has to be
waited for, or it is a call that is under way. -/
inductive World.Meets (step : World.Stepper) (w : World) : Query → Prop
  | answers {q : Query} (r : q.Answer) (w' : World) (calls : w'.calls = w.calls ++ q.calls)
    (goes : ∀ {α : Type} (next : q.Answer → Job α),
      (Job.ask q next).advance step w = (next r).advance step w') : Meets step w q
  | waits {q : Query} (t : Nat) (r : q.Answer) (w' : World) (calls : w'.calls = w.calls ++ q.calls)
    (goes : ∀ {α : Type} (next : q.Answer → Job α),
      (Job.ask q next).advance step w = (.waiting t (next r), w')) : Meets step w q
  | starts {c : WalletCall} (t : Nat) (w' : World) (calls : w'.calls = w.calls ++ [c])
    (goes : ∀ {α : Type} (next : Except Failure c.Answer → Job α),
      (Job.ask (.wallet c) next).advance step w = (.calling t c next, w')) : Meets step w (.wallet c)

namespace World

theorem meets_wallet (hushed : Hushed step) (w : World) (c : WalletCall) :
    Meets step w (.wallet c) := by
  have called := w.calls_startCall hushed c
  cases started : w.startCall step c with
  | mk r w₁ =>
    rw [started] at called
    cases r with
    | error e =>
      refine .answers (.error e) w₁ called fun next => ?_
      conv => lhs; unfold Job.advance
      rw [started]
    | ok u =>
      by_cases zero : w₁.wallet.delayOf c = 0
      · refine .answers (w₁.finishCall c).1 (w₁.finishCall c).2
          ((w₁.calls_finishCall c).trans called) fun next => ?_
        conv => lhs; unfold Job.advance
        rw [started]
        exact if_pos zero
      · refine .starts (w₁.elapsed + w₁.wallet.delayOf c) w₁ called fun next => ?_
        unfold Job.advance
        rw [started]
        exact if_neg zero

theorem meets (hushed : Hushed step) (w : World) (q : Query) : Meets step w q := by
  have silent {w' : World} (same : w'.calls = w.calls) : w'.calls = w.calls ++ [] := by
    rw [same, List.append_nil]
  cases q with
  | wallet c => exact w.meets_wallet hushed c
  | enter m => exact .answers _ _ (silent (w.calls_enter hushed fun p => p.atMethod m)) fun next => rfl
  | session s => exact .answers _ _ (silent (w.calls_session hushed s)) fun next => rfl
  | notify e => exact .answers () _ (silent (w.calls_notify e)) fun next => rfl
  | draw most => exact .answers _ _ (silent (w.calls_draw most)) fun next => rfl
  | send r =>
    have sent : (w.sendRequest r).2.calls = w.calls ++ [] := silent rfl
    by_cases zero : (w.sendRequest r).1.delay = 0
    · exact .answers _ _ sent fun next => if_pos zero
    · exact .waits _ _ _ sent fun next => if_neg zero
  | sleep us =>
    by_cases zero : us = 0
    · exact .answers () w (silent rfl) fun next => if_pos zero
    · exact .waits _ () w (silent rfl) fun next => if_neg zero
  | prepare =>
    exact .answers _ { w with database := w.database.prepare.2 } (silent rfl) fun next => rfl
  | closeStore =>
    exact .answers () { w with database := w.database.close } (silent rfl) fun next => rfl
  | requestId =>
    exact .answers _ { w with requests := w.requests + 1 } (silent rfl) fun next => rfl
  | log level message => exact .answers () (w.logLine level message) (silent rfl) fun next => rfl
  | cache d => exact .answers () { w with purse := d } (silent rfl) fun next => rfl
  | payment | now | cached | rest => exact .answers _ w (silent rfl) fun next => rfl

end World

def Paused.Keeps (kind : WalletCall → Prop) : Paused α → Prop
  | .ended _ => True
  | .waiting _ rest => rest.Asks (Query.Keeps kind)
  | .calling _ _ next => ∀ r, (next r).Asks (Query.Keeps kind)

def World.Sees (kind : WalletCall → Prop) (w w' : World) : Prop :=
  ∃ made, w'.calls = w.calls ++ made ∧ ∀ c ∈ made, kind c

namespace World.Sees

variable {kind : WalletCall → Prop} {w w' w'' : World}

theorem of_eq (same : w'.calls = w.calls) : w.Sees kind w' :=
  ⟨[], same.trans (List.append_nil _).symm, List.forall_mem_nil _⟩

theorem trans (h : w.Sees kind w') (h' : w'.Sees kind w'') : w.Sees kind w'' := by
  obtain ⟨made, calls, keeps⟩ := h
  obtain ⟨made', calls', keeps'⟩ := h'
  refine ⟨made ++ made', ?_, List.forall_mem_append.mpr ⟨keeps, keeps'⟩⟩
  rw [calls', calls, List.append_assoc]

end World.Sees

namespace Job

variable {kind : WalletCall → Prop}

theorem advance_sees (hushed : World.Hushed step) {j : Job α} (asks : j.Asks (Query.Keeps kind))
    (w : World) : w.Sees kind (j.advance step w).2 ∧ (j.advance step w).1.Keeps kind := by
  induction j generalizing w with
  | done a => exact ⟨.of_eq rfl, trivial⟩
  | fail e => exact ⟨.of_eq rfl, trivial⟩
  | ask q next ih =>
    have later (r : q.Answer) : q.Keeps kind ∧ (next r).Asks (Query.Keeps kind) := by
      obtain ⟨_, own, rest⟩ := asks r
      exact ⟨own, rest⟩
    have meets := w.meets hushed q
    cases meets with
    | answers r w' calls goes =>
      obtain ⟨own, rest⟩ := later r
      obtain ⟨sees, keeps⟩ := ih r rest w'
      rw [goes]
      exact ⟨World.Sees.trans ⟨q.calls, calls, own.calls⟩ sees, keeps⟩
    | waits t r w' calls goes =>
      obtain ⟨own, rest⟩ := later r
      rw [goes]
      exact ⟨⟨q.calls, calls, own.calls⟩, rest⟩
    | starts t w' calls goes =>
      rename_i c
      obtain ⟨own, -⟩ := later (.error (.faucet []))
      rw [goes]
      exact ⟨⟨[c], calls, List.forall_mem_singleton.mpr own⟩, fun r => (later r).2⟩

end Job

theorem Paused.resume_sees (hushed : World.Hushed step) {kind : WalletCall → Prop} {p : Paused α}
    (keeps : p.Keeps kind) (w : World) :
    w.Sees kind (p.resume step w).2 ∧ (p.resume step w).1.Keeps kind := by
  cases p with
  | ended r => exact ⟨.of_eq rfl, trivial⟩
  | waiting t rest => exact Job.advance_sees hushed keeps w
  | calling t c next =>
    obtain ⟨sees, later⟩ := Job.advance_sees hushed (keeps (w.finishCall c).1) (w.finishCall c).2
    exact ⟨World.Sees.trans (.of_eq (w.calls_finishCall c)) sees, later⟩

/-- How a job ended, and what it had asked and been answered by then. -/
abbrev Told (α : Type) := Except Failure α × List Asked

namespace Job

def narrated : List Asked → Job α → Job (Told α)
  | log, .done a => .done (.ok a, log)
  | log, .fail e => .done (.error e, log)
  | log, .ask q next => .ask q fun r => narrated (log ++ [⟨q, r⟩]) (next r)

def untold (j : Job (Told α)) : Job α := j.bind fun t => .ofExcept t.1

end Job

namespace Paused

def untold : Paused (Told α) → Paused α
  | .ended (.ok t) => .ended t.1
  | .ended (.error e) => .ended (.error e)
  | .waiting t rest => .waiting t rest.untold
  | .calling t c next => .calling t c fun r => (next r).untold

end Paused

/-- A job goes in the same way whether it tells of it or not. -/
theorem Job.advance_untold (hushed : World.Hushed step) (j : Job (Told α)) (w : World) :
    j.untold.advance step w = ((j.advance step w).1.untold, (j.advance step w).2) := by
  induction j generalizing w with
  | done t =>
    obtain ⟨r, log⟩ := t
    cases r <;> rfl
  | fail e => rfl
  | ask q next ih =>
    change (Job.ask q fun r => (next r).untold).advance step w = _
    cases w.meets hushed q with
    | answers r w' calls goes =>
      rw [goes, goes]
      exact ih r w'
    | waits t r w' calls goes =>
      rw [goes, goes]
      rfl
    | starts t w' calls goes =>
      rw [goes, goes]
      rfl

theorem Paused.resume_untold (hushed : World.Hushed step) (p : Paused (Told α)) (w : World) :
    p.untold.resume step w = ((p.resume step w).1.untold, (p.resume step w).2) := by
  cases p with
  | ended r => cases r <;> rfl
  | waiting t rest => exact rest.advance_untold hushed w
  | calling t c next => exact (next (w.finishCall c).1).advance_untold hushed (w.finishCall c).2

def calledIn (log : List Asked) : List WalletCall := log.flatMap fun a => a.query.calls

theorem calledIn_snoc (log : List Asked) (a : Asked) :
    calledIn (log ++ [a]) = calledIn log ++ a.query.calls := by
  unfold calledIn
  rw [List.flatMap_append, List.flatMap_singleton]

/-- What is told of a job that has made these calls so far. -/
inductive Paused.Tells (j : Job α) : Paused (Told α) → List WalletCall → Prop
  | ended {r : Except Failure α} {log : List Asked} (walks : j.Walks log (.ofExcept r)) :
    Tells j (.ended (.ok (r, log))) (calledIn log)
  | waiting {t : Nat} {log : List Asked} {rest : Job α} (walks : j.Walks log rest) :
    Tells j (.waiting t (rest.narrated log)) (calledIn log)
  | calling {t : Nat} {log : List Asked} {c : WalletCall}
    {next : Except Failure c.Answer → Job α} (walks : j.Walks log (.ask (.wallet c) next)) :
    Tells j (.calling t c fun r => (next r).narrated (log ++ [⟨.wallet c, r⟩])) (calledIn log ++ [c])

theorem Job.advance_tells (hushed : World.Hushed step) {j rest : Job α} {log : List Asked}
    (walks : j.Walks log rest) (w : World) :
    ∃ made, ((rest.narrated log).advance step w).2.calls = w.calls ++ made ∧
      ((rest.narrated log).advance step w).1.Tells j (calledIn log ++ made) := by
  induction rest generalizing log w with
  | done a =>
    refine ⟨[], (List.append_nil _).symm, ?_⟩
    rw [List.append_nil]
    exact .ended walks
  | fail e =>
    refine ⟨[], (List.append_nil _).symm, ?_⟩
    rw [List.append_nil]
    exact .ended walks
  | ask q next ih =>
    have goesOn : (Job.ask q next).narrated log =
        .ask q fun r => (next r).narrated (log ++ [⟨q, r⟩]) := rfl
    rw [goesOn]
    cases w.meets hushed q with
    | answers r w' calls goes =>
      obtain ⟨made, later, tells⟩ := ih r (walks.snoc r) w'
      rw [goes]
      refine ⟨q.calls ++ made, ?_, ?_⟩
      · rw [later, calls, List.append_assoc]
      · rw [calledIn_snoc, List.append_assoc] at tells
        exact tells
    | waits t r w' calls goes =>
      rw [goes]
      refine ⟨q.calls, calls, ?_⟩
      have told := Paused.Tells.waiting (t := t) (walks.snoc r)
      rw [calledIn_snoc] at told
      exact told
    | starts t w' calls goes =>
      rw [goes]
      exact ⟨_, calls, .calling walks⟩

theorem Paused.resume_tells (hushed : World.Hushed step) {j : Job α} {p : Paused (Told α)}
    {opening : List WalletCall} (tells : p.Tells j opening) (w : World) :
    ∃ made, (p.resume step w).2.calls = w.calls ++ made ∧
      (p.resume step w).1.Tells j (opening ++ made) := by
  cases tells with
  | ended walks =>
    refine ⟨[], (List.append_nil _).symm, ?_⟩
    rw [List.append_nil]
    exact .ended walks
  | waiting walks => exact Job.advance_tells hushed walks w
  | calling walks =>
    rename_i t log c next
    have answered := walks.snoc (w.finishCall c).1
    obtain ⟨made, calls, told⟩ := Job.advance_tells hushed answered (w.finishCall c).2
    rw [w.calls_finishCall] at calls
    rw [calledIn_snoc] at told
    exact ⟨made, calls, told⟩

theorem Paused.Tells.keeps {j : Job α} {p : Paused (Told α)} {opening : List WalletCall}
    {kind : WalletCall → Prop} (tells : p.Tells j opening) (asks : j.Asks (Query.Keeps kind)) :
    ∀ c ∈ opening, kind c := by
  have answered {log : List Asked} {rest : Job α} (walks : j.Walks log rest) :
      ∀ c ∈ calledIn log, kind c := by
    intro c here
    obtain ⟨a, listed, own⟩ := List.mem_flatMap.mp here
    exact ((walks.asks asks).2 a listed).calls c own
  cases tells with
  | ended walks => exact answered walks
  | waiting walks => exact answered walks
  | calling walks =>
    obtain ⟨_, own, -⟩ := (walks.asks asks).1 (.error (.faucet []))
    exact List.forall_mem_append.mpr ⟨answered walks, List.forall_mem_singleton.mpr own⟩

end Faucet
