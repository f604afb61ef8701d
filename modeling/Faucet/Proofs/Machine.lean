import Faucet.Job.Basic

/-!
Machines that jobs keep to. A machine says what may be asked in a state and where an answer leads.
Answers are not restricted here: a job keeps to a machine if the machine has a move for every answer
that the job may get, so that whatever runs the job keeps to the machine too.
-/

set_option autoImplicit false

namespace Faucet

theorem bind_eq_ok {ε α β : Type} {x : Except ε α} {f : α → Except ε β} {b : β} :
    x >>= f = .ok b ↔ ∃ a, x = .ok a ∧ f a = .ok b := by
  cases x with
  | error e => exact iff_of_false nofun nofun
  | ok a =>
    refine ⟨fun h => ⟨a, rfl, h⟩, ?_⟩
    rintro ⟨_, ⟨⟩, h⟩
    exact h

abbrev Machine (σ : Type) := σ → (q : Query) → q.Answer → σ → Prop

namespace Job

variable {σ α β : Type} {move : Machine σ}

def attempt (j : Job α) (k : Except Failure α → Job β) : Job β := j.outcome.bind k

/-- A job keeps to a machine from a state on, and ends only where the machine lets it end so. -/
def Follows (move : Machine σ) (ends : σ → Except Failure α → Prop) : σ → Job α → Prop
  | s, .done a => ends s (.ok a)
  | s, .fail e => ends s (.error e)
  | s, .ask q next => ∀ r, ∃ s', move s q r s' ∧ Follows move ends s' (next r)

theorem follows_attempt {mid : σ → Except Failure α → Prop} {ends : σ → Except Failure β → Prop}
    {s : σ} {j : Job α} {k : Except Failure α → Job β} (h : j.Follows move mid s)
    (hk : ∀ s' r, mid s' r → (k r).Follows move ends s') : (j.attempt k).Follows move ends s := by
  induction j generalizing s with
  | done a => exact hk s (.ok a) h
  | fail e => exact hk s (.error e) h
  | ask q next ih =>
    intro r
    obtain ⟨s', hm, hn⟩ := h r
    exact ⟨s', hm, ih r hn⟩

theorem bind_eq_attempt (j : Job α) (f : α → Job β) :
    j.bind f = j.attempt fun
      | .ok a => f a
      | .error e => .fail e := by
  induction j with
  | done a => rfl
  | fail e => rfl
  | ask q next ih => exact congrArg (Job.ask q) (funext ih)

theorem follows_bind {mid : σ → Except Failure α → Prop} {ends : σ → Except Failure β → Prop}
    {s : σ} {j : Job α} {f : α → Job β} (h : j.Follows move mid s)
    (hok : ∀ s' a, mid s' (.ok a) → (f a).Follows move ends s')
    (herr : ∀ s' e, mid s' (.error e) → ends s' (.error e)) :
    (j.bind f).Follows move ends s := by
  rw [bind_eq_attempt]
  refine follows_attempt h fun s' r hr => ?_
  cases r with
  | ok a => exact hok s' a hr
  | error e => exact herr s' e hr

theorem attempt_bind {γ : Type} (j : Job α) (k : Except Failure α → Job β) (f : β → Job γ) :
    (j.attempt k).bind f = j.attempt fun o => (k o).bind f := by
  induction j with
  | done a => rfl
  | fail e => rfl
  | ask q next ih => exact congrArg (Job.ask q) (funext ih)

/-- A guarded piece of work goes on with its outcome, the guard standing in for what follows a
failure. -/
theorem rescue_bind (j : Job α) (f : α → Job β) (h : Failure → Job β) :
    rescue (j.bind f) h = j.attempt fun
      | .ok a => rescue (f a) h
      | .error e => h e := by
  induction j with
  | done a => rfl
  | fail e => rfl
  | ask q next ih => exact congrArg (Job.ask q) (funext ih)

theorem rescue_bind_bind {γ : Type} (j : Job α) (f : α → Job β) (h : Failure → Job β)
    (k : β → Job γ) :
    (rescue (j.bind f) h).bind k = j.attempt fun o => Job.bind (match o with
      | .ok a => rescue (f a) h
      | .error e => h e) k := by
  rw [rescue_bind, attempt_bind]

def Asks (kind : Query → Prop) (j : Job α) : Prop :=
  j.Follows (fun (_ : Unit) q _ _ => kind q) (fun _ _ => True) ()

section
variable {kind : Query → Prop}

theorem Asks.mono {kind' : Query → Prop} {j : Job α} (h : j.Asks kind)
    (sub : ∀ q, kind q → kind' q) : j.Asks kind' := by
  induction j with
  | done a => trivial
  | fail e => trivial
  | ask q next ih =>
    intro r
    obtain ⟨_, hq, hn⟩ := h r
    exact ⟨(), sub q hq, ih r hn⟩

theorem asks_done (a : α) : (Job.done a).Asks kind := trivial

theorem asks_fail (e : Failure) : (Job.fail e : Job α).Asks kind := trivial

theorem asks_enter {m : StoreMethod} (h : kind (.enter m)) : (enter m).Asks kind := by
  intro r
  cases r <;> exact ⟨(), h, trivial⟩

theorem asks_session {s : Statement} (h : kind (.session s)) : (session s).Asks kind := by
  intro r
  cases r <;> exact ⟨(), h, trivial⟩

theorem asks_now (h : kind .now) : now.Asks kind := by
  intro r
  cases r <;> exact ⟨(), h, trivial⟩

theorem asks_log {level : Level} {message : Text} (h : kind (.log level message)) :
    (log level message).Asks kind := fun _ => ⟨(), h, trivial⟩

theorem asks_bind {j : Job α} {f : α → Job β} (hj : j.Asks kind) (hf : ∀ a, (f a).Asks kind) :
    (j.bind f).Asks kind :=
  follows_bind hj (fun _ a _ => hf a) fun _ _ _ => trivial

theorem asks_rescue {j : Job α} {h : Failure → Job α} (hj : j.Asks kind)
    (hh : ∀ e, (h e).Asks kind) : (rescue j h).Asks kind := by
  induction j with
  | done a => trivial
  | fail e => exact hh e
  | ask q next ih =>
    intro r
    obtain ⟨_, hq, hn⟩ := hj r
    exact ⟨(), hq, ih r hn⟩

theorem asks_ofExcept (r : Except Failure α) : (ofExcept r).Asks kind := by
  cases r <;> trivial

theorem asks_ofArithmetic (r : Except ArithmeticFault α) : (ofArithmetic r).Asks kind := by
  cases r <;> trivial

end

end Job

end Faucet
