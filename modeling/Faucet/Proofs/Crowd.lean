import Faucet.Batch
import Faucet.Intake
import Faucet.Proofs.Reaction

/-!
Many jobs at work on one store. Any of them may take its turn, and a turn answers one question. A
call of the node takes two turns, since others go on while it is under way. A process may quit
between two turns: it is cancelled or it crashes, and whatever it asked before stays done.
-/

set_option autoImplicit false

namespace Faucet

inductive Work where
  | submit (intake : Intake) (address : Text) (tier : Option Int) (source : Text)
  | cycle (batch : Batch)
  | sweep (olderThan : Span) (now : Option Moment)

namespace Work

abbrev Result : Work → Type
  | .submit .. => Receipt
  | .cycle _ => CycleReport
  | .sweep .. => Nat

def job : (w : Work) → Job w.Result
  | .submit intake address tier source => intake.submit address tier source
  | .cycle batch => batch.cycle
  | .sweep olderThan now => Store.failStale olderThan now

end Work

inductive Standing (α : Type) where
  | ready (job : Job α)
  | calling (call : WalletCall) (next : Except Failure call.Answer → Job α)
  | gone

structure Process where
  work : Work
  phase : Standing work.Result

inductive Turn where
  | called (call : WalletCall)
  | answered (query : Query) (answer : query.Answer)

structure Note where
  process : Nat
  turn : Turn

/-- The store with all who work on it, and what they did, the latest first. -/
structure Crowd where
  database : Database
  processes : Nat → Option Process := fun _ => none
  history : List Note := []

namespace Crowd

inductive Act where
  | start (i : Nat) (work : Work)
  | turn (i : Nat) (reaction : Reaction)
  | quit (i : Nat)

def rows (s : Crowd) : Ledger := s.database.rows

def put (s : Crowd) (i : Nat) (p : Process) : Crowd :=
  { s with processes := fun j => if j = i then some p else s.processes j }

def note (s : Crowd) (i : Nat) (turn : Turn) : Crowd :=
  { s with history := ⟨i, turn⟩ :: s.history }

def turn (s : Crowd) (i : Nat) (ρ : Reaction) : Crowd :=
  match s.processes i with
  | some ⟨w, .ready (.ask (.wallet c) next)⟩ => (s.put i ⟨w, .calling c next⟩).note i (.called c)
  | some ⟨w, .ready (.ask q next)⟩ =>
    let (r, database) := ρ.answer s.database q
    { (s.put i ⟨w, .ready (next r)⟩).note i (.answered q r) with database }
  | some ⟨w, .calling c next⟩ =>
    (s.put i ⟨w, .ready (next (ρ.wallet c))⟩).note i (.answered (.wallet c) (ρ.wallet c))
  | _ => s

/-- A number is used once: what a process has ended is gone on with by another one. -/
def step (s : Crowd) : Act → Crowd
  | .start i w => match s.processes i with
    | none => s.put i ⟨w, .ready w.job⟩
    | some _ => s
  | .turn i ρ => s.turn i ρ
  | .quit i => match s.processes i with
    | some p => s.put i ⟨p.work, .gone⟩
    | none => s

def run (d : Database) (acts : List Act) : Crowd := acts.foldl step { database := d }

inductive Moved (s : Crowd) : Act → Crowd → Prop
  | still (a : Act) : Moved s a s
  | started (i : Nat) (w : Work) (free : s.processes i = none) :
    Moved s (.start i w) (s.put i ⟨w, .ready w.job⟩)
  | quit (i : Nat) (p : Process) (here : s.processes i = some p) :
    Moved s (.quit i) (s.put i ⟨p.work, .gone⟩)
  | called (i : Nat) (ρ : Reaction) (w : Work) (c : WalletCall)
    (next : Except Failure c.Answer → Job w.Result)
    (here : s.processes i = some ⟨w, .ready (.ask (.wallet c) next)⟩) :
    Moved s (.turn i ρ) ((s.put i ⟨w, .calling c next⟩).note i (.called c))
  | answered (i : Nat) (ρ : Reaction) (w : Work) (q : Query) (next : q.Answer → Job w.Result)
    (r : q.Answer) (d : Database) (here : s.processes i = some ⟨w, .ready (.ask q next)⟩)
    (atOnce : ∀ c, q ≠ .wallet c) (done : ρ.answer s.database q = (r, d)) :
    Moved s (.turn i ρ)
      { (s.put i ⟨w, .ready (next r)⟩).note i (.answered q r) with database := d }
  | returned (i : Nat) (ρ : Reaction) (w : Work) (c : WalletCall)
    (next : Except Failure c.Answer → Job w.Result)
    (here : s.processes i = some ⟨w, .calling c next⟩) :
    Moved s (.turn i ρ)
      ((s.put i ⟨w, .ready (next (ρ.wallet c))⟩).note i (.answered (.wallet c) (ρ.wallet c)))

theorem turn_moved (s : Crowd) (i : Nat) (ρ : Reaction) : s.Moved (.turn i ρ) (s.turn i ρ) := by
  unfold turn
  split
  · exact .called i ρ _ _ _ ‹_›
  · rename_i w q next other here
    refine .answered i ρ w q next _ _ here (fun c hc => ?_) rfl
    subst hc
    exact other c next rfl HEq.rfl
  · exact .returned i ρ _ _ _ ‹_›
  · exact .still _

theorem step_moved (s : Crowd) (a : Act) : s.Moved a (s.step a) := by
  cases a with
  | start i w =>
    unfold step
    dsimp only
    split
    · exact .started i w ‹_›
    · exact .still _
  | turn i ρ => exact turn_moved s i ρ
  | quit i =>
    unfold step
    dsimp only
    split
    · exact .quit i _ ‹_›
    · exact .still _

theorem Moved.history_subset {s s' : Crowd} {a : Act} (m : s.Moved a s') :
    s.history ⊆ s'.history := by
  cases m with
  | still | started | quit => exact List.Subset.refl _
  | called | answered | returned => exact List.subset_cons_self _ _

theorem run_keeps {I : Crowd → Prop} {d : Database} {acts : List Act} (first : I { database := d })
    (step : ∀ s a s', a ∈ acts → I s → s.Moved a s' → I s') : I (run d acts) := by
  unfold run
  generalize ({ database := d } : Crowd) = s at first
  induction acts generalizing s with
  | nil => exact first
  | cons a acts ih =>
    exact ih (fun s a' s' ha => step s a' s' (List.mem_cons_of_mem a ha)) _
      (step s a _ List.mem_cons_self first (step_moved s a))

def workOf? (s : Crowd) (i : Nat) : Option Work := (s.processes i).map Process.work

theorem workOf?_of_here {s : Crowd} {i : Nat} {p : Process} (here : s.processes i = some p) :
    s.workOf? i = some p.work := by
  rw [workOf?, here]
  rfl

theorem workOf?_put {s : Crowd} {i : Nat} {p : Process} (j : Nat) :
    (s.put i p).workOf? j = if j = i then some p.work else s.workOf? j := by
  unfold workOf? put
  dsimp only
  split <;> rfl

theorem workOf?_put_of_here {s : Crowd} {i : Nat} {p p' : Process}
    (here : s.processes i = some p) (work : p'.work = p.work) (j : Nat) :
    (s.put i p').workOf? j = s.workOf? j := by
  rw [workOf?_put]
  split
  · rename_i same
    rw [same, workOf?_of_here here, work]
  · rfl

end Crowd

end Faucet
