import Faucet.Proofs.Course
import Faucet.Proofs.Wire

/-!
What a store answers to one question. It fails with a fault of its own or cannot hold the arguments,
and then leaves everything as it was, or it does what it was asked for.
-/

set_option autoImplicit false

namespace Faucet

namespace Database

/-- A statement that needs the table ends in a fault of the store, in a defect of its arguments or in
what it was meant to do. -/
theorem run_three (d : Database) {s : Statement} (read : tableless s = false) :
    (∃ fault, d.run s = (.error (.store fault), d)) ∧ (∀ l, ¬d.Holds l) ∨
      (∃ e, bind s = .error e ∧ d.run s = (.error e, d)) ∨
        ∃ l, bind s = .ok () ∧ d.table = some l ∧
          d.run s = ((perform l s).1, { d with table := some (perform l s).2 }) := by
  unfold run
  cases refused : d.refusal with
  | some fault => exact .inl ⟨⟨_, rfl⟩, fun l h => nomatch refused.symm.trans h.refusal⟩
  | none =>
    cases made : d.table with
    | none =>
      rw [if_neg (ne_true_of_eq_false read)]
      exact .inl ⟨⟨_, rfl⟩, fun l h => nomatch made.symm.trans h.table⟩
    | some l =>
      cases bound : bind s with
      | error e => exact .inr (.inl ⟨e, rfl, rfl⟩)
      | ok _ =>
        dsimp only
        split
        · rename_i barred
          refine .inl ⟨⟨_, rfl⟩, fun l h => ?_⟩
          rw [h.readOnly] at barred
          cases barred
        · exact .inr (.inr ⟨l, rfl, rfl, rfl⟩)

end Database

def Query.changed : (q : Query) → q.Answer → List Ledger.Change
  | .session (.update c _), .ok true => [c]
  | _, _ => []

/-- The changes of rows that took place, in their order. -/
def Scene.changed (s : Scene) : List Ledger.Change :=
  s.log.reverse.flatMap fun x => x.query.changed x.answer

theorem Scene.changed_asked (s : Scene) (ρ : Reaction) (q : Query) :
    (s.asked ρ q).changed = s.changed ++ q.changed (ρ.answer s.database q).1 := by
  unfold changed asked
  rw [List.reverse_cons, List.flatMap_append, List.flatMap_singleton]

theorem Query.changed_session_error (st : Statement) (e : Failure) :
    (Query.session st).changed (.error e) = [] := by
  cases st <;> rfl

/-- A store of which no call fails. -/
def Healthy (env : Nat → Reaction) (d : Database) : Prop :=
  (∀ n, (env n).fault = none) ∧ ∃ l, d.Holds l

def ticking (n : Nat) : Reaction where
  clock := n
  wallet := fun _ => .error (.faucet [])
  reply := .error (.faucet [])
  number := 0
  purse := .zero

namespace Job

variable {α β : Type} {env : Nat → Reaction} {s s' : Scene} {st : Statement}

theorem play_ask_eq {q : Query} {r : q.Answer} {d : Database}
    (answered : (env s.log.length).answer s.database q = (r, d)) (next : q.Answer → Job β) :
    ∃ s', (ask q next).play env s = (next r).play env s' ∧ s'.database = d ∧
      s'.changed = s.changed ++ q.changed r := by
  refine ⟨s.asked (env s.log.length) q, ?_, ?_, ?_⟩
  · change (next ((env s.log.length).answer s.database q).1).play env _ = _
    rw [answered]
  · change ((env s.log.length).answer s.database q).2 = d
    rw [answered]
  · rw [Scene.changed_asked, answered]

def Fails (s : Scene) (e : Failure) (out : Except Failure β × Scene) : Prop :=
  out.1 = .error e ∧ out.2.database = s.database

/-- An answer that is the end of a job, and tells of no change. -/
theorem fails_of_answered {q : Query} {r : q.Answer} {e : Failure}
    (answered : (env s.log.length).answer s.database q = (r, s.database))
    (silent : q.changed r = []) (next : q.Answer → Job β) (stops : next r = .fail e) :
    Fails s e ((ask q next).play env s) ∧ ((ask q next).play env s).2.changed = s.changed := by
  obtain ⟨s', goes, same, changed⟩ := play_ask_eq answered next
  rw [stops] at goes
  rw [silent, List.append_nil] at changed
  rw [goes]
  exact ⟨⟨rfl, same⟩, changed⟩

/-- The store itself fails, and no row was changed on the way. -/
structure Faults (env : Nat → Reaction) (s : Scene) (out : Except Failure β × Scene) : Prop where
  fails : ∃ fault, Fails s (.store fault) out
  unsound : ¬Healthy env s.database
  changed : out.2.changed = s.changed

theorem play_enter_or_fault (env : Nat → Reaction) (s : Scene) (m : StoreMethod) (f : Unit → Job β) :
    Faults env s (((enter m).bind f).play env s) ∨
      ∃ s', ((enter m).bind f).play env s = (f ()).play env s' ∧ s'.database = s.database ∧
        s'.changed = s.changed := by
  cases failing : (env s.log.length).fault with
  | some fault =>
    have answered : (env s.log.length).answer s.database (.enter m) =
        (.error (.store fault), s.database) := by
      unfold Reaction.answer
      rw [failing]
    obtain ⟨failed, unchanged⟩ :=
      fails_of_answered answered rfl (fun r => (ofExcept r).bind f) rfl
    exact .inl ⟨⟨fault, failed⟩, fun sound => (nomatch failing.symm.trans (sound.1 _)), unchanged⟩
  | none =>
    obtain ⟨s', goes, same, unchanged⟩ := play_ask_eq
      (Reaction.enter_eq failing s.database m) fun r => (ofExcept r).bind f
    exact .inr ⟨s', goes, same, unchanged.trans (List.append_nil _)⟩

theorem play_session_three (env : Nat → Reaction) (s : Scene) (st : Statement)
    (read : Database.tableless st = false) (f : st.Answer → Job β) :
    Faults env s (((session st).bind f).play env s) ∨
      (∃ e, Database.bind st = .error e ∧ Fails s e (((session st).bind f).play env s)) ∨
        ∃ l s', Database.bind st = .ok () ∧ s.database.table = some l ∧
          ((session st).bind f).play env s =
            ((ofExcept (Database.perform l st).1).bind f).play env s' ∧
          s'.database = { s.database with table := some (Database.perform l st).2 } ∧
          s'.changed = s.changed ++ (Query.session st).changed (Database.perform l st).1 := by
  have fails {e : Failure} (answered : (env s.log.length).answer s.database (.session st) =
      (.error e, s.database)) : Fails s e (((session st).bind f).play env s) ∧
        (((session st).bind f).play env s).2.changed = s.changed :=
    fails_of_answered answered (Query.changed_session_error st e) (fun r => (ofExcept r).bind f) rfl
  cases failing : (env s.log.length).fault with
  | some fault =>
    have answered : (env s.log.length).answer s.database (.session st) =
        (.error (.store fault), s.database) := by
      unfold Reaction.answer
      rw [failing]
    obtain ⟨failed, unchanged⟩ := fails answered
    exact .inl ⟨⟨fault, failed⟩, fun sound => (nomatch failing.symm.trans (sound.1 _)), unchanged⟩
  | none =>
    have answered : (env s.log.length).answer s.database (.session st) = s.database.run st := by
      unfold Reaction.answer
      rw [failing]
    rcases s.database.run_three read with ⟨⟨fault, failed⟩, unheld⟩ | ⟨e, unbound, failed⟩ | done
    · obtain ⟨failed, unchanged⟩ := fails (answered.trans failed)
      exact .inl ⟨⟨fault, failed⟩, fun ⟨_, l, held⟩ => unheld l held, unchanged⟩
    · exact .inr (.inl ⟨e, unbound, (fails (answered.trans failed)).1⟩)
    · obtain ⟨l, bound, made, done⟩ := done
      obtain ⟨s', goes, same⟩ := play_ask_eq (answered.trans done) fun r => (ofExcept r).bind f
      exact .inr (.inr ⟨l, s', bound, made, goes, same⟩)

theorem play_session_or_fault (env : Nat → Reaction) (s : Scene) (st : Statement)
    (read : Database.tableless st = false) (bound : Database.bind st = .ok ())
    (f : st.Answer → Job β) :
    Faults env s (((session st).bind f).play env s) ∨ ∃ l s', s.database.table = some l ∧
      ((session st).bind f).play env s =
        ((ofExcept (Database.perform l st).1).bind f).play env s' ∧
      s'.database = { s.database with table := some (Database.perform l st).2 } ∧
      s'.changed = s.changed ++ (Query.session st).changed (Database.perform l st).1 := by
  rcases play_session_three env s st read f with failed | ⟨e, unbound, -⟩ | ⟨l, s', -, done⟩
  · exact .inl failed
  · cases unbound.symm.trans bound
  · exact .inr ⟨l, s', done⟩

theorem bind_done (j : Job α) : j.bind .done = j := by
  induction j with
  | done a => rfl
  | fail e => rfl
  | ask q next ih => exact congrArg (ask q) (funext ih)

theorem Faults.bind {j : Job α} (h : Faults env s (j.play env s)) (f : α → Job β) :
    Faults env s ((j.bind f).play env s) := by
  rw [bind_eq_attempt, play_attempt]
  generalize j.play env s = out at h ⊢
  obtain ⟨ending, s'⟩ := out
  obtain ⟨⟨fault, rfl, same⟩, unsound, unchanged⟩ := h
  exact ⟨⟨fault, rfl, same⟩, unsound, unchanged⟩

end Job

namespace Store

open Job

variable {env : Nat → Reaction} {s : Scene} {c : Ledger.Change}

theorem transition_or_fault (env : Nat → Reaction) (s : Scene) (allowed : permit c = .ok ())
    (bound : ∀ now, Database.bind (.update c now) = .ok ()) :
    Faults env s ((transition c).play env s) ∨
      ∃ l now s', s.database.table = some l ∧
        (transition c).play env s = (.ok (l.touches c), s') ∧
        s'.database = { s.database with table := some (l.apply c now) } ∧
        s'.changed = s.changed ++ if l.touches c then [c] else [] := by
  rw [Batch.transition_allowed allowed]
  rcases play_enter_or_fault env s (.transition c)
    (fun _ => Job.now.bind fun now => Job.session (.update c now))
    with failed | ⟨s₁, entered, same, unchanged⟩
  · exact .inl failed
  · have goes := entered.trans (show _ = (Job.session (.update c (env s₁.log.length).clock)).play env
      (s₁.asked (env s₁.log.length) .now) from rfl)
    have kept : (s₁.asked (env s₁.log.length) .now).database = s.database := same
    have still : (s₁.asked (env s₁.log.length) .now).changed = s.changed := by
      rw [Scene.changed_asked, unchanged]
      exact List.append_nil _
    rw [goes, ← bind_done (Job.session _)]
    rcases play_session_or_fault env (s₁.asked (env s₁.log.length) .now) (.update c _) rfl
      (bound (env s₁.log.length).clock) Job.done with failed | ⟨l, s', made, done, left, changed⟩
    · obtain ⟨fails, unsound, unchanged⟩ := failed
      unfold Fails at fails
      rw [kept] at fails unsound
      exact .inl ⟨fails, unsound, unchanged.trans still⟩
    · rw [kept] at made left
      rw [still] at changed
      refine .inr ⟨l, _, s', made, done, left, changed.trans ?_⟩
      change _ ++ (Query.session (.update c _)).changed (.ok (l.touches c)) = _
      cases l.touches c <;> rfl

end Store

end Faucet
