import Faucet.Proofs.Provenance
import Faucet.Proofs.Request

/-!
Requests among all who work on a store. A request is seen at its stage, and what holds of it there
is carried through every step: its own turns move it on, and the turns of others leave it where it
is. Only requests that still have a question to ask add rows.
-/

set_option autoImplicit false

namespace Faucet

namespace Crowd

open Intake (Stage)
open Intake.Stage (Moves Ends)

def Asking (s : Crowd) (i : Nat) (q : Query) : Prop :=
  ∃ intake t tier source next,
    s.processes i = some ⟨.submit intake t tier source, .ready (.ask q next)⟩

def Submits (s : Crowd) (i : Nat) : Prop := ∃ q, s.Asking i q

/-- What holds of a request for an address, made by a source, at a stage. -/
abbrev Ground := Nat → Intake → Text → Text → Stage → Prop

/-- A request stands at a stage, or was refused at once because there is no address to pay. -/
def Stands (on : Ground) (i : Nat) (intake : Intake) (t source : Text) (job : Job Receipt) : Prop :=
  match Address.validate t with
  | .ok address => ∃ st, job.Follows (Moves intake address source) Ends st ∧
      on i intake address source st
  | .error fault => job = .done (.refused .invalidAddress fault.message)

def Upholds (on : Ground) (i : Nat) : Process → Prop
  | ⟨.submit intake t _ source, .ready job⟩ => Stands on i intake t source job
  | ⟨.submit .., .calling ..⟩ => False
  | _ => True

def Attended (on : Ground) (s : Crowd) : Prop := ∀ i p, s.processes i = some p → Upholds on i p

section
variable {on on' : Ground} {i : Nat} {intake : Intake} {t source : Text}

theorem Stands.mono {job : Job Receipt} (h : Stands on i intake t source job)
    (sub : ∀ address st, on i intake address source st → on' i intake address source st) :
    Stands on' i intake t source job := by
  unfold Stands at h ⊢
  split at h
  · obtain ⟨st, follows, ground⟩ := h
    exact ⟨st, follows, sub _ st ground⟩
  · exact h

theorem Upholds.mono {p : Process} (h : Upholds on i p)
    (sub : ∀ intake address source st, on i intake address source st →
      on' i intake address source st) : Upholds on' i p := by
  obtain ⟨w, phase⟩ := p
  cases w with
  | submit intake t tier source =>
    cases phase with
    | ready job => exact Stands.mono h fun address st => sub intake address source st
    | calling => exact h
    | gone => trivial
  | _ => trivial

theorem stands_submit (tier : Option Int)
    (first : ∀ address, on i intake address source (Stage.first intake source)) :
    Stands on i intake t source (intake.submit t tier source) := by
  unfold Stands
  split
  · rename_i address valid
    exact ⟨_, Intake.submit_follows intake valid tier source, first address⟩
  · rename_i fault invalid
    unfold Intake.submit
    rw [invalid]
    rfl

theorem Stands.answered {q : Query} {next : q.Answer → Job Receipt}
    (h : Stands on i intake t source (.ask q next)) (r : q.Answer)
    (own : ∀ address st st', Moves intake address source st q r st' →
      on i intake address source st → on' i intake address source st') :
    Stands on' i intake t source (next r) := by
  unfold Stands at h ⊢
  split at h
  · obtain ⟨st, follows, ground⟩ := h
    obtain ⟨st', m, rest⟩ := follows r
    exact ⟨st', rest, own _ st st' m ground⟩
  · cases h

theorem Stands.not_wallet {c : WalletCall} {next : Except Failure c.Answer → Job Receipt} :
    ¬Stands on i intake t source (.ask (.wallet c) next) := by
  intro h
  unfold Stands at h
  split at h
  · obtain ⟨st, follows, _⟩ := h
    obtain ⟨st', m, _⟩ := follows (.error (.faucet []))
    cases m
  · cases h

end

section
variable {s s' : Crowd} {a : Act} {i j : Nat}

theorem put_of_ne {p : Process} (other : j ≠ i) : (s.put i p).processes j = s.processes j :=
  if_neg other

theorem put_self (s : Crowd) (i : Nat) (p : Process) : (s.put i p).processes i = some p := if_pos rfl

inductive Became (s : Crowd) (a : Act) (s' : Crowd) (i : Nat) : Process → Prop
  | left (p : Process) (same : s'.processes i = s.processes i)
    (idle : ∀ ρ, a = .turn i ρ → s' = s) : Became s a s' i p
  | begun (w : Work) (own : a = .start i w) : Became s a s' i ⟨w, .ready w.job⟩
  | quit (w : Work) : Became s a s' i ⟨w, .gone⟩
  | calls (w : Work) (c : WalletCall) (next : Except Failure c.Answer → Job w.Result)
    (here : s.processes i = some ⟨w, .ready (.ask (.wallet c) next)⟩) :
    Became s a s' i ⟨w, .calling c next⟩
  | goes (ρ : Reaction) (w : Work) (q : Query) (next : q.Answer → Job w.Result) (r : q.Answer)
    (own : a = .turn i ρ) (here : s.processes i = some ⟨w, .ready (.ask q next)⟩)
    (done : ρ.answer s.database q = (r, s'.database))
    (noted : s'.history = ⟨i, .answered q r⟩ :: s.history) : Became s a s' i ⟨w, .ready (next r)⟩
  | resumes (w : Work) (c : WalletCall) (next : Except Failure c.Answer → Job w.Result)
    (answer : Except Failure c.Answer) (here : s.processes i = some ⟨w, .calling c next⟩) :
    Became s a s' i ⟨w, .ready (next answer)⟩

theorem Moved.became (m : s.Moved a s') {p : Process} (here : s'.processes j = some p) :
    Became s a s' j p := by
  have turned {i : Nat} {ρ : Reaction} (ne : j ≠ i) (ρ' : Reaction) :
      Act.turn i ρ = .turn j ρ' → s' = s := fun eq => absurd (Act.turn.inj eq).1.symm ne
  cases m with
  | still => exact .left p rfl fun _ _ => rfl
  | started i w free =>
    by_cases same : j = i
    · subst same
      cases (put_self _ _ _).symm.trans here
      exact .begun w rfl
    · exact .left p (put_of_ne same) fun _ eq => by cases eq
  | quit i p' gone =>
    by_cases same : j = i
    · subst same
      cases (put_self _ _ _).symm.trans here
      exact .quit p'.work
    · exact .left p (put_of_ne same) fun _ eq => by cases eq
  | called i ρ w c next asks =>
    by_cases same : j = i
    · subst same
      cases (put_self _ _ _).symm.trans here
      exact .calls w c next asks
    · exact .left p (put_of_ne same) (turned same)
  | answered i ρ w q next r d asks atOnce done =>
    by_cases same : j = i
    · subst same
      cases (put_self _ _ _).symm.trans here
      exact .goes ρ w q next r rfl asks done rfl
    · exact .left p (put_of_ne same) (turned same)
  | returned i ρ w c next asks =>
    by_cases same : j = i
    · subst same
      cases (put_self _ _ _).symm.trans here
      exact .resumes w c next _ asks
    · exact .left p (put_of_ne same) (turned same)

variable {on on' : Ground}

/-- What there is to show for requests to keep their ground through a step. -/
structure Sustains (on on' : Ground) (s : Crowd) (a : Act) (s' : Crowd) : Prop where
  begins : ∀ i intake t tier address source, a = .start i (.submit intake t tier source) →
    on' i intake address source (Stage.first intake source)
  stays : ∀ i intake address source st, s'.processes i = s.processes i →
    (∀ ρ, a = .turn i ρ → s' = s) → on i intake address source st → on' i intake address source st
  moves : ∀ i intake address source st q r st' ρ, a = .turn i ρ → s.Asking i q →
    Moves intake address source st q r st' → ρ.answer s.database q = (r, s'.database) →
      s'.history = ⟨i, .answered q r⟩ :: s.history →
        on i intake address source st → on' i intake address source st'

theorem Attended.moved (h : s.Attended on) (m : s.Moved a s') (k : Sustains on on' s a s') :
    s'.Attended on' := by
  intro i p here
  cases m.became here with
  | left _ same idle =>
    exact (h i p (same ▸ here)).mono fun intake address source st =>
      k.stays i intake address source st same idle
  | begun w own =>
    cases w with
    | submit intake t tier source =>
      exact stands_submit tier fun address => k.begins i intake t tier address source own
    | _ => trivial
  | quit w => cases w <;> trivial
  | calls w c next asks =>
    cases w with
    | submit => exact Stands.not_wallet (h i _ asks)
    | _ => trivial
  | goes ρ w q next r own asks done noted =>
    cases w with
    | submit intake t tier source =>
      refine Stands.answered (h i _ asks) r fun address st st' m ground => ?_
      exact k.moves i intake address source st q r st' ρ own ⟨_, _, _, _, _, asks⟩ m done noted ground
    | _ => trivial
  | resumes w c next answer asks =>
    cases w with
    | submit => exact (h i _ asks).elim
    | _ => trivial

end

theorem ruled_run (lasting : Bool) (acts : List Act) :
    Ruled Accounted Proceeds (run { lasting, table := some [] } acts) :=
  accounted_rule.run (accounted_nil _) lasting fun _ _ _ => trivial

theorem Stands.added {on : Ground} {i : Nat} {intake : Intake} {t source : Text} {q : Query}
    {next : q.Answer → Job Receipt} {r : q.Answer} {row : Row} {ρ : Reaction} {d d' : Database}
    {l : Ledger} (h : Stands on i intake t source (.ask q next)) (hold : d.Holds l)
    (done : ρ.answer d q = (r, d')) (told : q.edit? r = some (.added row)) :
    ∃ address leave amount, on i intake address source (.dated leave amount row.created) ∧
      row.address = address ∧ row.source = source := by
  unfold Stands at h
  split at h
  · obtain ⟨st, follows, ground⟩ := h
    obtain ⟨st', m, _⟩ := follows r
    obtain ⟨_, same, isOf⟩ := ρ.edit_isOf hold done told
    cases m with
    | insert leave amount now sats row worth =>
      cases same
      cases told
      obtain ⟨id, a, same, rfl⟩ := isOf
      cases same
      exact ⟨_, leave, amount, ground, rfl, rfl⟩
    | _ => cases told
  · cases h

variable {on : Ground} {s s' : Crowd} {a : Act}

theorem Ruled.accounts (ruled : Ruled Accounted Proceeds s) (attended : s.Attended on)
    (m : s.Moved a s') : ∃ told, Edit.Accounts s.rows s'.rows told ∧
      ∀ row, told = some (.added row) → ∃ i ρ intake address leave amount,
        a = .turn i ρ ∧ s.Submits i ∧
          on i intake address row.source (.dated leave amount row.created) := by
  cases m with
  | still | started | quit | called | returned => exact ⟨none, rfl, nofun⟩
  | answered i ρ w q next r d here atOnce done =>
    have own := ruled.each i _ here
    cases w with
    | submit intake t tier source =>
      obtain ⟨_, asked, _⟩ := own r
      refine ⟨_, (ρ.accounts ruled.sound.holds (Query.lawful_of_isRequest asked) done).2,
        fun row told => ?_⟩
      obtain ⟨address, leave, amount, ground, _, rfl⟩ :=
        Stands.added (attended i _ here) ruled.sound.holds done told
      exact ⟨i, ρ, intake, address, leave, amount, rfl, ⟨q, _, _, _, _, _, here⟩, ground⟩
    | sweep =>
      obtain ⟨_, asked, _⟩ := own r
      refine ⟨_, (ρ.accounts ruled.sound.holds (Query.lawful_of_isSweep asked) done).2,
        fun row told => ?_⟩
      obtain ⟨st, rfl, isOf⟩ := ρ.edit_isOf ruled.sound.holds done told
      cases st with
      | insert => cases asked
      | _ => cases isOf
    | cycle b =>
      obtain ⟨st, follows, proceeds⟩ := own
      obtain ⟨st', m, _⟩ := follows r
      refine ⟨_, (ρ.accounts ruled.sound.holds (m.lawful proceeds.permitted) done).2,
        fun row told => ?_⟩
      rcases m.edit_cases told with ⟨_, _, _, _, _, edit, _⟩ | ⟨_, _, _, _, _, _, _, edit, _⟩
      · cases edit
      · cases edit

/-- A request that is answered, with an answer of some kind. -/
def answers (kind : Intake → Text → Receipt → Bool) : Option Process → Bool
  | some ⟨.submit intake _ _ source, .ready (.done receipt)⟩ => kind intake source receipt
  | _ => false

theorem exists_of_answers (kind : Intake → Text → Receipt → Bool) {p : Option Process}
    (h : answers kind p = true) : ∃ intake t tier source receipt,
      p = some ⟨.submit intake t tier source, .ready (.done receipt)⟩ ∧
        kind intake source receipt = true := by
  unfold answers at h
  split at h
  · exact ⟨_, _, _, _, _, rfl, h⟩
  · cases h

end Crowd

end Faucet
