import Faucet.Proofs.Course
import Faucet.Proofs.Edits

/-!
The calls that write to the store, whoever makes them and with whatever arguments. A machine follows
what such a call has read from the clock and what it has done to the ledger, so that its outcome
tells its edits.
-/

set_option autoImplicit false

namespace Faucet

inductive StoreCall where
  | create (address : Option Text) (amount : Decimal) (source : Text)
  | transition (change : Ledger.Change)
  | sweep (olderThan : Span) (now : Option Moment)

namespace StoreCall

abbrev Result : StoreCall → Type
  | .create .. => Row
  | .transition _ => Bool
  | .sweep .. => Nat

def job : (c : StoreCall) → Job c.Result
  | .create address amount source => Store.create address amount source
  | .transition change => Store.transition change
  | .sweep olderThan now => Store.failStale olderThan now

end StoreCall

def Query.clock? : (q : Query) → q.Answer → Option Moment
  | .now, .ok moment => some moment
  | _, _ => none

theorem Query.clock?_of_edit {q : Query} {r : q.Answer} {edit : Edit} (h : q.edit? r = some edit) :
    q.clock? r = none := by
  cases q with
  | session s => rfl
  | _ => cases h

/-- What a call has read from the clock last, and what it has done, the latest first. -/
structure Progress where
  clock : Option Moment := none
  edits : List Edit := []

namespace Progress

/-- What a call may ask. It writes only what the life of a payout allows, with the time it read. -/
def Allows (p : Progress) : Query → Prop
  | .enter _ | .now | .log .. => True
  | .session (.insert _ _ _ now) => p.clock = some now
  | .session (.update c now) => p.clock = some now ∧ Store.permit c = .ok ()
  | .session (.byAddress _) | .session (.stale _) => True
  | _ => False

def after (p : Progress) (q : Query) (r : q.Answer) : Progress where
  clock := (q.clock? r).or p.clock
  edits := match q.edit? r with
    | none => p.edits
    | some edit => edit :: p.edits

def Moves : Machine Progress := fun p q r p' => p.Allows q ∧ p' = p.after q r

theorem edits_after_none (p : Progress) {q : Query} {r : q.Answer} (h : q.edit? r = none) :
    (p.after q r).edits = p.edits := by
  unfold after
  rw [h]

theorem edits_after_some (p : Progress) {q : Query} {r : q.Answer} {edit : Edit}
    (h : q.edit? r = some edit) : (p.after q r).edits = edit :: p.edits := by
  unfold after
  rw [h]

end Progress

open Job

namespace Store

def Changes (c : Ledger.Change) (p p' : Progress) : Except Failure Bool → Prop
  | .ok true => permit c = .ok () ∧ ∃ now, p'.edits = .changed c now :: p.edits
  | .ok false | .error _ => p'.edits = p.edits

theorem transition_follows (c : Ledger.Change) (p : Progress) :
    (transition c).Follows Progress.Moves (Changes c p) p := by
  cases allowed : permit c with
  | error fault =>
    rw [Batch.transition_barred allowed]
    intro entered
    refine ⟨_, ⟨trivial, rfl⟩, ?_⟩
    cases entered with
    | error e => rfl
    | ok _ => rfl
  | ok _ =>
    rw [Batch.transition_allowed allowed]
    intro entered
    refine ⟨_, ⟨trivial, rfl⟩, ?_⟩
    cases entered with
    | error e => rfl
    | ok _ =>
      intro now
      refine ⟨_, ⟨trivial, rfl⟩, ?_⟩
      cases now with
      | error e => rfl
      | ok now =>
        intro won
        refine ⟨_, ⟨⟨rfl, allowed⟩, rfl⟩, ?_⟩
        match won with
        | .error e => rfl
        | .ok false => rfl
        | .ok true => exact ⟨allowed, now, rfl⟩

def Creates (p p' : Progress) : Except Failure Row → Prop
  | .ok row => p'.edits = .added row :: p.edits
  | .error _ => p'.edits = p.edits

theorem create_follows (address : Option Text) (amount : Decimal) (source : Text) (p : Progress) :
    (create address amount source).Follows Progress.Moves (Creates p) p := by
  intro entered
  refine ⟨_, ⟨trivial, rfl⟩, ?_⟩
  cases entered with
  | error e => rfl
  | ok _ =>
    change Follows _ _ _ ((ofArithmetic (amount.le .zero)).bind _)
    cases amount.le .zero with
    | error fault => rfl
    | ok low =>
      cases low with
      | true => rfl
      | false =>
        intro now
        refine ⟨_, ⟨trivial, rfl⟩, ?_⟩
        cases now with
        | error e => rfl
        | ok now =>
          change Follows _ _ _ ((Job.ofExcept (Money.toSats amount)).bind _)
          cases Money.toSats amount with
          | error e => rfl
          | ok sats =>
            intro inserted
            refine ⟨_, ⟨rfl, rfl⟩, ?_⟩
            match inserted with
            | .error e => rfl
            | .ok (.ok row) => rfl
            | .ok (.error conflict) =>
              intro found
              refine ⟨_, ⟨trivial, rfl⟩, ?_⟩
              match found with
              | .error e => rfl
              | .ok none => rfl
              | .ok (some row) => rfl

def Sweeps (p : Progress) : Prop :=
  ∀ edit ∈ p.edits, ∃ r now, edit = .changed (failInterrupted r) now

theorem Sweeps.changes {p p' : Progress} (h : Sweeps p) {r : Row} {outcome : Except Failure Bool}
    (changes : Changes (failInterrupted r) p p' outcome) : Sweeps p' := by
  have still : p'.edits = p.edits → Sweeps p' := fun same edit hd => h edit (same ▸ hd)
  match outcome with
  | .error e => exact still changes
  | .ok false => exact still changes
  | .ok true =>
    obtain ⟨_, now, eq⟩ := changes
    intro edit hd
    rw [eq] at hd
    rcases List.mem_cons.mp hd with rfl | hd
    · exact ⟨r, now, rfl⟩
    · exact h edit hd

theorem failEach_follows (rows : List Row) (failed : Nat) {p : Progress} (h : Sweeps p) :
    (failEach rows failed).Follows Progress.Moves (fun p _ => Sweeps p) p := by
  induction rows generalizing failed p with
  | nil => exact h
  | cons r rest ih =>
    refine follows_bind (transition_follows (failInterrupted r) p) (fun p' won changes => ?_)
      fun p' e changes => h.changes changes
    cases won with
    | true => exact fun _ => ⟨_, ⟨trivial, rfl⟩, ih (failed + 1) (h.changes changes)⟩
    | false => exact ih failed (h.changes changes)

theorem failStale_follows (olderThan : Span) (now : Option Moment) {p : Progress} (h : Sweeps p) :
    (failStale olderThan now).Follows Progress.Moves (fun p _ => Sweeps p) p := by
  have tail : ∀ (m : Moment) {p : Progress}, Sweeps p →
      ((ofExcept (m.before olderThan)).bind fun cutoff =>
        (session (.stale cutoff)).bind fun rows => failEach rows 0).Follows Progress.Moves
        (fun p _ => Sweeps p) p := by
    intro m p h
    cases m.before olderThan with
    | error e => exact h
    | ok cutoff =>
      intro found
      refine ⟨_, ⟨trivial, rfl⟩, ?_⟩
      cases found with
      | error e => exact h
      | ok rows => exact failEach_follows rows 0 h
  cases now with
  | some m => exact tail m h
  | none =>
    intro read
    refine ⟨_, ⟨trivial, rfl⟩, ?_⟩
    cases read with
    | error e => exact h
    | ok m => exact tail m h

end Store

namespace StoreCall

def Ends : (c : StoreCall) → Progress → Except Failure c.Result → Prop
  | .create .. => Store.Creates {}
  | .transition c => Store.Changes c {}
  | .sweep .. => fun p _ => Store.Sweeps p

theorem follows (c : StoreCall) : c.job.Follows Progress.Moves c.Ends {} := by
  cases c with
  | create address amount source => exact Store.create_follows address amount source {}
  | transition c => exact Store.transition_follows c {}
  | sweep olderThan now =>
    exact Store.failStale_follows olderThan now fun _ hd => (List.not_mem_nil hd).elim

end StoreCall

namespace Database

variable {d : Database}

theorem run_cases (d : Database) {s : Statement} (h : tableless s = false) :
    (∃ e, d.run s = (.error e, d)) ∨ ∃ l, d.table = some l ∧
      d.run s = ((perform l s).1, { d with table := some (perform l s).2 }) := by
  unfold run
  split
  · exact .inl ⟨_, rfl⟩
  · rw [h]
    exact .inl ⟨_, rfl⟩
  · rename_i l _ table
    split
    · exact .inl ⟨_, rfl⟩
    · split
      · exact .inl ⟨_, rfl⟩
      · exact .inr ⟨l, table, rfl⟩

end Database

theorem Reaction.statement_cases (ρ : Reaction) (d : Database) {s : Statement}
    (h : Database.tableless s = false) :
    (∃ e, ρ.answer d (.session s) = (.error e, d)) ∨ ∃ l, d.table = some l ∧
      ρ.answer d (.session s) =
        ((Database.perform l s).1, { d with table := some (Database.perform l s).2 }) := by
  unfold answer
  cases ρ.fault with
  | some fault => exact .inl ⟨_, rfl⟩
  | none => exact d.run_cases h

namespace Progress

/-- A step of a call changes the ledger by the edit that its answer tells, at the time that the call
has read. -/
structure Does (p : Progress) (l l' : Ledger) (told : Option Edit) : Prop where
  accounts : Edit.Accounts l l' told
  clock : ∀ edit, told = some edit → p.clock = some edit.moment

variable {p : Progress} {q : Query} {ρ : Reaction} {d d' : Database} {r : q.Answer}

theorem does_nothing (p : Progress) (l : Ledger) : p.Does l l none := ⟨rfl, nofun⟩

theorem Allows.tableless {s : Statement} (h : p.Allows (.session s)) :
    Database.tableless s = false := by
  cases s with
  | ping => cases h
  | _ => rfl

theorem Allows.lawful (h : p.Allows q) : q.Lawful := by
  cases q with
  | session s =>
    cases s with
    | update c now => exact h.2
    | _ => trivial
  | enter | now | log => trivial
  | _ => cases h

theorem Allows.clock {s : Statement} (h : p.Allows (.session s)) {edit : Edit}
    (told : edit.IsOf s) : p.clock = some edit.moment := by
  cases edit with
  | added row =>
    cases s with
    | insert address source sats now =>
      obtain ⟨id, a, _, rfl⟩ := told
      exact h
    | _ => cases told
  | changed c' now' =>
    cases s with
    | update c now =>
      obtain ⟨rfl, rfl⟩ := told
      exact h.1
    | _ => cases told

theorem Allows.answer (h : p.Allows q) (done : ρ.answer d q = (r, d')) :
    p.Does d.rows d'.rows (q.edit? r) := by
  cases q with
  | session s =>
    rcases ρ.statement_cases d h.tableless with ⟨e, eq⟩ | ⟨l, table, eq⟩
    · cases eq.symm.trans done
      rw [Query.edit?_error]
      exact p.does_nothing d.rows
    · cases eq.symm.trans done
      have rows : d.rows = l := by rw [Database.rows, table]; rfl
      rw [rows]
      exact ⟨Database.perform_accounts l h.lawful, fun edit told =>
        h.clock (Database.perform_isOf l told)⟩
  | enter m =>
    unfold Reaction.answer at done
    cases hf : ρ.fault with
    | none =>
      rw [hf] at done
      cases done
      exact p.does_nothing d.rows
    | some fault =>
      rw [hf] at done
      cases done
      exact p.does_nothing d.rows
  | now | log =>
    cases done
    exact p.does_nothing d.rows
  | _ => cases h

end Progress

end Faucet
