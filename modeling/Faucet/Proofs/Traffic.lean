import Mathlib.Data.List.Forall2
import Faucet.Proofs.Records
import Faucet.Proofs.StoreCall

/-!
Any number of callers of one store. A call takes its statements one by one, others take theirs in
between, the store fails as it likes, and the clock reads whatever it reads; a call that is given up
takes no further turn. The log keeps the ledger before and after every turn.
-/

set_option autoImplicit false

namespace Faucet

namespace Traffic

structure Caller where
  call : StoreCall
  job : Job call.Result

structure Entry where
  caller : Nat
  query : Query
  answer : query.Answer
  before : Ledger
  after : Ledger

end Traffic

structure Traffic where
  database : Database
  callers : Nat → Option Traffic.Caller := fun _ => none
  log : List Traffic.Entry := []

namespace Traffic

inductive Act where
  | start (i : Nat) (call : StoreCall)
  | turn (i : Nat) (reaction : Reaction)

def rows (s : Traffic) : Ledger := s.database.rows

def put (s : Traffic) (i : Nat) (c : Caller) : Traffic :=
  { s with callers := fun j => if j = i then some c else s.callers j }

def turn (s : Traffic) (i : Nat) (ρ : Reaction) : Traffic :=
  match s.callers i with
  | some ⟨call, .ask q next⟩ =>
    let (r, database) := ρ.answer s.database q
    { s.put i ⟨call, next r⟩ with
      database
      log := ⟨i, q, r, s.rows, database.rows⟩ :: s.log }
  | _ => s

/-- A number is used once: who has made a call makes the next one under another. -/
def step (s : Traffic) : Act → Traffic
  | .start i call => match s.callers i with
    | none => s.put i ⟨call, call.job⟩
    | some _ => s
  | .turn i ρ => s.turn i ρ

def run (d : Database) (acts : List Act) : Traffic := acts.foldl step { database := d }

namespace Entry

def edit? (e : Entry) : Option Edit := e.query.edit? e.answer

/-- The ledger changed by the edit that the answer tells, or not at all. -/
structure Honest (e : Entry) : Prop where
  keyed : e.before.Keyed
  accounts : Edit.Accounts e.before e.after e.edit?

def leaves (id : Int) (status : Status) (e : Entry) : Bool :=
  decide (e.before.Stands id status ∧ ¬e.after.Stands id status)

theorem Honest.moved_of_leaves {e : Entry} (h : e.Honest) {id : Int} {status : Status}
    (left : e.leaves id status = true) : ∃ t ∈ e.after, t.id = id ∧ status.Edge t.status := by
  obtain ⟨⟨r, hr, rfl, rfl⟩, gone⟩ := of_decide_eq_true left
  obtain ⟨t, ht, becomes⟩ := h.accounts.evolves.exists_mem hr
  rcases becomes.moves with rfl | edge
  · exact absurd ⟨t, ht, rfl, rfl⟩ gone
  · exact ⟨t, ht, becomes.id, edge⟩

end Entry

def changesIn (i : Nat) (log : List Entry) : List Entry :=
  log.filter fun e => decide (e.caller = i ∧ e.after ≠ e.before)

def editsIn (i : Nat) (log : List Entry) : List Edit :=
  log.filterMap fun e => if e.caller = i then e.edit? else none

theorem editsIn_cons_own {i : Nat} {e : Entry} {log : List Entry} (own : e.caller = i) :
    editsIn i (e :: log) = match e.edit? with
      | none => editsIn i log
      | some edit => edit :: editsIn i log := by
  unfold editsIn
  rw [List.filterMap_cons, if_pos own]
  cases e.edit? with
  | none => rfl
  | some edit => rfl

theorem editsIn_cons_other {i : Nat} {e : Entry} {log : List Entry} (other : e.caller ≠ i) :
    editsIn i (e :: log) = editsIn i log :=
  List.filterMap_cons_none (if_neg other)

theorem changesIn_editsIn {log : List Entry} (h : ∀ e ∈ log, e.Honest) (i : Nat) :
    List.Forall₂ (fun (e : Entry) edit => e.before.Keyed ∧ edit.Makes e.before e.after)
      (changesIn i log) (editsIn i log) := by
  induction log with
  | nil => exact .nil
  | cons e log ih =>
    have rest := ih fun e' he' => h e' (List.mem_cons_of_mem e he')
    have honest := h e List.mem_cons_self
    unfold changesIn at rest ⊢
    by_cases own : e.caller = i
    · have accounts := honest.accounts
      rw [editsIn_cons_own own]
      cases told : e.edit? with
      | none =>
        rw [told] at accounts
        rw [List.filter_cons_of_neg fun both => (of_decide_eq_true both).2 accounts]
        exact rest
      | some edit =>
        rw [told] at accounts
        have changed := Edit.Makes.ne accounts honest.keyed
        rw [List.filter_cons_of_pos (by exact decide_eq_true ⟨own, changed⟩)]
        exact .cons ⟨honest.keyed, accounts⟩ rest
    · rw [List.filter_cons_of_neg fun both => own (of_decide_eq_true both).1,
        editsIn_cons_other own]
      exact rest

structure Sound (s : Traffic) : Prop where
  keyed : s.rows.Keyed
  honest : ∀ e ∈ s.log, e.Honest
  left : ∀ e ∈ s.log, ∀ id status, e.leaves id status = true →
    ∃ t ∈ s.rows, t.id = id ∧ Relation.TransGen Status.Edge status t.status
  once : ∀ id status, s.log.countP (Entry.leaves id status) ≤ 1
  idle : ∀ i, s.callers i = none → editsIn i s.log = []
  keeps : ∀ i c, s.callers i = some c → ∃ p : Progress,
    c.job.Follows Progress.Moves c.call.Ends p ∧ p.edits = editsIn i s.log

theorem sound_start {d : Database} (keyed : Ledger.Keyed d.rows) : Sound { database := d } where
  keyed := keyed
  honest := fun _ he => (List.not_mem_nil he).elim
  left := fun _ he => (List.not_mem_nil he).elim
  once := fun _ _ => Nat.zero_le 1
  idle := fun _ _ => rfl
  keeps := fun _ _ hc => by cases hc

namespace Sound

variable {s : Traffic}

theorem put (h : s.Sound) {i : Nat} (free : s.callers i = none) (call : StoreCall) :
    (s.put i ⟨call, call.job⟩).Sound where
  keyed := h.keyed
  honest := h.honest
  left := h.left
  once := h.once
  idle := fun j hj => by
    change (if j = i then _ else s.callers j) = none at hj
    split at hj
    · cases hj
    · exact h.idle j hj
  keeps := fun j c hc => by
    change (if j = i then some _ else s.callers j) = some c at hc
    split at hc
    · subst j
      cases hc
      exact ⟨{}, call.follows, (h.idle i free).symm⟩
    · exact h.keeps j c hc

theorem turn (h : s.Sound) {i : Nat} {ρ : Reaction} {call : StoreCall} {q : Query}
    {next : q.Answer → Job call.Result} {r : q.Answer} {d : Database}
    (here : s.callers i = some ⟨call, .ask q next⟩) (done : ρ.answer s.database q = (r, d)) :
    Sound { s.put i ⟨call, next r⟩ with
      database := d
      log := ⟨i, q, r, s.rows, d.rows⟩ :: s.log } := by
  obtain ⟨p, follows, edits⟩ := h.keeps i _ here
  obtain ⟨_, ⟨allowed, rfl⟩, rest⟩ := follows r
  have honest : Entry.Honest ⟨i, q, r, s.rows, d.rows⟩ := ⟨h.keyed, (allowed.answer done).accounts⟩
  have evolves := honest.accounts.evolves
  have log : ∀ e ∈ (⟨i, q, r, s.rows, d.rows⟩ : Entry) :: s.log, e.Honest := fun e he => by
    rcases List.mem_cons.mp he with rfl | he
    · exact honest
    · exact h.honest e he
  constructor
  case keyed => exact honest.accounts.keyed h.keyed
  case honest => exact log
  case left =>
    intro e he id status left
    rcases List.mem_cons.mp he with rfl | he
    · obtain ⟨t, ht, hid, edge⟩ := honest.moved_of_leaves left
      exact ⟨t, ht, hid, .single edge⟩
    · obtain ⟨t, ht, hid, later⟩ := h.left e he id status left
      obtain ⟨u, hu, becomes⟩ := evolves.exists_mem ht
      refine ⟨u, hu, becomes.id.trans hid, ?_⟩
      rcases becomes.moves with rfl | edge
      · exact later
      · exact later.tail edge
  case once =>
    intro id status
    refine countP_cons_le_one (h.once id status) fun left e he => ?_
    refine Bool.eq_false_iff.mpr fun old => ?_
    -- Who has left the status before is past it, and stands nowhere else.
    obtain ⟨t, ht, hid, later⟩ := h.left e he id status old
    obtain rfl := h.keyed.status_eq (of_decide_eq_true left).1 ⟨t, ht, hid, rfl⟩
    exact Nat.lt_irrefl _ (Status.rank_lt_of_later later)
  case idle =>
    intro j hj
    change (if j = i then _ else s.callers j) = none at hj
    split at hj
    · cases hj
    · rename_i other
      rw [editsIn_cons_other (fun same => other same.symm)]
      exact h.idle j hj
  case keeps =>
    intro j c hc
    change (if j = i then some _ else s.callers j) = some c at hc
    split at hc
    · subst j
      cases hc
      refine ⟨_, rest, Eq.symm (?_ : editsIn i (⟨i, q, r, s.rows, d.rows⟩ :: s.log) = _)⟩
      refine (editsIn_cons_own rfl).trans ?_
      rw [← edits]
      rfl
    · rename_i other
      rw [editsIn_cons_other (fun same => other same.symm)]
      exact h.keeps j c hc

theorem step (h : s.Sound) (a : Act) :
    (s.step a).Sound ∧ s.rows.Evolves Status.Edge (s.step a).rows := by
  cases a with
  | start i call =>
    unfold Traffic.step
    dsimp only
    split
    · exact ⟨h.put ‹_› call, .refl _⟩
    · exact ⟨h, .refl _⟩
  | turn i ρ =>
    change (s.turn i ρ).Sound ∧ s.rows.Evolves Status.Edge (s.turn i ρ).rows
    unfold Traffic.turn
    split
    · rename_i call q next here
      have sound := h.turn here (Eq.refl (ρ.answer s.database q))
      exact ⟨sound, (sound.honest _ List.mem_cons_self).accounts.evolves⟩
    · exact ⟨h, .refl _⟩

theorem steps (h : s.Sound) (acts : List Act) :
    (acts.foldl Traffic.step s).Sound ∧
      s.rows.Evolves (Relation.TransGen Status.Edge) (acts.foldl Traffic.step s).rows := by
  induction acts generalizing s with
  | nil => exact ⟨h, .refl _⟩
  | cons a acts ih =>
    obtain ⟨sound, first⟩ := h.step a
    obtain ⟨sound', rest⟩ := ih sound
    exact ⟨sound', (first.mono fun _ _ => .single).trans rest⟩

end Sound

/-- What a call that is over has changed, as its outcome tells. -/
def Outcome (changes : List Entry) : Caller → Prop
  | ⟨.create .., .done row⟩ => ∃ e, changes = [e] ∧ e.after = e.before ++ [row]
  | ⟨.transition c, .done true⟩ => ∃ e, changes = [e] ∧ ∃ older r younger now,
    e.before = older ++ r :: younger ∧ r.id = c.id ∧ r.status = c.source ∧
      e.after = older ++ c.row now r :: younger
  | ⟨.create .., .fail _⟩ | ⟨.transition _, .done false⟩ | ⟨.transition _, .fail _⟩ => changes = []
  | _ => True

theorem Sound.outcome {s : Traffic} (h : s.Sound) {i : Nat} {c : Caller}
    (here : s.callers i = some c) : Outcome (changesIn i s.log) c := by
  obtain ⟨p, follows, edits⟩ := h.keeps i c here
  have told := changesIn_editsIn h.honest i
  rw [← edits] at told
  have none : p.edits = [] → changesIn i s.log = [] := fun eq => by
    rw [eq] at told
    exact List.forall₂_nil_right_iff.mp told
  have one : ∀ edit, p.edits = [edit] → ∃ e : Entry, changesIn i s.log = [e] ∧
      e.before.Keyed ∧ edit.Makes e.before e.after := fun edit eq => by
    rw [eq] at told
    obtain ⟨e, rest, makes, none, changes⟩ := List.forall₂_cons_right_iff.mp told
    rw [List.forall₂_nil_right_iff.mp none] at changes
    exact ⟨e, changes, makes⟩
  obtain ⟨call, job⟩ := c
  cases call with
  | create address amount source =>
    cases job with
    | done row =>
      obtain ⟨e, changes, _, makes⟩ := one _ follows
      exact ⟨e, changes, makes.1⟩
    | fail e => exact none follows
    | ask q next => trivial
  | transition c =>
    match job with
    | .done true =>
      obtain ⟨_, now, eq⟩ := follows
      obtain ⟨e, changes, keyed, _, touched, after⟩ := one _ eq
      obtain ⟨older, r, younger, before, hid, hs, apply⟩ := keyed.apply_eq touched now
      exact ⟨e, changes, older, r, younger, now, before, hid, hs, after.trans apply⟩
    | .done false => exact none follows
    | .fail e => exact none follows
    | .ask q next => trivial
  | sweep olderThan now =>
    cases job with
    | _ => trivial

/-- From any ledger on, whoever calls the store, with whatever arguments and at whatever readings of
the clock, and whichever statements fail: rows stay in their places for good, with their numbers,
addresses, sources, amounts and times of creation; their statuses move along the edges of their
life, one at a time; a row that has ended stays as it is; a row leaves a status once; and a call
that is over has changed what its outcome says, and nothing if it failed or came too late. -/
theorem lifecycle (d : Database) (keyed : Ledger.Keyed d.rows) (acts more : List Act) :
    let s := run d acts
    let s' := run d (acts ++ more)
    s.rows.Evolves (Relation.TransGen Status.Edge) s'.rows ∧
      (∀ r ∈ s.rows, r.status.isTerminal = true → r ∈ s'.rows) ∧
      (∀ a, s.rows.Evolves Status.Edge (s.step a).rows) ∧
      (∀ id status, s.log.countP (Entry.leaves id status) ≤ 1) ∧
      ∀ i c, s.callers i = some c → Outcome (changesIn i s.log) c := by
  intro s s'
  have sound : s.Sound := ((sound_start keyed).steps acts).1
  have evolves : s.rows.Evolves (Relation.TransGen Status.Edge) s'.rows := by
    have later := (sound.steps more).2
    unfold s' run
    rw [List.foldl_append]
    exact later
  exact ⟨evolves, fun r hr ended => evolves.mem_of_isTerminal hr ended,
    fun a => (sound.step a).2, sound.once, fun i c here => sound.outcome here⟩

def rivalClaim : Ledger.Change := { id := 1, source := .pending, target := .processing }

def rivalAt (clock : Moment) : Reaction :=
  { clock, wallet := fun _ => .error (.faucet []), reply := .error (.faucet []), number := 0
    purse := .zero }

def rivals : List Act :=
  [.start 0 (.create (some "tb1qdestination") (.finite false 2 (-3)) "web")] ++
    List.replicate 3 (.turn 0 (rivalAt 5)) ++
    [.start 1 (.transition rivalClaim), .start 2 (.transition rivalClaim)] ++
    List.replicate 2 (.turn 1 (rivalAt 6)) ++ List.replicate 3 (.turn 2 (rivalAt 7)) ++
    [.turn 1 (rivalAt 8)]

/-- The second caller wins, since it writes first, and the first one has changed nothing. -/
theorem lifecycle_rivals :
    Ledger.Keyed (Database.rows { table := some [] }) ∧
      (run { table := some [] } rivals).rows.map Row.updated = [7] ∧
      changesIn 1 (run { table := some [] } rivals).log = [] :=
  ⟨Ledger.keyed_nil, by decide +kernel,
    (lifecycle { table := some [] } Ledger.keyed_nil rivals []).2.2.2.2 1
      ⟨.transition rivalClaim, .done false⟩ rfl⟩

end Traffic

end Faucet
