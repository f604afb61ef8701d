import Faucet.Proofs.Amounts
import Faucet.Proofs.Manners
import Faucet.Proofs.Traffic

/-!
One job at work on a store that others call. Before each of its questions any number of other calls
begin or take their turns; what it asks itself is kept with the ledger before and after. Whoever
calls the store, no payout on record is below zero.
-/

set_option autoImplicit false

namespace Faucet

def Ledger.Nonneg (l : Ledger) : Prop := ∀ r ∈ l, 0 ≤ r.sats

def Query.Nonneg : Query → Prop
  | .session (.insert _ _ sats _) => 0 ≤ sats
  | _ => True

def Query.Reads : Query → Prop
  | .session s => Database.writes s = false
  | .closeStore => False
  | _ => True

namespace Database

theorem run_rows (d : Database) (s : Statement) :
    (d.run s).2.rows = d.rows ∨ (d.run s).2.rows = (perform d.rows s).2 := by
  unfold run
  split
  · exact .inl rfl
  · split
    · exact .inl rfl
    · exact .inl rfl
  · rename_i l _ table
    split
    · exact .inl rfl
    · split
      · exact .inl rfl
      · rw [rows, rows, table]
        exact .inr rfl

theorem perform_nonneg {l : Ledger} (h : l.Nonneg) {s : Statement}
    (asked : (Query.session s).Nonneg) : (perform l s).2.Nonneg := by
  cases reads : writes s with
  | false => exact perform_snd_of_reads reads ▸ h
  | true =>
    cases s with
    | insert address source sats now =>
      rcases insert_cases l address source sats now with ⟨conflict, eq⟩ | ⟨a, rfl, new, eq⟩
      · simp only [perform, eq]
        exact h
      · simp only [perform, eq]
        intro r hr
        rcases List.mem_append.mp hr with old | new
        · exact h r old
        · rw [List.mem_singleton.mp new]
          exact asked
    | update c now =>
      intro r hr
      obtain ⟨t, ht, rfl⟩ := (Ledger.mem_apply l c now).mp hr
      split
      · exact h t ht
      · exact h t ht
    | _ => cases reads

end Database

namespace Reaction

variable (ρ : Reaction) (d : Database) {q : Query}

theorem answer_rows (q : Query) :
    (ρ.answer d q).2.rows = d.rows ∨ q = .closeStore ∧ (ρ.answer d q).2.rows = [] ∨
      ∃ s, q = .session s ∧ (ρ.answer d q).2.rows = (Database.perform d.rows s).2 := by
  cases q with
  | session s =>
    unfold answer
    cases ρ.fault with
    | some fault => exact .inl rfl
    | none => exact (d.run_rows s).imp_right fun eq => .inr ⟨s, rfl, eq⟩
  | enter m =>
    unfold answer
    split <;> exact .inl rfl
  | prepare =>
    unfold answer Database.prepare
    dsimp only
    split
    · exact .inl rfl
    · split
      · exact .inl rfl
      · split <;> exact .inl rfl
  | closeStore =>
    change d.close.rows = d.rows ∨ _ = _ ∧ d.close.rows = [] ∨ _
    unfold Database.close
    split
    · exact .inl rfl
    · exact .inr (.inl ⟨rfl, rfl⟩)
  | _ => exact .inl rfl

theorem answer_reads (reads : q.Reads) : (ρ.answer d q).2.rows = d.rows := by
  rcases ρ.answer_rows d q with same | ⟨rfl, _⟩ | ⟨s, rfl, eq⟩
  · exact same
  · cases reads
  · exact eq.trans (Database.perform_snd_of_reads reads)

variable {d}

theorem answer_nonneg (h : Ledger.Nonneg d.rows) (asked : q.Nonneg) :
    Ledger.Nonneg (ρ.answer d q).2.rows := by
  rcases ρ.answer_rows d q with same | ⟨_, none⟩ | ⟨s, rfl, eq⟩
  · exact same ▸ h
  · exact none ▸ fun _ hr => (List.not_mem_nil hr).elim
  · exact eq ▸ Database.perform_nonneg h asked

theorem list_subset {status : Status} {order : Option Order} {limit : Option Int} {rows : List Row}
    (done : (ρ.answer d (.session (.list (some status) order limit))).1 = .ok rows) :
    ∀ r ∈ rows, r ∈ d.rows := by
  rcases ρ.statement_cases d (s := .list (some status) order limit) rfl with
    ⟨e, eq⟩ | ⟨l, table, eq⟩
  · rw [eq] at done
    cases done
  · rw [eq] at done
    cases done
    rw [Database.rows, table]
    exact fun r hr => (Ledger.mem_list hr).1

end Reaction

open Job

theorem Store.create_nonneg (address : Option Text) (amount : Decimal) (source : Text) :
    (Store.create address amount source).Asks Query.Nonneg := by
  refine asks_bind (asks_enter trivial) fun _ => ?_
  change Job.Asks _ ((Job.ofArithmetic (amount.le .zero)).bind _)
  cases above : amount.le .zero with
  | error fault => trivial
  | ok low =>
    cases low with
    | true => trivial
    | false =>
      change Job.Asks _ (Job.now.bind _)
      refine asks_bind (asks_now trivial) fun now => ?_
      change Job.Asks _ ((Job.ofExcept (Money.toSats amount)).bind _)
      cases worth : Money.toSats amount with
      | error e => trivial
      | ok sats =>
        change Job.Asks _ ((Job.session (.insert address source sats now)).bind _)
        refine asks_bind (asks_session (Money.toSats_nonneg worth above)) fun inserted => ?_
        cases inserted with
        | ok row => trivial
        | error conflict =>
          refine asks_bind (asks_session trivial) fun found => ?_
          cases found <;> trivial

theorem StoreCall.asks_nonneg (c : StoreCall) : c.job.Asks Query.Nonneg := by
  cases c with
  | create address amount source => exact Store.create_nonneg address amount source
  | transition c =>
    refine asks_bind (asks_enter trivial) fun _ => ?_
    split
    · trivial
    · exact asks_bind (asks_now trivial) fun now => asks_session trivial
  | sweep olderThan now =>
    refine (Store.failStale_asks olderThan now).mono fun q asked => ?_
    cases q with
    | session s =>
      cases s with
      | insert => cases asked
      | _ => trivial
    | _ => trivial

namespace Traffic

/-- No payout on record is below zero, and no caller is about to add one. -/
structure Nonneg (s : Traffic) : Prop where
  rows : Ledger.Nonneg s.rows
  callers : ∀ i c, s.callers i = some c → c.job.Asks Query.Nonneg

theorem nonneg_start {d : Database} (h : Ledger.Nonneg d.rows) : Nonneg { database := d } where
  rows := h
  callers := fun _ _ here => by cases here

theorem Nonneg.step {s : Traffic} (h : s.Nonneg) (a : Act) : (s.step a).Nonneg := by
  cases a with
  | start i call =>
    unfold Traffic.step
    dsimp only
    split
    · refine ⟨h.rows, fun j c hc => ?_⟩
      change (if j = i then _ else s.callers j) = some c at hc
      split at hc
      · cases hc
        exact call.asks_nonneg
      · exact h.callers j c hc
    · exact h
  | turn i ρ =>
    change (s.turn i ρ).Nonneg
    unfold Traffic.turn
    split
    · rename_i call q next here
      obtain ⟨_, asked, rest⟩ := h.callers i _ here (ρ.answer s.database q).1
      refine ⟨ρ.answer_nonneg h.rows asked, fun j c hc => ?_⟩
      change (if j = i then some _ else s.callers j) = some c at hc
      split at hc
      · cases hc
        exact rest
      · exact h.callers j c hc
    · exact h

theorem Nonneg.steps {s : Traffic} (h : s.Nonneg) (acts : List Act) :
    (acts.foldl Traffic.step s).Nonneg := by
  induction acts generalizing s with
  | nil => exact h
  | cons a acts ih => exact ih (h.step a)

end Traffic

structure Inquiry where
  query : Query
  answer : query.Answer
  before : Ledger
  after : Ledger

/-- The store and its callers, and what one job has asked among them, the latest first. -/
structure Amid where
  traffic : Traffic
  log : List Inquiry := []

namespace Amid

def meanwhile (s : Amid) (acts : List Traffic.Act) : Amid :=
  { s with traffic := acts.foldl Traffic.step s.traffic }

def asked (s : Amid) (ρ : Reaction) (q : Query) : Amid :=
  let (r, database) := ρ.answer s.traffic.database q
  { traffic := { s.traffic with database }
    log := ⟨q, r, s.traffic.rows, database.rows⟩ :: s.log }

end Amid

namespace Job

variable {σ α : Type} {move : Machine σ} {ends : σ → Except Failure α → Prop}

/-- Runs a job amid others, who take their turns before each of its questions. -/
def playAmid (env : Nat → Reaction) (others : Nat → List Traffic.Act) :
    Job α → Amid → Except Failure α × Amid
  | .done a, s => (.ok a, s)
  | .fail e, s => (.error e, s)
  | .ask q next, s =>
    let s := s.meanwhile (others s.log.length)
    let ρ := env s.log.length
    playAmid env others (next (ρ.answer s.traffic.database q).1) (s.asked ρ q)

theorem playAmid_keeps (env : Nat → Reaction) (others : Nat → List Traffic.Act)
    {I : σ → Amid → Prop} (meanwhile : ∀ s c acts, I s c → I s (c.meanwhile acts))
    (step : ∀ s c ρ q s', I s c → move s q (ρ.answer c.traffic.database q).1 s' →
      I s' (c.asked ρ q))
    {j : Job α} {s : σ} {c : Amid} (h : j.Follows move ends s) (first : I s c) :
    ∃ s', ends s' (j.playAmid env others c).1 ∧ I s' (j.playAmid env others c).2 := by
  induction j generalizing s c with
  | done a => exact ⟨s, h, first⟩
  | fail e => exact ⟨s, h, first⟩
  | ask q next ih =>
    obtain ⟨s', hm, hn⟩ := h _
    exact ih _ hn (step s _ _ q s' (meanwhile s c _ first) hm)

end Job

end Faucet
