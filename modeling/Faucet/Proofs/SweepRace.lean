import Faucet.Proofs.Encodable
import Faucet.Proofs.Tracking

/-!
One cycle and any number of sweeps on one store that never fails. A sweep may run while the node is
asked for a payment. It then gives the payout up, and the record of what the node answered comes too
late and is not made, though the cycle counts the payout as sent. The same holds for a payment that
the node answers with an empty text. Nothing else makes a cycle lose a payment.
-/

set_option autoImplicit false

namespace Faucet

/-- A question after which every terminal record is still there. -/
def Query.Mild : Query → Prop
  | .session (.update c _) => c.source.isTerminal = false
  | .session (.insert ..) | .prepare | .closeStore => False
  | _ => True

theorem Query.mild_of_isSweep {q : Query} (h : q.isSweep) : q.Mild := by
  cases q with
  | session s =>
    cases s with
    | update c now =>
      obtain ⟨r, rfl⟩ := h
      rfl
    | insert => cases h
    | _ => trivial
  | _ => trivial

theorem Batch.Stage.Moves.mild {b : Batch} {s s' : Stage} {q : Query} {r : q.Answer}
    (m : Moves b s q r s') : q.Mild := by
  cases m with
  | claim | claimLate | claimFails => rfl
  | close past x moment payment | closeLate past x moment payment
  | closeFails past x moment payment => exact congrArg Status.isTerminal (endOf_source x payment)
  | _ => trivial

namespace Reaction

variable (ρ : Reaction) {d d' : Database} {l : Ledger}

theorem answer_mild (h : d.Holds l) (k : l.Keyed) {q : Query} (mild : q.Mild) {r : q.Answer}
    (done : ρ.answer d q = (r, d')) (i : Nat) :
    d'.Holds d'.rows ∧ Ledger.Keyed d'.rows ∧ ∀ c : Ledger.Change, c.target.isTerminal = true →
      (Note.mk i (.answered q r)).change? = some c ∨ l.Records c → Ledger.Records d'.rows c := by
  have same : ∀ t : Turn, (Note.mk i t).change? = none → d.Holds d.rows ∧ Ledger.Keyed d.rows ∧
      ∀ c : Ledger.Change, c.target.isTerminal = true →
        (Note.mk i t).change? = some c ∨ l.Records c → Ledger.Records d.rows c := by
    intro t ht
    rw [h.rows_eq, ht]
    exact ⟨h, k, fun c _ hc => hc.resolve_left nofun⟩
  have still : q.Tame → (∀ s, q ≠ .session s) → d' = d :=
    fun tame other => ρ.answer_still tame other done
  cases q with
  | session s =>
    rcases ρ.session_cases h s with ⟨e, he⟩ | hs
    · rw [he] at done
      cases done
      refine same _ ?_
      cases s <;> rfl
    · rw [hs] at done
      cases done
      cases s with
      | insert => cases mild
      | update c now =>
        refine ⟨⟨h.refusal, h.readOnly, rfl⟩, k.apply, fun c' final hc => ?_⟩
        rcases hc with hc | hc
        · have answer : (Database.perform l (.update c now)).1 = .ok (l.touches c) := rfl
          cases touched : l.touches c with
          | false =>
            rw [answer, touched] at hc
            cases hc
          | true =>
            rw [answer, touched] at hc
            cases hc
            exact Ledger.records_apply now touched
        · exact hc.apply final now mild
      | _ =>
        rw [Database.perform_snd_of_reads rfl, ← h.table]
        exact same _ rfl
  | prepare | closeStore => cases mild
  | _ =>
    obtain rfl := still trivial fun _ he => by cases he
    exact same _ rfl

end Reaction

theorem Batch.drift_of_isSweep {q : Query} (asked : q.isSweep) {ρ : Reaction} {d d' : Database}
    {l : Ledger} (hold : d.Holds l) {r : q.Answer} (done : ρ.answer d q = (r, d')) (h : List Note)
    {i p : Nat} (other : i ≠ p) : Drift p l h d'.rows (⟨i, .answered q r⟩ :: h) := by
  have silent : Drift p l h l (⟨i, .answered q r⟩ :: h) :=
    drift_of_silent l (fun own => absurd own other) fun own => absurd own other
  by_cases still : ∀ s, q ≠ .session s
  · rw [ρ.answer_still (Query.tame_of_isSweep asked) still done, hold.rows_eq]
    exact silent
  · obtain ⟨s, hs⟩ := Classical.not_forall.mp still
    obtain rfl := Classical.not_not.mp hs
    rcases ρ.session_cases hold s with ⟨e, he⟩ | hs
    · rw [he] at done
      cases done
      rw [hold.rows_eq]
      exact silent
    · cases s with
      | update c now =>
        obtain ⟨x, rfl⟩ := asked
        match r with
        | .error e =>
          rw [hs] at done
          cases done
        | .ok true =>
          rw [(ρ.update_ok hold done).2]
          exact drift_of_sweep l now other rfl
        | .ok false =>
          obtain ⟨untouched, same⟩ := ρ.update_ok hold done
          rw [same, Ledger.apply_of_not_touches untouched.symm]
          exact silent
      | stale cutoff =>
        rw [hs] at done
        cases done
        exact silent
      | _ => cases asked

namespace Crowd

/-- One process runs a cycle, and all others sweep. -/
def Act.OneCycle (p : Nat) (b : Batch) : Act → Prop
  | .start i (.cycle b') => i = p ∧ b' = b
  | .start i (.sweep ..) => i ≠ p
  | .start _ (.submit ..) => False
  | _ => True

def ended? (s : Crowd) (p : Nat) : Option (Option CycleReport) :=
  match s.processes p with
  | some ⟨.cycle _, .ready (.done report)⟩ => some (some report)
  | some ⟨.cycle _, .ready (.fail _)⟩ => some none
  | _ => none

open Batch

def Attends (l : Ledger) (h : List Note) (i : Nat) : Process → Prop
  | ⟨.sweep .., .ready j⟩ => j.Asks Query.isSweep
  | ⟨.cycle b, .ready j⟩ =>
    ∃ s : Stage, j.Follows (Stage.Moves b) Stage.Ends s ∧ s.Tracks b l h i
  | ⟨.cycle b, .calling c next⟩ => ∃ s : Stage,
      (∀ r, ∃ s', Stage.Moves b s (.wallet c) r s' ∧
        (next r).Follows (Stage.Moves b) Stage.Ends s') ∧ s.Tracks b l h i
  | ⟨_, .gone⟩ => True
  | _ => False

theorem Attends.drift {l l' : Ledger} {h h' : List Note} {i : Nat} {pr : Process}
    (a : Attends l h i pr) (d : ∀ b, pr.work = .cycle b → Drift i l h l' h') :
    Attends l' h' i pr := by
  obtain ⟨w, standing⟩ := pr
  cases w with
  | submit =>
    cases standing with
    | gone => trivial
    | ready | calling => cases a
  | sweep =>
    cases standing with
    | ready job => exact a
    | gone => trivial
    | calling => cases a
  | cycle b =>
    cases standing with
    | ready job =>
      obtain ⟨s, follows, t⟩ := a
      exact ⟨s, follows, t.drift (d b rfl)⟩
    | calling c next =>
      obtain ⟨s, follows, t⟩ := a
      exact ⟨s, follows, t.drift (d b rfl)⟩
    | gone => trivial

structure Watched (p : Nat) (b : Batch) (s : Crowd) : Prop where
  holds : s.database.Holds s.rows
  keyed : s.rows.Keyed
  records : ∀ n ∈ s.history, ∀ c, n.change? = some c → c.target.isTerminal = true → s.rows.Records c
  noted : ∀ n ∈ s.history, s.workOf? n.process ≠ none
  alone : ∀ i w, s.workOf? i = some w →
    (i = p ∧ w = .cycle b) ∨ (i ≠ p ∧ ∃ olderThan now, w = .sweep olderThan now)
  attends : ∀ i pr, s.processes i = some pr → Attends s.rows s.history i pr

namespace Watched

variable {p : Nat} {b : Batch} {s : Crowd}

theorem not_cycle (w : s.Watched p b) {i : Nat} {pr : Process} (here : s.processes i = some pr)
    (other : i ≠ p) (b' : Batch) : pr.work ≠ .cycle b' := by
  intro he
  rcases w.alone i _ (workOf?_of_here here) with ⟨same, _⟩ | ⟨_, o, n, hw⟩
  · exact other same
  · cases he.symm.trans hw

theorem cycle_eq (w : s.Watched p b) {pr : Process} (here : s.processes p = some pr) {b' : Batch}
    (work : pr.work = .cycle b') : b' = b := by
  rcases w.alone p _ (workOf?_of_here here) with ⟨_, same⟩ | ⟨other, _⟩
  · exact Work.cycle.inj (work.symm.trans same)
  · exact absurd rfl other

theorem noting (w : s.Watched p b) {i : Nat} {work : Work}
    {standing standing' : Standing work.Result} {turn : Turn} {d : Database}
    (here : s.processes i = some ⟨work, standing⟩) (holds : d.Holds d.rows)
    (keyed : Ledger.Keyed d.rows)
    (records : ∀ c : Ledger.Change, c.target.isTerminal = true →
      (Note.mk i turn).change? = some c ∨ s.rows.Records c → Ledger.Records d.rows c)
    (own : Attends d.rows (⟨i, turn⟩ :: s.history) i ⟨work, standing'⟩)
    (drift : i ≠ p → Drift p s.rows s.history d.rows (⟨i, turn⟩ :: s.history)) :
    Watched p b { (s.put i ⟨work, standing'⟩).note i turn with database := d } := by
  have works : ∀ j, (s.put i ⟨work, standing'⟩).workOf? j = s.workOf? j :=
    workOf?_put_of_here here rfl
  refine ⟨holds, keyed, fun n hn c hc final => ?_, fun n hn => ?_, fun j w' hw => ?_,
    fun j pr hj => ?_⟩
  · rcases List.mem_cons.mp hn with rfl | hn
    · exact records c final (.inl hc)
    · exact records c final (.inr (w.records n hn c hc final))
  · change (s.put i ⟨work, standing'⟩).workOf? n.process ≠ none
    rw [works]
    rcases List.mem_cons.mp hn with rfl | hn
    · rw [workOf?_of_here here]
      exact nofun
    · exact w.noted n hn
  · exact w.alone j w' ((works j).symm.trans hw)
  · change (if j = i then some _ else s.processes j) = some pr at hj
    split at hj
    · subst j
      cases hj
      exact own
    · rename_i other
      refine (w.attends j pr hj).drift fun b' hb => ?_
      have same : j = p := by
        by_contra elsewhere
        exact w.not_cycle hj elsewhere b' hb
      subst same
      exact drift fun e => other e.symm

theorem put (w : s.Watched p b) {i : Nat} {pr : Process}
    (sole : (i = p ∧ pr.work = .cycle b) ∨
      (i ≠ p ∧ ∃ olderThan now, pr.work = .sweep olderThan now))
    (attends : Attends s.rows s.history i pr) : (s.put i pr).Watched p b := by
  refine ⟨w.holds, w.keyed, w.records, fun n hn => ?_, fun j w' hw => ?_, fun j pr' hj => ?_⟩
  · rw [workOf?_put]
    split
    · exact nofun
    · exact w.noted n hn
  · rw [workOf?_put] at hw
    split at hw
    · rename_i same
      cases hw
      exact same ▸ sole
    · exact w.alone j w' hw
  · change (if j = i then some pr else s.processes j) = some pr' at hj
    split at hj
    · subst j
      cases hj
      exact attends
    · exact w.attends j pr' hj

theorem started (w : s.Watched p b) {i : Nat} {work : Work} (free : s.processes i = none)
    (one : (Act.start i work).OneCycle p b) : (s.put i ⟨work, .ready work.job⟩).Watched p b := by
  have unworked : s.workOf? i = none := by
    rw [workOf?, free]
    rfl
  have unnoted : ∀ n ∈ s.history, n.process ≠ i := fun n hn he => w.noted n hn (he ▸ unworked)
  cases work with
  | submit => cases one
  | sweep olderThan now =>
    exact w.put (.inr ⟨one, olderThan, now, rfl⟩)
      (Store.failStale_asks olderThan now)
  | cycle b' =>
    obtain ⟨rfl, rfl⟩ := one
    refine w.put (.inl ⟨rfl, rfl⟩) ⟨.listing, b'.cycle_follows, ?_, ?_⟩
    · rintro rows ⟨n, hn, own, _⟩
      exact unnoted n hn own
    · rintro outputs txid ⟨n, hn, own, _⟩
      exact unnoted n hn own

theorem called (w : s.Watched p b) {i : Nat} {work : Work} {c : WalletCall}
    {next : Except Failure c.Answer → Job work.Result}
    (here : s.processes i = some ⟨work, .ready (.ask (.wallet c) next)⟩) :
    ((s.put i ⟨work, .calling c next⟩).note i (.called c)).Watched p b := by
  have attends := w.attends i _ here
  have silent : ∀ j, Drift j s.rows s.history s.rows (⟨i, .called c⟩ :: s.history) :=
    fun j => drift_of_silent s.rows (fun _ => rfl) fun _ => rfl
  cases work with
  | submit => cases attends
  | sweep =>
    obtain ⟨_, asked, _⟩ := attends (.error (.faucet []))
    cases asked
  | cycle b' =>
    obtain ⟨st, follows, t⟩ := attends
    exact w.noting here w.holds w.keyed (fun c' _ hc => hc.resolve_left nofun)
      ⟨st, follows, t.drift (silent i)⟩ fun _ => silent p

theorem returned (w : s.Watched p b) {i : Nat} {work : Work} {c : WalletCall}
    {next : Except Failure c.Answer → Job work.Result} (r : Except Failure c.Answer)
    (here : s.processes i = some ⟨work, .calling c next⟩) :
    ((s.put i ⟨work, .ready (next r)⟩).note i (.answered (.wallet c) r)).Watched p b := by
  have attends := w.attends i _ here
  cases work with
  | submit | sweep => cases attends
  | cycle b' =>
    obtain ⟨st, all, t⟩ := attends
    obtain ⟨st', m, follows⟩ := all r
    refine w.noting here w.holds w.keyed (fun c' _ hc => hc.resolve_left nofun)
      ⟨st', follows, t.returned m⟩ fun other => ?_
    exact absurd rfl (w.not_cycle here other b')

theorem answered (w : s.Watched p b) {i : Nat} {work : Work} {ρ : Reaction} {q : Query}
    {next : q.Answer → Job work.Result} {r : q.Answer} {d : Database}
    (here : s.processes i = some ⟨work, .ready (.ask q next)⟩) (atOnce : ∀ c, q ≠ .wallet c)
    (done : ρ.answer s.database q = (r, d))
    (healthy : (Note.mk i (.answered q r)).storeFails = false) :
    Watched p b
      { (s.put i ⟨work, .ready (next r)⟩).note i (.answered q r) with database := d } := by
  have attends := w.attends i _ here
  cases work with
  | submit => cases attends
  | sweep olderThan now =>
    obtain ⟨_, asked, follows⟩ := attends r
    obtain ⟨holds, keyed, records⟩ :=
      ρ.answer_mild w.holds w.keyed (Query.mild_of_isSweep asked) done i
    exact w.noting here holds keyed records follows (drift_of_isSweep asked w.holds done s.history)
  | cycle b' =>
    obtain ⟨st, follows, t⟩ := attends
    obtain ⟨st', m, follows'⟩ := follows r
    obtain ⟨holds, keyed, records⟩ := ρ.answer_mild w.holds w.keyed m.mild done i
    refine w.noting here holds keyed records
      ⟨st', follows', t.answered w.keyed m atOnce w.holds done healthy⟩ fun other => ?_
    exact absurd rfl (w.not_cycle here other b')

theorem moved (w : s.Watched p b) {a : Act} {s' : Crowd} (m : s.Moved a s')
    (one : a.OneCycle p b) (healthy : ∀ n ∈ s'.history, n.storeFails = false) :
    s'.Watched p b := by
  cases m with
  | still => exact w
  | started i work free => exact w.started free one
  | quit i pr here =>
    have sole := w.alone i _ (workOf?_of_here here)
    refine w.put sole ?_
    cases pr.work <;> trivial
  | called i ρ work c next here => exact w.called here
  | answered i ρ work q next r d here atOnce done =>
    exact w.answered here atOnce done (healthy _ List.mem_cons_self)
  | returned i ρ work c next here => exact w.returned _ here

end Watched

theorem watched_run {d : Database} {l : Ledger} (hold : d.Holds l) (k : l.Keyed) {p : Nat}
    {b : Batch} {acts : List Act} (one : ∀ a ∈ acts, a.OneCycle p b)
    (healthy : ∀ n ∈ (run d acts).history, n.storeFails = false) :
    (run d acts).Watched p b := by
  refine run_keeps (I := fun s => (∀ n ∈ s.history, n.storeFails = false) → s.Watched p b)
    (fun _ => ?_) (fun s a s' ha w m healthy => ?_) healthy
  · obtain rfl : d.rows = l := hold.rows_eq
    refine ⟨hold, k, ?_, ?_, ?_, ?_⟩
    · exact fun _ hn => (List.not_mem_nil hn).elim
    · exact fun _ hn => (List.not_mem_nil hn).elim
    · exact fun _ _ hw => by cases hw
    · exact fun _ _ hp => by cases hp
  · exact (w fun n hn => healthy n (m.history_subset hn)).moved m (one a ha) healthy

end Crowd

/-! ### What a cycle loses -/

theorem countP_eq_of_imp {α : Type} {p q : α → Bool} {l : List α}
    (imp : ∀ x, p x = true → q x = true) (same : l.countP q = l.countP p) :
    ∀ x ∈ l, q x = true → p x = true := by
  intro x hx hq
  have kept : l.filter p = l.filter q := by
    refine (List.monotone_filter_right l imp).eq_of_length ?_
    rw [← List.countP_eq_length_filter, ← List.countP_eq_length_filter, same]
  have both : x ∈ l.filter p := kept ▸ List.mem_filter.mpr ⟨hx, hq⟩
  exact (List.mem_filter.mp both).2

namespace Batch

def Episode.isRecorded : Episode → Bool
  | .closed _ _ (.ok _) (.done _) => true
  | _ => false

theorem Episode.isSent_of_isRecorded {e : Episode} (h : e.isRecorded = true) : e.isSent = true := by
  unfold isRecorded at h
  split at h
  · rfl
  · cases h

section
variable {l : Ledger} {h : List Note} {p : Nat} (k : l.Keyed)
  (records : ∀ n ∈ h, ∀ c, n.change? = some c → c.target.isTerminal = true → l.Records c)
include records

theorem stands_failed_of_swept {r : Row} (swept : Swept h p r) : l.Stands r.id .failed := by
  obtain ⟨n, hn, _, hc⟩ := swept
  obtain ⟨t, ht, hid, hs, _⟩ := records n hn _ hc rfl
  exact ⟨t, ht, hid, hs⟩

include k

theorem Held.not_broadcast {r : Row} (held : Held l h p r) : ¬l.Stands r.id .broadcast := by
  intro stands
  rcases held with held | held
  · cases k.status_eq stands held
  · cases k.status_eq stands (stands_failed_of_swept records held)

theorem Accounted.broadcast_iff {e : Episode} (a : Accounted l h p e) :
    l.Stands e.row.id .broadcast ↔ e.isRecorded = true := by
  cases e with
  | passed r cause => cases a
  | closed r moment payment closing =>
    cases closing with
    | late => exact ⟨fun stands => absurd stands (Held.not_broadcast k records (.inr a)), by
        cases payment <;> exact nofun⟩
    | barred fault => exact ⟨fun stands => absurd stands (Held.not_broadcast k records a.1), by
        cases payment <;> exact nofun⟩
    | refused e => exact a.elim
    | done now =>
      obtain ⟨⟨n, hn, _, hc⟩, _⟩ := a
      cases payment with
      | ok txid =>
        obtain ⟨t, ht, hid, hs, _⟩ := records n hn _ hc rfl
        exact ⟨fun _ => rfl, fun _ => ⟨t, ht, hid, hs⟩⟩
      | error e =>
        obtain ⟨t, ht, hid, hs, _⟩ := records n hn _ hc rfl
        refine ⟨fun stands => ?_, nofun⟩
        cases k.status_eq stands ⟨t, ht, hid, hs⟩

end

/-! A batch that is dealt with. -/

section
variable {b : Batch} {l : Ledger} {h : List Note} {p : Nat} {past : List Episode}
  (t : View.Tracks b l h p ⟨past, none, none, []⟩) {rows : List Row} (listed : Listed h p rows)
include t listed

theorem View.Tracks.rows_eq : rows = past.map Episode.row := by
  rw [t.batch rows listed, View.batch, Option.toList_none, List.append_nil, List.append_nil]

theorem View.Tracks.countP_broadcast (k : l.Keyed) (records : ∀ n ∈ h, ∀ c, n.change? = some c →
    c.target.isTerminal = true → l.Records c) :
    rows.countP (fun r => decide (l.Stands r.id .broadcast)) = past.countP Episode.isRecorded := by
  rw [t.rows_eq listed, List.countP_map]
  refine List.countP_congr fun e he => ?_
  rw [Function.comp_apply, decide_eq_true_iff]
  exact (t.accounted e he).broadcast_iff k records

/-- The addresses of a batch tell which of its payouts a returned transaction belongs to. -/
theorem View.Tracks.paid_of_returned {r : Row} (hr : r ∈ rows) {outputs : Outputs} {txid : Text}
    (ho : b.outputs r = .ok outputs) (returned : Returned h p outputs txid) :
    ∃ moment closing, .closed r moment (.ok txid) closing ∈ past := by
  obtain ⟨r', (⟨hx, _⟩ | ⟨m, closing, he⟩), ho'⟩ := (t.paid outputs txid).mp returned
  · cases hx
  · have mem : r' ∈ rows := t.rows_eq listed ▸ List.mem_map.mpr ⟨_, he, rfl⟩
    have addresses : (rows.map Row.address).Nodup := t.batch rows listed ▸ t.addresses
    obtain rfl := List.inj_on_of_nodup_map addresses mem hr (outputs_address ho' ho)
    exact ⟨m, closing, he⟩

theorem View.Tracks.returned_of_paid {r : Row} {moment : Moment} {txid : Text} {closing : Closing}
    (he : .closed r moment (.ok txid) closing ∈ past) :
    r ∈ rows ∧ ∃ outputs, b.outputs r = .ok outputs ∧ Returned h p outputs txid := by
  have paid : View.Paid ⟨past, none, none, []⟩ r txid := .inr ⟨moment, closing, he⟩
  obtain ⟨outputs, ho⟩ := t.handed r txid paid
  exact ⟨t.rows_eq listed ▸ List.mem_map.mpr ⟨_, he, rfl⟩, outputs, ho,
    (t.paid outputs txid).mpr ⟨r, paid, ho⟩⟩

end

end Batch

namespace Crowd

open Batch

variable (s : Crowd) (p : Nat) (b : Batch)

/-- Every payout for which the node returned a transaction is broadcast with it, and a report counts
exactly the payouts that are broadcast. -/
def Keeps (report? : Option CycleReport) : Prop :=
  ∀ rows, Listed s.history p rows →
    (∀ r ∈ rows, ∀ outputs txid, b.outputs r = .ok outputs → Returned s.history p outputs txid →
      txid ≠ [] → ∃ t ∈ s.rows, t.id = r.id ∧ t.status = .broadcast ∧ t.txid = some txid) ∧
    ∀ report, report? = some report →
      report.sent = rows.countP fun r => decide (s.rows.Stands r.id .broadcast)

/-- No transaction that the node returned has an empty text, and no payout is given up for which it
returned one. -/
def Undisturbed : Prop :=
  ∀ rows, Listed s.history p rows → ∀ r ∈ rows, ∀ outputs txid, b.outputs r = .ok outputs →
    Returned s.history p outputs txid → txid ≠ [] ∧ ¬Swept s.history p r

variable {s p b}

theorem undisturbed_of_unpaid (unpaid : ∀ outputs txid, ¬Returned s.history p outputs txid) :
    s.Undisturbed p b :=
  fun _ _ _ _ outputs txid _ returned => absurd returned (unpaid outputs txid)

theorem Watched.keeps_of_finished (w : s.Watched p b) {report : CycleReport}
    (waits : ∀ rows, Listed s.history p rows → ∀ r ∈ rows, s.rows.Stands r.id .pending)
    (unpaid : ∀ outputs txid, ¬Returned s.history p outputs txid) (sent : report.sent = 0) :
    s.Keeps p b (some report) := by
  intro rows listed
  refine ⟨fun r _ outputs txid _ returned => absurd returned (unpaid outputs txid), ?_⟩
  rintro _ ⟨⟩
  rw [sent, List.countP_eq_zero.mpr]
  · rfl
  · intro r hr stands
    cases w.keyed.status_eq (of_decide_eq_true stands) (waits rows listed r hr)

theorem Watched.undisturbed_of_keeps (w : s.Watched p b) {past : List Episode}
    (t : View.Tracks b s.rows s.history p ⟨past, none, none, []⟩)
    (keeps : s.Keeps p b (some (tally past))) : s.Undisturbed p b := by
  intro rows listed r hr outputs txid ho returned
  obtain ⟨m, closing, he⟩ := t.paid_of_returned listed hr ho returned
  -- Where the report counts what is broadcast, no payment was sent without being recorded.
  have same : past.countP Episode.isSent = past.countP Episode.isRecorded := by
    have sent := (keeps rows listed).2 _ rfl
    rw [t.countP_broadcast listed w.keyed w.records] at sent
    exact Int.ofNat_inj.mp sent
  have recorded := countP_eq_of_imp (fun _ => Episode.isSent_of_isRecorded) same _ he rfl
  have a := t.accounted _ he
  cases closing with
  | done now =>
    refine ⟨(permit_endOf r (.ok txid)).mp a.2, fun swept => ?_⟩
    have broadcast := (a.broadcast_iff w.keyed w.records).mpr rfl
    cases w.keyed.status_eq broadcast (stands_failed_of_swept w.records swept)
  | late | barred | refused => cases recorded

theorem Undisturbed.recorded_of_sent (undisturbed : s.Undisturbed p b) {past : List Episode}
    (t : View.Tracks b s.rows s.history p ⟨past, none, none, []⟩) {rows : List Row}
    (listed : Listed s.history p rows) {e : Episode} (he : e ∈ past) (sent : e.isSent = true) :
    e.isRecorded = true := by
  cases e with
  | passed => cases sent
  | closed r m payment closing =>
    cases payment with
    | error e => cases sent
    | ok txid =>
      obtain ⟨hr, outputs, ho, returned⟩ := t.returned_of_paid listed he
      obtain ⟨filled, unswept⟩ := undisturbed rows listed r hr outputs txid ho returned
      have a := t.accounted _ he
      cases closing with
      | done now => rfl
      | late => exact absurd a unswept
      | barred fault => exact absurd ((permit_endOf r (.ok txid)).mpr filled) a.2
      | refused e => exact a.elim

theorem Watched.keeps_of_undisturbed (w : s.Watched p b) {past : List Episode}
    (t : View.Tracks b s.rows s.history p ⟨past, none, none, []⟩)
    (undisturbed : s.Undisturbed p b) : s.Keeps p b (some (tally past)) := by
  intro rows listed
  refine ⟨fun r hr outputs txid ho returned _ => ?_, ?_⟩
  · obtain ⟨m, closing, he⟩ := t.paid_of_returned listed hr ho returned
    have recorded := undisturbed.recorded_of_sent t listed he rfl
    cases closing with
    | done now =>
      obtain ⟨⟨n, hn, _, hc⟩, _⟩ := t.accounted _ he
      obtain ⟨u, hu, hid, hs, htx⟩ := w.records n hn _ hc rfl
      exact ⟨u, hu, hid, hs, htx txid rfl⟩
    | late | barred | refused => cases recorded
  · rintro _ ⟨⟩
    rw [t.countP_broadcast listed w.keyed w.records]
    refine congrArg Int.ofNat (List.countP_congr fun e he => ?_)
    exact ⟨undisturbed.recorded_of_sent t listed he, Episode.isSent_of_isRecorded⟩

/-- For every table, one cycle and any sweeps on a store that does not fail, in any order: when the
cycle has ended, it has kept every payment just if no transaction had an empty text and no sweep
gave up a payout for which the node returned one. -/
theorem keeps_iff_undisturbed {d : Database} {l : Ledger} (hold : d.Holds l) (k : l.Keyed)
    {acts : List Act} (one : ∀ a ∈ acts, a.OneCycle p b)
    (healthy : ∀ n ∈ (run d acts).history, n.storeFails = false) {report? : Option CycleReport}
    (ended : (run d acts).ended? p = some report?) :
    (run d acts).Keeps p b report? ↔ (run d acts).Undisturbed p b := by
  have w := watched_run hold k one healthy
  generalize run d acts = s at w ended
  unfold ended? at ended
  split at ended
  · rename_i b' report here
    cases ended
    have same := w.cycle_eq here rfl
    subst same
    obtain ⟨st, ends, t⟩ := w.attends p _ here
    cases st with
    | finished report' =>
      obtain rfl : report = report' := ends
      obtain ⟨waits, unpaid, sent⟩ := t
      exact iff_of_true (w.keeps_of_finished waits unpaid sent) (undisturbed_of_unpaid unpaid)
    | ready past rest =>
      cases rest with
      | nil =>
        obtain rfl : report = tally past := ends
        exact ⟨w.undisturbed_of_keeps t, w.keeps_of_undisturbed t⟩
      | cons => cases ends
    | listing | listed | claiming | claimed | calling | paid | closing | raised => cases ends
  · rename_i b' e here
    cases ended
    obtain ⟨st, ends, t⟩ := w.attends p _ here
    cases st with
    | raised before e' =>
      refine iff_of_true (fun rows _ => ⟨fun r _ outputs txid _ returned => ?_, nofun⟩)
        (undisturbed_of_unpaid t)
      exact absurd returned (t outputs txid)
    | ready past rest => cases rest <;> cases ends
    | listing | listed | claiming | claimed | calling | paid | closing | finished => cases ends
  · cases ended

def raceRow : Row :=
  { id := 1, address := "tb1qdestination", source := [], sats := 200000, status := .pending
    txid := none, error := none, created := 0, updated := 0 }

def raceStore : Database := { table := some [raceRow] }

def raceBatch : Batch := { size := 1, memo := [] }

def raceAt (clock : Moment) : Reaction :=
  { clock, reply := .error (.faucet []), number := 0, purse := .zero
    wallet := fun
      | .balances => .ok { trusted := .finite false 1 0 }
      | .broadcast .. => .ok ("aa" : Text)
      | _ => .error (.faucet []) }

def race : List Act :=
  [.start 0 (.cycle raceBatch)] ++ List.replicate 12 (.turn 0 (raceAt 0)) ++
    [.start 1 (.sweep 0 none)] ++ List.replicate 8 (.turn 1 (raceAt 1)) ++
    List.replicate 12 (.turn 0 (raceAt 2))

theorem race_holds : raceStore.Holds [raceRow] := ⟨rfl, rfl, rfl⟩

theorem race_keyed : Ledger.Keyed [raceRow] :=
  ⟨List.nodup_singleton raceRow.id, List.nodup_singleton raceRow.address⟩

theorem race_oneCycle : ∀ a ∈ race, a.OneCycle 0 raceBatch := by
  intro a ha
  simp only [race, List.mem_append, List.mem_singleton, List.mem_replicate] at ha
  obtain (((rfl | ⟨_, rfl⟩) | rfl) | ⟨_, rfl⟩) | ⟨_, rfl⟩ := ha
  · exact ⟨rfl, rfl⟩
  · trivial
  · exact Nat.one_ne_zero
  · trivial
  · trivial

theorem race_healthy : ∀ n ∈ (run raceStore race).history, n.storeFails = false := by
  decide +kernel

theorem race_ended : (run raceStore race).ended? 0 = some (some { size := 1, sent := 1 }) := by
  decide +kernel

/-- The sweep gives up the payout that the node is paying, and the cycle reports it as sent. -/
theorem sweep_loses_payment :
    (∀ a ∈ race, a.OneCycle 0 raceBatch) ∧
      (∀ n ∈ (run raceStore race).history, n.storeFails = false) ∧
      (run raceStore race).ended? 0 = some (some { size := 1, sent := 1 }) ∧
      (run raceStore race).rows.map Row.status = [.failed] ∧
      ¬(run raceStore race).Keeps 0 raceBatch (some { size := 1, sent := 1 }) := by
  refine ⟨race_oneCycle, race_healthy, race_ended, by decide +kernel, fun keeps => ?_⟩
  have listed : Listed (run raceStore race).history 0 [raceRow] := by decide +kernel
  have sent := (keeps [raceRow] listed).2 _ rfl
  revert sent
  decide +kernel

theorem keeps_iff_undisturbed_race :
    raceStore.Holds [raceRow] ∧ Ledger.Keyed [raceRow] ∧ (∀ a ∈ race, a.OneCycle 0 raceBatch) ∧
      (∀ n ∈ (run raceStore race).history, n.storeFails = false) ∧
      (run raceStore race).ended? 0 = some (some { size := 1, sent := 1 }) ∧
      ((run raceStore race).Keeps 0 raceBatch (some { size := 1, sent := 1 }) ↔
        (run raceStore race).Undisturbed 0 raceBatch) :=
  ⟨race_holds, race_keyed, race_oneCycle, race_healthy, race_ended,
    keeps_iff_undisturbed race_holds race_keyed race_oneCycle race_healthy race_ended⟩

end Crowd

end Faucet
