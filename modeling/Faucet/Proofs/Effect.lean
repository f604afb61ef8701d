import Faucet.Proofs.Spending

/-!
The table as a function of the stage. With no other writer, what a cycle has made of the rows is
told by the stage alone: each episode settles the row of its payout and leaves all others as they
are.
-/

set_option autoImplicit false

namespace Faucet.Batch

def claimRow (r : Row) (moment : Moment) (t : Row) : Row :=
  if t.id = r.id then (claimOf r).row moment t else t

def endRow (r : Row) (payment : Except Failure Text) (moment : Moment) (t : Row) : Row :=
  if t.id = r.id then (endOf r payment).row moment t else t

def Episode.settle : Episode → Row → Row
  | .passed .., t => t
  | .closed r claimed payment (.done moment), t => endRow r payment moment (claimRow r claimed t)
  | .closed r claimed _ _, t => claimRow r claimed t

def settleAll (past : List Episode) (t : Row) : Row := past.foldl (fun t e => e.settle t) t

/-- What a cycle has made of a row so far. -/
def Stage.settle : Stage → Row → Row
  | .listing | .listed .. | .finished _ => id
  | .ready past _ | .claiming past _ _ => settleAll past
  | .claimed past r moment _ | .calling past r moment _ _ | .paid past r moment _ _
  | .closing past r moment _ _ => fun t => claimRow r moment (settleAll past t)
  | .raised before _ => before.settle

theorem claimRow_id (r : Row) (moment : Moment) (t : Row) : (claimRow r moment t).id = t.id := by
  unfold claimRow
  split <;> rfl

theorem endRow_id (r : Row) (payment : Except Failure Text) (moment : Moment) (t : Row) :
    (endRow r payment moment t).id = t.id := by
  unfold endRow
  split <;> rfl

theorem Episode.settle_id (e : Episode) (t : Row) : (e.settle t).id = t.id := by
  cases e with
  | passed => rfl
  | closed r claimed payment closing =>
    cases closing with
    | done moment => exact (endRow_id _ _ _ _).trans (claimRow_id _ _ _)
    | late | barred | refused => exact claimRow_id _ _ _

theorem Episode.settle_other {e : Episode} {t : Row} (h : e.row.id ≠ t.id) : e.settle t = t := by
  cases e with
  | passed => rfl
  | closed r claimed payment closing =>
    have claim : claimRow r claimed t = t := if_neg fun he => h he.symm
    cases closing with
    | done moment =>
      unfold settle
      dsimp only
      rw [claim]
      exact if_neg fun he => h he.symm
    | late | barred | refused => exact claim

theorem settleAll_append (past : List Episode) (e : Episode) (t : Row) :
    settleAll (past ++ [e]) t = e.settle (settleAll past t) := by
  unfold settleAll
  rw [List.foldl_append]
  rfl

theorem settleAll_id (past : List Episode) (t : Row) : (settleAll past t).id = t.id := by
  induction past generalizing t with
  | nil => rfl
  | cons e past ih => exact (ih _).trans (e.settle_id t)

theorem settleAll_other {past : List Episode} {t : Row} (h : ∀ e ∈ past, e.row.id ≠ t.id) :
    settleAll past t = t := by
  induction past with
  | nil => rfl
  | cons e past ih =>
    change settleAll past (e.settle t) = t
    rw [Episode.settle_other (h e List.mem_cons_self)]
    exact ih fun e' he' => h e' (List.mem_cons_of_mem e he')

theorem settleAll_of_mem {past : List Episode} (nodup : (past.map fun e => e.row.id).Nodup)
    {e : Episode} (he : e ∈ past) {t : Row} (ht : e.row.id = t.id) :
    settleAll past t = e.settle t := by
  induction past generalizing t with
  | nil => cases he
  | cons e' past ih =>
    obtain ⟨fresh, nodup⟩ := List.nodup_cons.mp nodup
    change settleAll past (e'.settle t) = e.settle t
    rcases List.mem_cons.mp he with rfl | he
    · refine settleAll_other fun e' he' same => fresh ?_
      rw [Episode.settle_id, ← ht] at same
      exact List.mem_map.mpr ⟨e', he', same⟩
    · have other : e'.row.id ≠ t.id := fun same =>
        fresh (List.mem_map.mpr ⟨e, he, ht.trans same.symm⟩)
      rw [Episode.settle_other other]
      exact ih nodup he ht

namespace Stage

theorem settle_id (s : Stage) (t : Row) : (s.settle t).id = t.id := by
  induction s with
  | listing | listed | finished => rfl
  | ready past | claiming past => exact settleAll_id past t
  | claimed past r moment | calling past r moment | paid past r moment | closing past r moment =>
    exact (claimRow_id r moment _).trans (settleAll_id past t)
  | raised before e ih => exact ih

theorem settle_unlisted (e : Failure) : (unlisted e).settle = id :=
  unlisted_cases e (fun _ => rfl) rfl

theorem settle_ofRows (rows : List Row) : (ofRows rows).settle = id :=
  ofRows_cases rows (fun _ => rfl) (fun _ => rfl) fun _ => rfl

theorem settle_ofBalances (rows : List Row) (needed : Decimal)
    (answer : Except Failure Balances) : (ofBalances rows needed answer).settle = id :=
  ofBalances_cases rows needed answer (fun _ _ => rfl) (fun _ => rfl) rfl

theorem settle_unclaimed (past : List Episode) (r : Row) (rest : List Row) (e : Failure) :
    (unclaimed past r rest e).settle = settleAll past := by
  refine unclaimed_cases past r rest e ?_ rfl
  exact funext fun t => settleAll_append past (.passed r (some e)) t

theorem settle_unclosed (past : List Episode) (r : Row) (moment : Moment)
    (payment : Except Failure Text) (rest : List Row) (e : Failure) :
    (unclosed past r moment payment rest e).settle =
      fun t => claimRow r moment (settleAll past t) := by
  refine unclosed_cases past r moment payment rest e ?_ rfl
  exact funext fun t => settleAll_append past (.closed r moment payment (.refused e)) t

theorem settle_ofPayment (b : Batch) (past : List Episode) (r : Row) (moment : Moment)
    (rest : List Row) :
    (ofPayment b past r moment rest).settle = fun t => claimRow r moment (settleAll past t) :=
  ofPayment_cases past r moment rest (fun _ _ => rfl) fun _ _ => rfl

theorem settle_ofEntry (past : List Episode) (r : Row) (moment : Moment)
    (payment : Except Failure Text) (rest : List Row) :
    (ofEntry past r moment payment rest).settle =
      fun t => claimRow r moment (settleAll past t) := by
  refine ofEntry_cases past r moment payment rest (fun fault _ => ?_) fun _ => rfl
  exact funext fun t => settleAll_append past (.closed r moment payment (.barred fault)) t

theorem Moves.settle_eq {b : Batch} {s s' : Stage} {q : Query} {r : q.Answer} (m : Moves b s q r s')
    (h : ∀ c now, q ≠ .session (.update c now)) : s'.settle = s.settle := by
  cases m with
  | log | notify | enterList | enterClaim | claimClock | call | endClock => rfl
  | enterListFails e | listFails e => exact settle_unlisted e
  | list rows => exact settle_ofRows rows
  | balances rows needed answer => exact settle_ofBalances rows needed answer
  | enterClaimFails past x rest e | claimClockFails past x rest e =>
    exact settle_unclaimed past x rest e
  | payment past x moment rest => exact settle_ofPayment b past x moment rest
  | enterEnd past x moment payment rest => exact settle_ofEntry past x moment payment rest
  | enterEndFails past x moment payment rest e | endClockFails past x moment payment rest e =>
    exact settle_unclosed past x moment payment rest e
  | claim | claimLate | claimFails | close | closeLate | closeFails => exact absurd rfl (h _ _)

theorem apply_map {l : Ledger} (k : l.Keyed) {f : Row → Row} (hf : ∀ t, (f t).id = t.id)
    {c : Ledger.Change} (now : Moment) (touched : Ledger.touches (l.map f) c = true) :
    Ledger.apply (l.map f) c now =
      l.map fun t => if (f t).id = c.id then c.row now (f t) else f t := by
  obtain ⟨u, hu, huid, hus⟩ := (Ledger.touches_iff _ c).mp touched
  obtain ⟨v, hv, rfl⟩ := List.mem_map.mp hu
  unfold Ledger.apply
  rw [List.map_map]
  refine List.map_congr_left fun t ht => ?_
  dsimp only [Function.comp]
  by_cases same : (f t).id = c.id
  · have : t = v := k.eq_of_id ht hv ((hf t).symm.trans (same.trans (huid.symm.trans (hf v))))
    subst this
    rw [if_pos same, if_pos ((Ledger.applies_iff c).mpr ⟨same, hus⟩)]
  · rw [if_neg same, if_neg fun ha => same ((Ledger.applies_iff c).mp ha).1]

theorem Moves.settle_update {b : Batch} {s s' : Stage} {c : Ledger.Change} {now : Moment}
    {r : Except Failure Bool} (m : Moves b s (.session (.update c now)) r s') {l : Ledger}
    (k : l.Keyed) {ρ : Reaction} {d d' : Database} (hold : d.Holds (l.map s.settle))
    (done : ρ.answer d (.session (.update c now)) = (r, d')) : d'.Holds (l.map s'.settle) := by
  cases m with
  | claim past x rest =>
    obtain ⟨touched, holds⟩ := ρ.update_holds hold done
    rw [apply_map k (settle_id (.claiming past x rest)) now touched.symm] at holds
    exact holds
  | close past x moment payment rest =>
    obtain ⟨touched, holds⟩ := ρ.update_holds hold done
    rw [apply_map k (settle_id (.closing past x moment payment rest)) now touched.symm,
      endOf_id] at holds
    have same : (Stage.ready (past ++ [.closed x moment payment (.done now)]) rest).settle =
        fun t => endRow x payment now (claimRow x moment (settleAll past t)) :=
      funext fun t => settleAll_append past (.closed x moment payment (.done now)) t
    rw [same]
    exact holds
  | claimLate past x rest =>
    obtain ⟨untouched, holds⟩ := ρ.update_holds hold done
    rw [Ledger.apply_of_not_touches untouched.symm] at holds
    have same : (Stage.ready (past ++ [.passed x none]) rest).settle = settleAll past :=
      funext fun t => settleAll_append past (.passed x none) t
    rw [same]
    exact holds
  | closeLate past x moment payment rest =>
    obtain ⟨untouched, holds⟩ := ρ.update_holds hold done
    rw [Ledger.apply_of_not_touches untouched.symm] at holds
    have same : (Stage.ready (past ++ [.closed x moment payment .late]) rest).settle =
        fun t => claimRow x moment (settleAll past t) :=
      funext fun t => settleAll_append past (.closed x moment payment .late) t
    rw [same]
    exact holds
  | claimFails past x rest now e =>
    rw [ρ.update_error hold done, settle_unclaimed]
    exact hold
  | closeFails past x moment payment rest now e =>
    rw [ρ.update_error hold done, settle_unclosed]
    exact hold

theorem Moves.reads {b : Batch} {s s' : Stage} {st : Statement} {r : Query.Answer (.session st)}
    (m : Moves b s (.session st) r s') (h : ∀ c now, st ≠ .update c now) :
    Database.writes st = false := by
  cases m with
  | list | listFails => rfl
  | claim | claimLate | claimFails | close | closeLate | closeFails => exact absurd rfl (h _ _)

/-- The table is at every stage what the stage tells. -/
theorem Moves.holds {b : Batch} {s s' : Stage} {q : Query} {r : q.Answer} (m : Moves b s q r s')
    {l : Ledger} (k : l.Keyed) {ρ : Reaction} {d d' : Database} (hold : d.Holds (l.map s.settle))
    (done : ρ.answer d q = (r, d')) : d'.Holds (l.map s'.settle) := by
  -- Questions that are no statements leave the table alone, and so do statements that only read.
  by_cases still : ∀ st, q ≠ .session st
  · rw [m.settle_eq fun c now => still _, ρ.answer_still m.tame still done]
    exact hold
  · obtain ⟨st, hst⟩ := Classical.not_forall.mp still
    obtain rfl := Classical.not_not.mp hst
    by_cases update : ∀ c now, st ≠ .update c now
    · rw [m.settle_eq fun c now same => update c now (Query.session.inj same)]
      rcases ρ.session_cases hold st with ⟨e, he⟩ | hs
      · rw [he] at done
        cases done
        exact hold
      · rw [hs, Database.perform_snd_of_reads (m.reads update)] at done
        cases done
        exact ⟨hold.refusal, hold.readOnly, rfl⟩
    · simp only [Classical.not_forall, Classical.not_not] at update
      obtain ⟨c, now, rfl⟩ := update
      exact m.settle_update k hold done

end Stage

def due (b : Batch) (l : Ledger) : List Row :=
  l.list (some .pending) (some ⟨.id, false⟩) (some b.size)

/-- A cycle has dealt with some of its payouts, with each in a certain way; the rest are to come. -/
structure Serves (b : Batch) (l : Ledger) (kind : Episode → Prop) (past : List Episode)
    (rest : List Row) : Prop where
  split : past.map Episode.row ++ rest = b.due l
  kind : ∀ e ∈ past, kind e

namespace Serves

variable {b : Batch} {l : Ledger} {kind : Episode → Prop} {past : List Episode} {r : Row}
  {rest : List Row} {moment : Moment} {payment : Except Failure Text}

theorem nil (b : Batch) (l : Ledger) (kind : Episode → Prop) : b.Serves l kind [] (b.due l) :=
  ⟨rfl, fun _ he => (List.not_mem_nil he).elim⟩

theorem snoc (h : b.Serves l kind past (r :: rest)) {last : Episode} (hrow : last.row = r)
    (hlast : kind last) : b.Serves l kind (past ++ [last]) rest := by
  constructor
  · rw [← h.split, List.map_append, List.append_assoc, List.map_singleton, hrow]
    rfl
  · intro e he
    rcases List.mem_append.mp he with he | he
    · exact h.kind e he
    · rw [List.mem_singleton.mp he]
      exact hlast

theorem nodup_ids (h : b.Serves l kind past rest) (k : l.Keyed) :
    (past.map (fun e => e.row.id) ++ rest.map Row.id).Nodup := by
  have nodup : ((b.due l).map Row.id).Nodup := Ledger.nodup_list k.ids _ _ _
  rwa [← h.split, List.map_append, List.map_map] at nodup

theorem mem (h : b.Serves l kind past (r :: rest)) : r ∈ l ∧ r.status = .pending := by
  refine Ledger.mem_list (show r ∈ b.due l from ?_)
  rw [← h.split]
  exact List.mem_append_right _ List.mem_cons_self

theorem mem_past (h : b.Serves l kind past rest) {e : Episode} (he : e ∈ past) : e.row ∈ l := by
  refine (Ledger.mem_list (show e.row ∈ b.due l from ?_)).1
  rw [← h.split]
  exact List.mem_append_left _ (List.mem_map.mpr ⟨e, he, rfl⟩)

theorem settle_eq (h : b.Serves l kind past rest) (k : l.Keyed) {e : Episode} (he : e ∈ past) :
    settleAll past e.row = e.settle e.row :=
  settleAll_of_mem (List.nodup_append.mp (h.nodup_ids k)).1 he rfl

theorem untouched (h : b.Serves l kind past (r :: rest)) (k : l.Keyed) : settleAll past r = r := by
  have apart := (List.nodup_append.mp (h.nodup_ids k)).2.2
  refine settleAll_other fun e he same => ?_
  exact apart e.row.id (List.mem_map.mpr ⟨e, he, rfl⟩) r.id List.mem_cons_self same

theorem touches_claim (h : b.Serves l kind past (r :: rest)) (k : l.Keyed) :
    Ledger.touches (l.map (settleAll past)) (claimOf r) = true :=
  (Ledger.touches_iff _ _).mpr
    ⟨r, List.mem_map.mpr ⟨r, h.mem.1, h.untouched k⟩, rfl, h.mem.2⟩

theorem touches_end (h : b.Serves l kind past (r :: rest)) (k : l.Keyed) :
    Ledger.touches (l.map fun t => claimRow r moment (settleAll past t)) (endOf r payment) =
      true := by
  refine (Ledger.touches_iff _ _).mpr ⟨claimRow r moment (settleAll past r),
    List.mem_map.mpr ⟨r, h.mem.1, rfl⟩, ?_, ?_⟩
  · rw [claimRow_id, settleAll_id, endOf_id]
  · rw [h.untouched k, endOf_source]
    unfold claimRow
    rw [if_pos rfl]
    rfl

variable {ρ : Reaction} {d : Database} {now : Moment} {won : Bool}

theorem claim_won (h : b.Serves l kind past (r :: rest)) (k : l.Keyed)
    (hold : d.Holds (l.map (Stage.claiming past r rest).settle))
    (done : (ρ.answer d (.session (.update (claimOf r) now))).1 = .ok won) : won = true :=
  (ρ.update_holds hold (Prod.ext done rfl)).1.trans (h.touches_claim k)

theorem end_won (h : b.Serves l kind past (r :: rest)) (k : l.Keyed)
    (hold : d.Holds (l.map (Stage.closing past r moment payment rest).settle))
    (done : (ρ.answer d (.session (.update (endOf r payment) now))).1 = .ok won) : won = true :=
  (ρ.update_holds hold (Prod.ext done rfl)).1.trans (h.touches_end k)

end Serves

end Faucet.Batch
