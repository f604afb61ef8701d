import Mathlib.Algebra.Order.BigOperators.Group.List
import Faucet.Proofs.Amid
import Faucet.Proofs.Outputs
import Faucet.Proofs.Provenance

/-!
All or nothing. A cycle adds up what it has listed and reads what the wallet may spend before it
claims anything. Both sums are exact as long as they stay below 10^19 coins, so that a cycle that
goes on can pay all it has listed, and one that does not has touched nothing.
-/

set_option autoImplicit false

namespace Faucet

/-- A finite amount of whole satoshis, below 10^19 coins. -/
structure Decimal.Coins (x : Decimal) : Prop where
  finite : x.isFinite = true
  whole : ∃ n : Int, x.toRat = n / 10 ^ 8
  below : x.toRat < 10 ^ 19

theorem Money.sats_lt {n : Int} (h : (n / 10 ^ 8 : ℚ) < 10 ^ 19) : n < 10 ^ 27 := by
  rw [div_lt_iff₀ (by norm_num)] at h
  have few : (n : ℚ) < 10 ^ 27 := lt_of_lt_of_eq h (by norm_num)
  exact_mod_cast few

theorem Decimal.Coins.sats {x : Decimal} (h : x.Coins) :
    ∃ n : Int, n < 10 ^ 27 ∧ x.Worth (n / 10 ^ 8) := by
  obtain ⟨n, worth⟩ := h.whole
  exact ⟨n, Money.sats_lt (worth ▸ h.below), h.finite, worth⟩

def Balances.worth (t : Balances) : ℚ := t.trusted.toRat + t.untrusted.toRat

namespace Ledger

def worth (rows : List Row) : ℚ := (rows.map fun r => r.amount.toRat).sum

variable {rows : List Row}

theorem sum_sats_le_of_prefix (h : Nonneg rows) (k : Nat) :
    0 ≤ ((rows.take k).map Row.sats).sum ∧ ((rows.take k).map Row.sats).sum ≤ (rows.map Row.sats).sum := by
  have nonneg : ∀ n ∈ rows.map Row.sats, 0 ≤ n := fun n hn => by
    obtain ⟨r, hr, rfl⟩ := List.mem_map.mp hn
    exact h r hr
  have sub := (List.take_sublist k rows).map Row.sats
  exact ⟨List.sum_nonneg fun n hn => nonneg n (sub.subset hn), sub.sum_le_sum nonneg⟩

theorem sum_amounts_exact (h : Nonneg rows) (few : worth rows < 10 ^ 19) :
    ∃ x, Decimal.sum (rows.map Row.amount) = .ok x ∧ x.Worth (worth rows) := by
  have sats : (rows.map Row.sats).sum < 10 ^ 27 := by
    unfold worth at few
    rw [sum_toRat_amount] at few
    exact Money.sats_lt few
  obtain ⟨x, summed, own⟩ : ∃ x, Decimal.sum (rows.map Row.amount) = .ok x ∧
      x.Worth ((rows.map Row.amount).map Decimal.toRat).sum := by
    refine Decimal.sum_exact (fun x hx => ?_) fun ys hys => ?_
    · obtain ⟨r, _, rfl⟩ := List.mem_map.mp hx
      rfl
    · have part := List.prefix_iff_eq_take.mp hys
      rw [← List.map_take] at part
      have bounds := sum_sats_le_of_prefix h ys.length
      rw [part, List.map_map]
      have small : ((rows.take ys.length).map Row.sats).sum.natAbs < 10 ^ 28 := by omega
      have short := Money.short_sats small
      rw [← sum_toRat_amount] at short
      exact short
  rw [List.map_map] at own
  exact ⟨x, summed, own⟩

theorem worth_nonneg (h : Nonneg rows) : 0 ≤ worth rows := by
  unfold worth
  rw [sum_toRat_amount]
  have total : 0 ≤ (rows.map Row.sats).sum := List.sum_nonneg fun n hn => by
    obtain ⟨r, hr, rfl⟩ := List.mem_map.mp hn
    exact h r hr
  exact div_nonneg (by exact_mod_cast total) (by norm_num)

end Ledger

theorem Balances.covers {t : Balances} (trusted : t.trusted.Coins) (untrusted : t.untrusted.Coins)
    {available needed : Decimal} {q : ℚ} (sum : t.available = .ok available) (stands : needed.Worth q)
    (nonneg : 0 ≤ q) (enough : available.lt needed = .ok false) : q ≤ t.worth := by
  obtain ⟨m, fewer, hx⟩ := trusted.sats
  obtain ⟨n, few, hy⟩ := untrusted.sats
  have total : (m / 10 ^ 8 + n / 10 ^ 8 : ℚ) = ((m + n : Int) : ℚ) / 10 ^ 8 := by
    push_cast
    ring
  by_cases far : m + n ≤ -10 ^ 8
  · -- The sum may be rounded here, but not to a number that covers anything.
    have debt : (m / 10 ^ 8 + n / 10 ^ 8 : ℚ) ≤ -1 := by
      rw [total, div_le_iff₀ (by norm_num)]
      exact_mod_cast far
    obtain ⟨r, below, left⟩ := Decimal.add_neg hx hy sum debt
    rw [Decimal.lt_eq left stands, decide_eq_true (lt_of_lt_of_le below nonneg)] at enough
    cases enough
  · have short : Decimal.Short (m / 10 ^ 8 + n / 10 ^ 8) := by
      rw [total]
      exact Money.short_sats (by omega)
    obtain ⟨x, eq, exact⟩ := Decimal.add_exact hx hy short
    cases eq.symm.trans sum
    rw [Decimal.lt_eq exact stands] at enough
    unfold Balances.worth
    rw [hx.2, hy.2]
    exact not_lt.mp (of_decide_eq_false (Except.ok.inj enough))

/-! ### What a cycle has asked -/

namespace Query

/-- A step towards a payout: a change on record, or a payment. -/
def acts : Query → Bool
  | .enter (.transition _) | .session (.insert ..) | .session (.update ..) | .payment ..
  | .wallet (.broadcast ..) => true
  | _ => false

def Aside : Query → Prop
  | .session (.list ..) | .wallet .balances | .wallet (.broadcast ..) => False
  | _ => True

end Query

namespace Inquiry

def listing? : Inquiry → Option (List Row)
  | ⟨.session (.list ..), .ok rows, _, _⟩ => some rows
  | _ => none

def reading? : Inquiry → Option (Except Failure Balances)
  | ⟨.wallet .balances, answer, _, _⟩ => some answer
  | _ => none

def amounts : Inquiry → List Text
  | ⟨.wallet (.broadcast outputs _ _), _, _, _⟩ => outputs.asked
  | _ => []

theorem amounts_eq_nil (d : Inquiry) (idle : d.query.acts = false) : d.amounts = [] := by
  obtain ⟨q, r, l, l'⟩ := d
  cases q with
  | wallet c =>
    cases c with
    | broadcast => cases idle
    | _ => rfl
  | _ => rfl

section
variable {q : Query} (aside : q.Aside) (r : q.Answer) (l l' : Ledger)
include aside

theorem listing?_eq_none : listing? ⟨q, r, l, l'⟩ = none := by
  cases q with
  | session s =>
    cases s with
    | list => cases aside
    | _ => rfl
  | _ => rfl

theorem reading?_eq_none : reading? ⟨q, r, l, l'⟩ = none := by
  cases q with
  | wallet c =>
    cases c with
    | balances => cases aside
    | _ => rfl
  | _ => rfl

theorem amounts_eq_nil_of_aside : amounts ⟨q, r, l, l'⟩ = [] := by
  cases q with
  | wallet c =>
    cases c with
    | broadcast => cases aside
    | _ => rfl
  | _ => rfl

end

end Inquiry

namespace Amid

variable (s : Amid)

def listings : List (List Row) := s.log.filterMap Inquiry.listing?

def readings : List (Except Failure Balances) := s.log.filterMap Inquiry.reading?

def amounts : List Text := s.log.flatMap Inquiry.amounts

def Acted : Prop := ∃ d ∈ s.log, d.query.acts = true

def Quiet : Prop := ∀ d ∈ s.log, d.query.acts = false ∧ d.after = d.before

/-- The cycle has listed these payouts and has not found the wallet short of their sum. -/
structure Admits (rows : List Row) : Prop where
  listed : s.listings = [rows]
  nonneg : Ledger.Nonneg rows
  covered : ∃ t available needed, s.readings = [.ok t] ∧ t.available = .ok available ∧
    Decimal.sum (rows.map Row.amount) = .ok needed ∧ available.lt needed = .ok false

/-- Of the payouts that were admitted, some were asked for, none of them twice. -/
structure Spends (done rest : List Row) : Prop where
  admits : s.Admits (done ++ rest)
  paid : ∃ paid : List Row, paid.Sublist done ∧
    s.amounts = (paid.map fun r => r.amount.fixed8).reverse

variable {s} {done rest rows : List Row}

theorem Quiet.not_acted (h : s.Quiet) : ¬s.Acted := by
  rintro ⟨d, hd, acts⟩
  rw [(h d hd).1] at acts
  cases acts

theorem Quiet.amounts_eq (h : s.Quiet) : s.amounts = [] :=
  List.flatMap_eq_nil_iff.mpr fun d hd => d.amounts_eq_nil (h d hd).1

theorem Quiet.asked (h : s.Quiet) (ρ : Reaction) {q : Query} (reads : q.Reads)
    (idle : q.acts = false) : (s.asked ρ q).Quiet := by
  intro d hd
  rcases List.mem_cons.mp hd with rfl | hd
  · exact ⟨idle, ρ.answer_reads s.traffic.database reads⟩
  · exact h d hd

section
variable (s) (ρ : Reaction) {q : Query} (aside : q.Aside)
include aside

theorem listings_asked : (s.asked ρ q).listings = s.listings :=
  List.filterMap_cons_none (Inquiry.listing?_eq_none aside _ _ _)

theorem readings_asked : (s.asked ρ q).readings = s.readings :=
  List.filterMap_cons_none (Inquiry.reading?_eq_none aside _ _ _)

theorem amounts_asked : (s.asked ρ q).amounts = s.amounts :=
  congrArg (· ++ s.amounts) (Inquiry.amounts_eq_nil_of_aside aside _ _ _)

end

theorem Spends.asked (h : s.Spends done rest) (ρ : Reaction) {q : Query} (aside : q.Aside) :
    (s.asked ρ q).Spends done rest where
  admits := {
    listed := (s.listings_asked ρ aside).trans h.admits.listed
    nonneg := h.admits.nonneg
    covered := by
      rw [s.readings_asked ρ aside]
      exact h.admits.covered }
  paid := by
    rw [s.amounts_asked ρ aside]
    exact h.paid

theorem Spends.meanwhile (h : s.Spends done rest) (acts : List Traffic.Act) :
    (s.meanwhile acts).Spends done rest where
  admits := ⟨h.admits.listed, h.admits.nonneg, h.admits.covered⟩
  paid := h.paid

theorem Spends.next {r : Row} (h : s.Spends done (r :: rest)) : s.Spends (done ++ [r]) rest where
  admits := by
    rw [List.append_assoc]
    exact h.admits
  paid := by
    obtain ⟨paid, sub, eq⟩ := h.paid
    exact ⟨paid, sub.trans (List.sublist_append_left done [r]), eq⟩

theorem Spends.call {b : Batch} {r : Row} {outputs : Outputs} (h : s.Spends done (r :: rest))
    (handed : b.outputs r = .ok outputs) (ρ : Reaction) (feeRate : Option Decimal)
    (inputs : Option (List Json)) :
    (s.asked ρ (.wallet (.broadcast outputs feeRate inputs))).Spends (done ++ [r]) rest where
  admits := by
    rw [List.append_assoc]
    exact ⟨h.admits.listed, h.admits.nonneg, h.admits.covered⟩
  paid := by
    obtain ⟨paid, sub, eq⟩ := h.paid
    have asks : (s.asked ρ (.wallet (.broadcast outputs feeRate inputs))).amounts =
        outputs.asked ++ s.amounts := rfl
    rw [asks, Outputs.asked_payment (Batch.payment_of_outputs handed), eq]
    split
    · exact ⟨paid, sub.trans (List.sublist_append_left done [r]), rfl⟩
    · refine ⟨paid ++ [r], sub.append (List.Sublist.refl [r]), ?_⟩
      rw [List.map_append, List.reverse_append]
      rfl

end Amid

namespace Batch

open Stage

variable {b : Batch} {s : Amid} {st st' : Stage}

/-- What a cycle has asked when it stands at a stage. -/
def Course (b : Batch) (s : Amid) : Stage → Prop
  | .listing => s.Quiet ∧ s.listings = [] ∧ s.readings = []
  | .listed rows needed => s.Quiet ∧ s.listings = [rows] ∧ s.readings = [] ∧ Ledger.Nonneg rows ∧
    Decimal.sum (rows.map Row.amount) = .ok needed
  | .ready past rest => s.Spends (past.map Episode.row) rest
  | .claiming past r rest | .claimed past r _ rest => s.Spends (past.map Episode.row) (r :: rest)
  | .calling past r _ outputs rest =>
    s.Spends (past.map Episode.row) (r :: rest) ∧ b.outputs r = .ok outputs
  | .paid past r _ _ rest | .closing past r _ _ rest => s.Spends (past.map Episode.row ++ [r]) rest
  | .finished report => s.Quiet ∧ report.size = 0 ∧ report.sent = 0 ∧ report.failed = 0
  | .raised .. => s.Quiet ∨ ∃ done rest, s.Spends done rest

theorem Course.aside (h : Course b s st) (ρ : Reaction) {q : Query} (aside : q.Aside)
    (reads : q.Reads) (idle : q.acts = false) : Course b (s.asked ρ q) st := by
  have listings := s.listings_asked ρ aside
  have readings := s.readings_asked ρ aside
  cases st with
  | listing => exact ⟨h.1.asked ρ reads idle, listings.trans h.2.1, readings.trans h.2.2⟩
  | listed rows needed =>
    exact ⟨h.1.asked ρ reads idle, listings.trans h.2.1, readings.trans h.2.2.1, h.2.2.2⟩
  | calling => exact ⟨h.1.asked ρ aside, h.2⟩
  | finished report => exact ⟨h.1.asked ρ reads idle, h.2⟩
  | raised =>
    exact h.imp (fun quiet => quiet.asked ρ reads idle) fun ⟨done, rest, spends⟩ =>
      ⟨done, rest, spends.asked ρ aside⟩
  | _ => exact Amid.Spends.asked h ρ aside

theorem Course.meanwhile (h : Course b s st) (acts : List Traffic.Act) :
    Course b (s.meanwhile acts) st := by
  cases st with
  | listing | listed | finished => exact h
  | calling => exact ⟨h.1.meanwhile acts, h.2⟩
  | raised => exact h.imp_right fun ⟨done, rest, spends⟩ => ⟨done, rest, spends.meanwhile acts⟩
  | _ => exact Amid.Spends.meanwhile h acts

theorem course_unlisted (quiet : s.Quiet) (e : Failure) : Course b s (unlisted e) := by
  unfold unlisted
  split
  · exact ⟨quiet, rfl, rfl, rfl⟩
  · exact .inl quiet

theorem course_ofRows {rows : List Row} (quiet : s.Quiet) (listed : s.listings = [rows])
    (unread : s.readings = []) (nonneg : Ledger.Nonneg rows) : Course b s (ofRows rows) := by
  unfold ofRows
  split
  · exact ⟨quiet, rfl, rfl, rfl⟩
  · split
    · exact .inl quiet
    · exact ⟨quiet, listed, unread, nonneg, ‹_›⟩

theorem course_ofBalances {rows : List Row} {needed : Decimal} {answer : Except Failure Balances}
    (quiet : s.Quiet) (listed : s.listings = [rows]) (read : s.readings = [answer])
    (nonneg : Ledger.Nonneg rows) (sum : Decimal.sum (rows.map Row.amount) = .ok needed) :
    Course b s (ofBalances rows needed answer) := by
  unfold ofBalances
  split
  · split
    · exact ⟨quiet, rfl, rfl, rfl⟩
    · exact .inl quiet
  · split
    · exact .inl quiet
    · split
      · exact .inl quiet
      · exact ⟨quiet, rfl, rfl, rfl⟩
      · exact ⟨⟨listed, nonneg, _, _, _, read, ‹_›, sum, ‹_›⟩, [], .slnil, quiet.amounts_eq⟩

theorem Course.unclaimed {past : List Episode} {r : Row} {rest : List Row}
    (h : s.Spends (past.map Episode.row) (r :: rest)) (e : Failure) :
    Course b s (Stage.unclaimed past r rest e) := by
  refine unclaimed_cases past r rest e ?_ (.inr ⟨_, _, h⟩)
  change s.Spends ((past ++ [Episode.passed r (some e)]).map Episode.row) rest
  rw [List.map_append]
  exact h.next

theorem spends_closed {past : List Episode} {r : Row} {rest : List Row}
    (h : s.Spends (past.map Episode.row ++ [r]) rest) (moment : Moment)
    (payment : Except Failure Text) (closing : Closing) :
    s.Spends ((past ++ [Episode.closed r moment payment closing]).map Episode.row) rest := by
  rw [List.map_append]
  exact h

theorem Course.unclosed {past : List Episode} {r : Row} {rest : List Row}
    (h : s.Spends (past.map Episode.row ++ [r]) rest) (moment : Moment)
    (payment : Except Failure Text) (e : Failure) :
    Course b s (Stage.unclosed past r moment payment rest e) :=
  unclosed_cases past r moment payment rest e (spends_closed h moment payment _) (.inr ⟨_, _, h⟩)

theorem Course.asked (h : Course b s st) (nonneg : Ledger.Nonneg s.traffic.rows) (ρ : Reaction)
    {q : Query} (m : Moves b st q (ρ.answer s.traffic.database q).1 st') :
    Course b (s.asked ρ q) st' := by
  have quiet : s.Quiet → q.Reads → q.acts = false → (s.asked ρ q).Quiet :=
    fun quiet reads idle => quiet.asked ρ reads idle
  have kept : ∀ {done rest}, s.Spends done rest → q.Aside → (s.asked ρ q).Spends done rest :=
    fun spends aside => spends.asked ρ aside
  generalize done : (ρ.answer s.traffic.database q).1 = r at m
  cases m with
  | log | notify => exact h.aside ρ trivial trivial rfl
  | enterList => exact h.aside ρ trivial trivial rfl
  | enterListFails e => exact course_unlisted (quiet h.1 trivial rfl) e
  | listFails e => exact course_unlisted (quiet h.1 rfl rfl) e
  | list rows =>
    refine course_ofRows (quiet h.1 rfl rfl) ?_ h.2.2 fun x hx => nonneg x (ρ.list_subset done x hx)
    refine (List.filterMap_cons_some (b := rows) ?_).trans (congrArg (rows :: ·) h.2.1)
    change Inquiry.listing? ⟨_, (ρ.answer _ _).1, _, _⟩ = _
    rw [done]
    rfl
  | balances rows needed answer =>
    obtain ⟨idle, listed, unread, worthy, sum⟩ := h
    cases done
    exact course_ofBalances (quiet idle trivial rfl) listed
      (congrArg (ρ.wallet .balances :: ·) unread) worthy sum
  | enterClaim => exact kept h trivial
  | enterClaimFails past x rest e | claimClockFails past x rest e | claimFails past x rest now e =>
    exact Course.unclaimed (kept h trivial) e
  | claimClock => exact kept h trivial
  | claim => exact kept h trivial
  | claimLate past x rest moment =>
    change Amid.Spends _ ((past ++ [Episode.passed x none]).map Episode.row) rest
    rw [List.map_append]
    exact (kept h trivial).next
  | payment past x moment rest =>
    exact ofPayment_cases past x moment rest (fun _ _ => (kept h trivial).next)
      fun _ handed => ⟨kept h trivial, handed⟩
  | call past x moment outputs rest answer => exact h.1.call h.2 ρ _ _
  | enterEnd past x moment payment rest =>
    exact ofEntry_cases past x moment payment rest
      (fun _ _ => spends_closed (kept h trivial) moment payment _) fun _ => kept h trivial
  | enterEndFails past x moment payment rest e | endClockFails past x moment payment rest e
  | closeFails past x moment payment rest now e =>
    exact Course.unclosed (kept h trivial) moment payment e
  | endClock => exact kept h trivial
  | close past x moment payment rest now | closeLate past x moment payment rest now =>
    exact spends_closed (kept h trivial) moment payment _

theorem Stage.Moves.nonneg {q : Query} {r : q.Answer} (m : Stage.Moves b st q r st') : q.Nonneg := by
  cases m <;> trivial

theorem Course.settled (h : Course b s st) {outcome : Except Failure CycleReport}
    (ends : Ends st outcome) :
    (s.Quiet ∧ ∀ report, outcome = .ok report →
        report.size = 0 ∧ report.sent = 0 ∧ report.failed = 0) ∨
      ∃ done rest, s.Spends done rest ∧ ∀ report, outcome = .ok report → report.skipped = none := by
  cases st with
  | finished report =>
    cases outcome with
    | error e => cases ends
    | ok result =>
      cases ends
      exact .inl ⟨h.1, fun report eq => Except.ok.inj eq ▸ h.2⟩
  | ready past rest =>
    cases rest with
    | cons r rest => cases outcome <;> cases ends
    | nil =>
      cases outcome with
      | error e => cases ends
      | ok result =>
        cases ends
        exact .inr ⟨_, _, h, fun report eq => Except.ok.inj eq ▸ rfl⟩
  | raised before e =>
    cases outcome with
    | ok result => cases ends
    | error e' =>
      exact h.imp (fun quiet => ⟨quiet, nofun⟩) fun ⟨done, rest, spends⟩ => ⟨done, rest, spends, nofun⟩
  | _ => cases outcome <;> cases ends

end Batch

/-! ### The whole cycle -/

namespace Row

theorem toRat_amount_nonneg (r : Row) (h : 0 ≤ r.sats) : 0 ≤ r.amount.toRat := by
  have own : r.amount.toRat = r.sats / 10 ^ 8 := Money.toRat_ofSats r.sats
  have sats : (0 : ℚ) ≤ r.sats := by exact_mod_cast h
  rw [own]
  positivity

theorem names_amount (r : Row) (h : 0 ≤ r.sats) (few : r.amount.toRat < 10 ^ 19) :
    Decimal.Names r.amount.toRat r.amount.fixed8 := by
  have own : r.amount.toRat = r.sats / 10 ^ 8 := Money.toRat_ofSats r.sats
  obtain ⟨n, hn⟩ := Int.eq_ofNat_of_zero_le h
  have small : r.sats < 10 ^ 27 := Money.sats_lt (own ▸ few)
  unfold Row.amount
  rw [hn]
  exact Money.names_ofSats (by omega)

end Row

theorem Amid.Spends.bounded {s : Amid} {done rest : List Row} (h : s.Spends done rest) :
    ∃ rows t, s.listings = [rows] ∧ s.readings = [.ok t] ∧
      (t.trusted.Coins → t.untrusted.Coins → Ledger.worth rows < 10 ^ 19 →
        Ledger.worth rows ≤ t.worth ∧
          ∃ qs, List.Forall₂ Decimal.Names qs s.amounts ∧ qs.sum ≤ t.worth) := by
  obtain ⟨listed, nonneg, t, available, needed, read, sum, total, enough⟩ := h.admits
  obtain ⟨paid, sub, asked⟩ := h.paid
  refine ⟨_, t, listed, read, fun trusted untrusted few => ?_⟩
  obtain ⟨x, eq, stands⟩ := Ledger.sum_amounts_exact nonneg few
  cases eq.symm.trans total
  have covered := Balances.covers trusted untrusted sum stands (Ledger.worth_nonneg nonneg) enough
  have positive : ∀ q ∈ (done ++ rest).map fun r => r.amount.toRat, 0 ≤ q := fun q hq => by
    obtain ⟨r, hr, rfl⟩ := List.mem_map.mp hq
    exact r.toRat_amount_nonneg (nonneg r hr)
  have part : paid.Sublist (done ++ rest) := sub.trans (List.sublist_append_left done rest)
  refine ⟨covered, (paid.map fun r => r.amount.toRat).reverse, ?_, ?_⟩
  · rw [asked, List.forall₂_reverse_iff, List.forall₂_map_left_iff, List.forall₂_map_right_iff,
      List.forall₂_same]
    intro r hr
    have here := part.subset hr
    have own := List.single_le_sum positive _ (List.mem_map_of_mem here)
    exact r.names_amount (nonneg r here) (lt_of_le_of_lt own few)
  · rw [List.sum_reverse]
    exact le_trans ((part.map _).sum_le_sum positive) covered

namespace Batch

/-- Whatever stands on record, whoever else calls the store meanwhile, and whatever the store, the
node and the clock answer: a cycle that claims or pays has listed its payouts and read the balances
once, the balances come to no less than the payouts, and to no less than what the node is asked to
pay. A cycle that is skipped, or that could not read the balances, has changed nothing, paid nothing
and reports nothing. -/
theorem all_or_nothing (b : Batch) (lasting : Bool) (before : List Traffic.Act)
    (env : Nat → Reaction) (others : Nat → List Traffic.Act) :
    let ended := b.cycle.playAmid env others
      { traffic := Traffic.run { lasting, table := some [] } before }
    let s := ended.2
    (s.Acted → ∃ rows t, s.listings = [rows] ∧ s.readings = [.ok t] ∧
      (t.trusted.Coins → t.untrusted.Coins → Ledger.worth rows < 10 ^ 19 →
        Ledger.worth rows ≤ t.worth ∧
          ∃ qs, List.Forall₂ Decimal.Names qs s.amounts ∧ qs.sum ≤ t.worth)) ∧
    ((∃ report, ended.1 = .ok report ∧ report.skipped ≠ none) ∨ (∃ e, .error e ∈ s.readings) →
      ¬s.Acted ∧ (∀ d ∈ s.log, d.after = d.before) ∧
        ∀ report, ended.1 = .ok report → report.size = 0 ∧ report.sent = 0 ∧ report.failed = 0) := by
  intro ended s
  have quiet : Amid.Quiet { traffic := Traffic.run { lasting, table := some [] } before } :=
    fun _ hd => (List.not_mem_nil hd).elim
  have none : Ledger.Nonneg (Database.rows { lasting, table := some [] }) :=
    fun _ hr => (List.not_mem_nil hr).elim
  obtain ⟨st, ends, -, course⟩ := Job.playAmid_keeps env others
    (I := fun st c => c.traffic.Nonneg ∧ Course b c st)
    (fun st c acts h => ⟨h.1.steps acts, h.2.meanwhile acts⟩)
    (fun st c ρ q st' h m =>
      ⟨⟨ρ.answer_nonneg h.1.rows m.nonneg, h.1.callers⟩, h.2.asked h.1.rows ρ m⟩)
    b.cycle_follows ⟨(Traffic.nonneg_start none).steps before, quiet, rfl, rfl⟩
  rcases course.settled ends with ⟨idle, report⟩ | ⟨done, rest, spends, unskipped⟩
  · refine ⟨fun acted => absurd acted idle.not_acted, fun _ => ⟨idle.not_acted, fun d hd =>
      (idle d hd).2, report⟩⟩
  · refine ⟨fun _ => spends.bounded, ?_⟩
    rintro (⟨report, ok, skipped⟩ | ⟨e, read⟩)
    · exact absurd (unskipped report ok) skipped
    · obtain ⟨t, _, _, reading, _⟩ := spends.admits.covered
      rw [reading] at read
      cases List.mem_singleton.mp read

def lastCoins (n : Nat) : Reaction where
  clock := n
  wallet
    | .balances => .ok { trusted := .finite false 1 (-3), untrusted := .finite false 1 (-3) }
    | .broadcast .. => .ok "aa"
    | _ => .error (.faucet [])
  reply := .error (.faucet [])
  number := 0
  purse := .zero

def queued (i : Nat) (address : Text) : List Traffic.Act :=
  .start i (.create (some address) (.finite false 2 (-3)) []) ::
    List.replicate 3 (.turn i (lastCoins i))

/-- While a cycle reads the balances for one payout another one is queued. -/
def lastPaid : Amid :=
  ((Batch.mk 5 []).cycle.playAmid lastCoins (fun n => if n = 3 then queued 1 "tb1qtwo" else [])
    { traffic := Traffic.run { table := some [] } (queued 0 "tb1qone") }).2

theorem all_or_nothing_last :
    lastPaid.traffic.rows.map Row.status = [.broadcast, .pending] ∧ lastPaid.Acted ∧
      lastPaid.amounts = ["0.00200000"] ∧ ∃ rows t, lastPaid.listings = [rows] ∧
        lastPaid.readings = [.ok t] ∧ Ledger.worth rows = 2 / 10 ^ 3 ∧
          Ledger.worth rows ≤ t.worth := by
  have acted : lastPaid.Acted := by
    have some : lastPaid.log.any (fun d => d.query.acts) = true := by decide +kernel
    exact List.any_eq_true.mp some
  have sats : lastPaid.listings.map (List.map Row.sats) = [[200000]] := by decide +kernel
  have balances : lastPaid.readings.map (fun r => r.toOption.map fun t => (t.trusted, t.untrusted)) =
      [some (.finite false 1 (-3), .finite false 1 (-3))] := by decide +kernel
  obtain ⟨rows, t, listed, read, bounds⟩ := (all_or_nothing ⟨5, []⟩ false (queued 0 "tb1qone")
    lastCoins fun n => if n = 3 then queued 1 "tb1qtwo" else []).1 acted
  change lastPaid.listings = [rows] at listed
  change lastPaid.readings = [.ok t] at read
  rw [listed] at sats
  rw [read] at balances
  obtain ⟨trusted, untrusted⟩ : t.trusted = .finite false 1 (-3) ∧
      t.untrusted = .finite false 1 (-3) := by
    simpa [Except.toOption] using balances
  have worth : Ledger.worth rows = 2 / 10 ^ 3 := by
    have own : rows.map Row.sats = [200000] := (List.cons.inj sats).1
    unfold Ledger.worth
    rw [sum_toRat_amount, own]
    norm_num
  have coins : (Decimal.finite false 1 (-3)).Coins :=
    ⟨rfl, ⟨100000, by norm_num [Decimal.toRat, Decimal.scaled]⟩,
      by norm_num [Decimal.toRat, Decimal.scaled]⟩
  refine ⟨by decide +kernel, acted, by decide +kernel, rows, t, listed, read, worth, ?_⟩
  exact (bounds (trusted ▸ coins) (untrusted ▸ coins) (by rw [worth]; norm_num)).1

end Batch

end Faucet
