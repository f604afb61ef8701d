import Faucet.Proofs.Crowd
import Faucet.Proofs.Marks
import Faucet.Proofs.Settling
import Faucet.Proofs.Walk

/-!
Dust. Whatever the faucet asks its node to pay out has at least a thousand satoshis, since a payment
checks its amount. A merge checks only that something is left of what it spends, so that it may pay
less than that to its new address.
-/

set_option autoImplicit false

namespace Faucet

open Text in
/-- Digits with a point before the last eight of them, for a number of satoshis in coin. -/
def Decimal.Writes (n : Nat) (t : Text) : Prop :=
  ∃ whole places : Text, t = whole ++ 46 :: places ∧ whole ≠ [] ∧ places.length = 8 ∧
    (∀ c ∈ whole ++ places, c.isDigit = true) ∧ natOfDigits (digitsOf (whole ++ places)) = n

namespace Decimal

open Text

variable {c n : Nat} {e : Int} {t : Text}

theorem writes_fixed8 (h : scaled c e = scaled n (-8)) :
    Writes n (Decimal.finite false c e).fixed8 := by
  obtain ⟨whole, places, eq, filled, length, all⟩ := pointed_eq (Text.ofNat n) 8
  have value : natOfDigits (digitsOf (whole ++ places)) = n := by
    rw [all]
    unfold digitsOf
    rw [List.map_append, List.map_replicate]
    exact (natOfDigits_zeros _ _).trans (natOfDigits_ofNat n)
  refine ⟨whole, places, (fixed8_eq false h).trans eq, filled, length, fun d hd => ?_, value⟩
  exact isDigit_padded (fun _ => isDigit_of_mem_ofNat) _ (all ▸ hd)

theorem Writes.unique {m : Nat} (hn : Writes n t) (hm : Writes m t) : n = m := by
  obtain ⟨whole, places, rfl, -, length, -, value⟩ := hn
  obtain ⟨whole', places', same, -, length', -, value'⟩ := hm
  obtain ⟨rfl, rest⟩ := List.append_inj' same (by simp [length, length'])
  cases rest
  exact value.symm.trans value'

end Decimal

namespace Money

theorem dust_worth : dustLimit.Worth (1 / 10 ^ 5) := by
  refine ⟨rfl, ?_⟩
  unfold dustLimit Decimal.toRat Decimal.scaled
  norm_num

theorem lt_dust_eq {x : Decimal} {n : Int} (h : x.Worth (n / 10 ^ 8)) :
    x.lt dustLimit = .ok (decide (n < 1000)) := by
  rw [Decimal.lt_eq h dust_worth]
  congr 2
  rw [eq_iff_iff, div_lt_div_iff₀ (by norm_num) (by norm_num)]
  norm_cast
  omega

theorem lt_dust_finite (c : Nat) :
    (Decimal.finite false c (-8)).lt dustLimit = .ok (decide (c < 1000)) := by
  have worth : (Decimal.finite false c (-8)).Worth ((c : Int) / 10 ^ 8) := ⟨rfl, toRat_sats false c⟩
  rw [lt_dust_eq worth]
  congr 2
  rw [eq_iff_iff]
  omega

end Money

namespace Outputs

variable {address memo : Text} {amount : Decimal} {outputs : Outputs}

/-- The texts of the amounts in outputs that were made for a memo: all texts but that of the memo. -/
def amounts (memo : Text) (o : Outputs) : List Text :=
  if memo.isEmpty then o.map Prod.snd else asked o

theorem amounts_payment (h : payment address amount memo = .ok outputs) :
    amounts memo outputs =
      if memo ≠ [] ∧ address = memoKey then [] else [amount.fixed8] := by
  rcases payment_eq h with ⟨rfl, rfl⟩ | ⟨octets, filled, -, -⟩
  · rfl
  · unfold amounts
    rw [if_neg (by simpa using filled), asked_payment h]
    simp [filled]

end Outputs

/-- A text of an amount that is no dust. -/
def Outputs.Spared (t : Text) : Prop := ∃ n, 1000 ≤ n ∧ Decimal.Writes n t

open Job

namespace Batch

theorem cycle_asks (b : Batch) : b.cycle.Asks fun q => ∀ outputs rate inputs,
    q = .wallet (.broadcast outputs rate inputs) → ∃ r, b.outputs r = .ok outputs := by
  refine asks_of_follows b.cycle_follows (I := Stage.Explained b) trivial fun explained moved => ?_
  refine ⟨?_, moved.explained explained⟩
  rintro _ _ _ rfl
  cases moved with
  | call past r => exact ⟨r, explained.2⟩

theorem thousand_of_outputs {b : Batch} {r : Row} {outputs : Outputs}
    (h : b.outputs r = .ok outputs) : 1000 ≤ r.sats := by
  unfold Batch.outputs Row.amount at h
  rw [Money.lt_dust_eq (Money.worth_ofSats r.sats)] at h
  by_cases low : r.sats < 1000
  · rw [decide_eq_true low] at h
    cases h
  · exact Int.not_lt.mp low

theorem spared_of_outputs {b : Batch} {r : Row} {outputs : Outputs} (h : b.outputs r = .ok outputs)
    {t : Text} (here : t ∈ outputs.amounts b.memo) : Outputs.Spared t := by
  rw [Outputs.amounts_payment (payment_of_outputs h)] at here
  split at here
  · cases here
  · have enough := thousand_of_outputs h
    obtain ⟨n, sats⟩ := Int.eq_ofNat_of_zero_le (show 0 ≤ r.sats by omega)
    obtain ⟨c, e, eq, size⟩ := Money.ofSats_eq n
    refine ⟨n, by omega, ?_⟩
    rw [List.mem_singleton.mp here, Row.amount, sats, eq]
    exact Decimal.writes_fixed8 size

end Batch

/-! ### Merges -/

namespace Merge

/-- What a merge of these outputs leaves of them, if it gets that far. -/
def yield? (m : Merge) (us : List Unspent) : Option Decimal :=
  match m.select us with
  | .ok (u :: rest) => match Decimal.sum ((u :: rest).map (·.amount)) with
    | .ok total => match m.estimate (u :: rest).length total with
      | .ok e => some e.output
      | .error _ => none
    | .error _ => none
  | _ => none

def Spends (m : Merge) (us : List Unspent) (q : Query) : Prop :=
  (∀ least most, q ≠ .wallet (.unspent least most)) ∧
    ∀ outputs rate inputs, q = .wallet (.broadcast outputs rate inputs) →
      ∃ y address, m.yield? us = some y ∧ y.le .zero = .ok false ∧
        Outputs.payment address y m.memo = .ok outputs

variable {m : Merge} {us : List Unspent}

theorem spends_log (level : Level) (message : Text) : m.Spends us (.log level message) :=
  ⟨nofun, nofun⟩

theorem finish_asks (r : MergeReport) : (finish r).Asks (m.Spends us) := by
  refine asks_bind (asks_ofExcept _) fun r => fun _ => ⟨(), ⟨nofun, nofun⟩, trivial⟩

theorem spend_asks {candidates : List Unspent} {e : Estimate} (leaves : m.yield? us = some e.output)
    (above : e.output.le .zero = .ok false) : (m.spend candidates e).Asks (m.Spends us) := by
  refine asks_bind (asks_wallet ⟨nofun, nofun⟩) fun address =>
    asks_bind (asks_ofArithmetic _) fun inputs => ?_
  change Job.Asks _ ((Job.ofExcept (Outputs.payment address e.output m.memo)).bind _)
  cases made : Outputs.payment address e.output m.memo with
  | error e => trivial
  | ok outputs =>
    have spends : m.Spends us
        (.wallet (.broadcast outputs none (some (inputs.map Unspent.outpoint)))) := by
      refine ⟨nofun, ?_⟩
      rintro _ _ _ ⟨⟩
      exact ⟨e.output, address, leaves, above, made⟩
    change Job.Asks _ ((Job.wallet (.broadcast outputs none _)).bind _)
    refine asks_bind (asks_wallet spends) fun txid => ?_
    exact asks_bind (asks_log (spends_log _ _)) fun _ => finish_asks _

theorem settle_asks {candidates : List Unspent} (selected : m.select us = .ok candidates) :
    (m.settle candidates).Asks (m.Spends us) := by
  cases candidates with
  | nil => exact finish_asks _
  | cons u rest =>
    change Job.Asks _ ((Job.ofArithmetic (Decimal.sum ((u :: rest).map (·.amount)))).bind _)
    cases summed : Decimal.sum ((u :: rest).map (·.amount)) with
    | error fault => trivial
    | ok total =>
      change Job.Asks _ (if ((u :: rest).length : Int) < m.least then _ else _)
      split
      · exact finish_asks _
      · cases estimated : m.estimate (u :: rest).length total with
        | error fault => trivial
        | ok e =>
          have leaves : m.yield? us = some e.output := by
            unfold yield?
            rw [selected]
            dsimp only
            rw [summed]
            dsimp only
            rw [estimated]
          change Job.Asks _ ((Job.ofArithmetic (e.output.le .zero)).bind _)
          cases covered : e.output.le .zero with
          | error fault => trivial
          | ok short =>
            cases short with
            | true =>
              change Job.Asks _ ((Job.log .warning _).bind _)
              exact asks_bind (asks_log (spends_log _ _)) fun _ => finish_asks _
            | false => exact spend_asks leaves covered

theorem select_settle_asks (m : Merge) (us : List Unspent) :
    ((Job.ofArithmetic (m.select us)).bind m.settle).Asks (m.Spends us) := by
  cases selected : m.select us with
  | error fault => trivial
  | ok candidates => exact settle_asks selected

theorem walks_run {log : List Asked} {j : Job MergeReport} (h : m.run.Walks log j) {a : Asked}
    (here : a ∈ log) : (∃ r, a = ⟨.wallet (.unspent 0 9999999), r⟩) ∨
      ∃ us, ⟨.wallet (.unspent 0 9999999), .ok us⟩ ∈ log ∧ m.Spends us a.query := by
  rw [run_eq] at h
  cases h with
  | stay => cases here
  | turn r rest =>
    rcases List.mem_cons.mp here with rfl | later
    · exact .inl ⟨r, rfl⟩
    · cases r with
      | error e => cases rest; cases later
      | ok us =>
        exact .inr ⟨us, List.mem_cons_self, (rest.asks (select_settle_asks m us)).2 a later⟩

theorem listing_unique {log : List Asked} {j : Job MergeReport} (h : m.run.Walks log j)
    {us' : List Unspent} (first : ⟨.wallet (.unspent 0 9999999), .ok us⟩ ∈ log)
    (second : ⟨.wallet (.unspent 0 9999999), .ok us'⟩ ∈ log) : us = us' := by
  rw [run_eq] at h
  cases h with
  | stay => cases first
  | @turn _ _ r log _ rest =>
    have only (vs : List Unspent)
        (here : (⟨.wallet (.unspent 0 9999999), .ok vs⟩ : Asked) ∈ ⟨_, r⟩ :: log) : r = .ok vs := by
      rcases List.mem_cons.mp here with same | later
      · cases same
        rfl
      · cases r with
        | error e => cases rest; cases later
        | ok us =>
          exact absurd rfl (((rest.asks (select_settle_asks m us)).2 _ later).1 0 9999999)
    have same := (only us first).symm.trans (only us' second)
    exact Except.ok.inj same

theorem quantized_of_estimate {count : Nat} {total : Decimal} {e : Estimate}
    (estimated : m.estimate count total = .ok e) :
    ∃ x, Decimal.quantize .down x (-8) = .ok e.output := by
  obtain ⟨size, -, rest⟩ := bind_eq_ok.mp estimated
  obtain ⟨fee, -, rest⟩ := bind_eq_ok.mp rest
  obtain ⟨left, -, rest⟩ := bind_eq_ok.mp rest
  obtain ⟨output, cut, rest⟩ := bind_eq_ok.mp rest
  cases rest
  exact ⟨left, cut⟩

theorem yield?_eq {y : Decimal} (leaves : m.yield? us = some y) (above : y.le .zero = .ok false) :
    ∃ c, y = .finite false c (-8) ∧ 1 ≤ c := by
  unfold yield? at leaves
  split at leaves
  · split at leaves
    · split at leaves
      · rename_i e estimated
        cases leaves
        obtain ⟨x, cut⟩ := quantized_of_estimate estimated
        obtain ⟨c, eq, filled, -⟩ := Decimal.positive_of_quantize cut above
        exact ⟨c, eq, filled⟩
      · cases leaves
    · cases leaves
  · cases leaves

end Merge

/-! ### Runs -/

inductive Expense where
  | cycle (batch : Batch)
  | merge (merge : Merge)

namespace Expense

abbrev Result : Expense → Type
  | .cycle _ => CycleReport
  | .merge _ => MergeReport

def job : (e : Expense) → Job e.Result
  | .cycle b => b.cycle
  | .merge m => m.run

def memo : Expense → Text
  | .cycle b => b.memo
  | .merge m => m.memo

end Expense

namespace Outlay

structure Runner where
  expense : Expense
  job : Job expense.Result

structure Entry where
  runner : Nat
  expense : Expense
  asked : Asked

def Entry.amounts (e : Entry) : List Text :=
  match e.asked.query with
  | .wallet (.broadcast outputs _ _) => outputs.amounts e.expense.memo
  | _ => []

end Outlay

/-- Any number of expenses under way on one store, and all that they asked, the latest first. An expense
that takes no further turn has been given up. -/
structure Outlay where
  database : Database
  runners : Nat → Option Outlay.Runner := fun _ => none
  log : List Outlay.Entry := []

namespace Outlay

inductive Act where
  | start (i : Nat) (expense : Expense)
  | turn (i : Nat) (reaction : Reaction)

def put (s : Outlay) (i : Nat) (r : Runner) : Outlay :=
  { s with runners := fun j => if j = i then some r else s.runners j }

def turn (s : Outlay) (i : Nat) (ρ : Reaction) : Outlay :=
  match s.runners i with
  | some ⟨expense, .ask q next⟩ =>
    let (r, database) := ρ.answer s.database q
    { s.put i ⟨expense, next r⟩ with database, log := ⟨i, expense, q, r⟩ :: s.log }
  | _ => s

/-- A number is used once: the next expense runs under another. -/
def step (s : Outlay) : Act → Outlay
  | .start i expense => match s.runners i with
    | none => s.put i ⟨expense, expense.job⟩
    | some _ => s
  | .turn i ρ => s.turn i ρ

def run (d : Database) (acts : List Act) : Outlay := acts.foldl step { database := d }

def own (s : Outlay) (i : Nat) : List Asked :=
  ((s.log.filter fun e => e.runner = i).map Entry.asked).reverse

def amounts (s : Outlay) : List Text := s.log.flatMap Entry.amounts

/-- A merge that was told of these outputs has gone on to ask the node for a payment. -/
def Merges (s : Outlay) (m : Merge) (us : List Unspent) : Prop :=
  ∃ i, ⟨i, .merge m, .wallet (.unspent 0 9999999), .ok us⟩ ∈ s.log ∧
    ∃ e ∈ s.log, e.runner = i ∧ e.amounts ≠ []

structure Kept (s : Outlay) : Prop where
  walks : ∀ i r, s.runners i = some r → r.expense.job.Walks (s.own i) r.job
  known : ∀ e ∈ s.log, ∃ job, s.runners e.runner = some ⟨e.expense, job⟩

theorem own_cons_other {s : Outlay} {e : Entry} {i : Nat} (other : e.runner ≠ i) :
    own { s with log := e :: s.log } i = s.own i := by
  unfold own
  rw [List.filter_cons_of_neg (by simpa using other)]

theorem own_cons_self {s : Outlay} {e : Entry} {i : Nat} (same : e.runner = i) :
    own { s with log := e :: s.log } i = s.own i ++ [e.asked] := by
  unfold own
  rw [List.filter_cons_of_pos (by simpa using same), List.map_cons, List.reverse_cons]

theorem own_eq_nil {s : Outlay} (h : s.Kept) {i : Nat} (free : s.runners i = none) :
    s.own i = [] := by
  have nobody : s.log.filter (fun e => e.runner = i) = [] := by
    refine List.filter_eq_nil_iff.mpr fun e here => ?_
    obtain ⟨job, runs⟩ := h.known e here
    rintro same
    rw [of_decide_eq_true same, free] at runs
    cases runs
  unfold own
  rw [nobody]
  rfl

theorem Kept.put {s : Outlay} (h : s.Kept) {i : Nat} (free : s.runners i = none) (x : Expense) :
    (s.put i ⟨x, x.job⟩).Kept where
  walks j r here := by
    change (if j = i then _ else s.runners j) = some r at here
    split at here
    · rename_i same
      cases here
      have idle : s.own j = [] := own_eq_nil h (same ▸ free)
      change Job.Walks _ (s.own j) _
      rw [idle]
      exact .stay _
    · exact h.walks j r here
  known e here := by
    obtain ⟨job, runs⟩ := h.known e here
    refine ⟨job, ?_⟩
    change (if e.runner = i then _ else s.runners e.runner) = _
    split
    · rename_i same
      rw [same, free] at runs
      cases runs
    · exact runs

theorem Kept.turn {s : Outlay} (h : s.Kept) {i : Nat} {x : Expense} {q : Query}
    {next : q.Answer → Job x.Result} (here : s.runners i = some ⟨x, .ask q next⟩) (r : q.Answer)
    (d : Database) :
    Kept { s.put i ⟨x, next r⟩ with database := d, log := ⟨i, x, q, r⟩ :: s.log } where
  walks j w at' := by
    change (if j = i then _ else s.runners j) = some w at at'
    split at at'
    · rename_i same
      subst same
      cases at'
      have own : own { s with log := ⟨j, x, q, r⟩ :: s.log } j = s.own j ++ [⟨q, r⟩] :=
        own_cons_self rfl
      change Job.Walks _ (Outlay.own { s with log := ⟨j, x, q, r⟩ :: s.log } j) _
      rw [own]
      exact (h.walks j _ here).snoc r
    · rename_i other
      have own : own { s with log := ⟨i, x, q, r⟩ :: s.log } j = s.own j :=
        own_cons_other fun same => other same.symm
      change Job.Walks _ (Outlay.own { s with log := ⟨i, x, q, r⟩ :: s.log } j) _
      rw [own]
      exact h.walks j w at'
  known e listed := by
    change ∃ job, (if e.runner = i then _ else s.runners e.runner) = _
    rcases List.mem_cons.mp listed with rfl | older
    · exact ⟨next r, if_pos rfl⟩
    · obtain ⟨job, runs⟩ := h.known e older
      split
      · rename_i same
        rw [same, here] at runs
        cases runs
        exact ⟨next r, rfl⟩
      · exact ⟨job, runs⟩

theorem Kept.step {s : Outlay} (h : s.Kept) (a : Act) : (s.step a).Kept := by
  cases a with
  | start i x =>
    unfold Outlay.step
    dsimp only
    split
    · exact h.put ‹_› x
    · exact h
  | turn i ρ =>
    change (s.turn i ρ).Kept
    unfold Outlay.turn
    split
    · exact h.turn ‹_› _ _
    · exact h

theorem kept_run (d : Database) (acts : List Act) : (run d acts).Kept := by
  have steps : ∀ s : Outlay, s.Kept → (acts.foldl Outlay.step s).Kept := by
    induction acts with
    | nil => exact fun s h => h
    | cons a acts ih => exact fun s h => ih _ (h.step a)
  exact steps _ ⟨nofun, fun _ here => (List.not_mem_nil here).elim⟩

theorem mem_own {s : Outlay} {e : Entry} (here : e ∈ s.log) : e.asked ∈ s.own e.runner :=
  List.mem_reverse.mpr (List.mem_map_of_mem (List.mem_filter.mpr ⟨here, decide_eq_true rfl⟩))

namespace Kept

variable {s : Outlay} {e : Entry} {m : Merge} {t : Text}

theorem expense_eq (h : s.Kept) {e' : Entry} (here : e ∈ s.log) (here' : e' ∈ s.log)
    (same : e.runner = e'.runner) : e.expense = e'.expense := by
  obtain ⟨job, runs⟩ := h.known e here
  obtain ⟨job', runs'⟩ := h.known e' here'
  rw [same, runs'] at runs
  exact (congrArg Runner.expense (Option.some.inj runs)).symm

theorem mem_of_own (h : s.Kept) (here : e ∈ s.log) {a : Asked} (own : a ∈ s.own e.runner) :
    ⟨e.runner, e.expense, a⟩ ∈ s.log := by
  obtain ⟨e', listed, rfl⟩ := List.mem_map.mp (List.mem_reverse.mp own)
  obtain ⟨there, same⟩ := List.mem_filter.mp listed
  have runner : e'.runner = e.runner := of_decide_eq_true same
  rw [← runner, ← h.expense_eq there here runner]
  exact there

theorem amounts_cases (here : t ∈ e.amounts) : ∃ outputs rate inputs,
    e.asked.query = .wallet (.broadcast outputs rate inputs) ∧ t ∈ outputs.amounts e.expense.memo := by
  unfold Entry.amounts at here
  split at here
  · exact ⟨_, _, _, ‹_›, here⟩
  · cases here

theorem cycle_spared (h : s.Kept) (here : e ∈ s.log) {b : Batch} (cycle : e.expense = .cycle b)
    (paid : t ∈ e.amounts) : Outputs.Spared t := by
  obtain ⟨outputs, rate, inputs, asked, amount⟩ := amounts_cases paid
  obtain ⟨job, runs⟩ := h.known e here
  have walks := h.walks _ _ runs
  rw [cycle] at amount
  obtain ⟨i, x, a⟩ := e
  cases cycle
  obtain ⟨r, made⟩ := (walks.asks b.cycle_asks).2 a (mem_own here) outputs rate inputs asked
  exact Batch.spared_of_outputs made amount

theorem merge_pays (h : s.Kept) (here : e ∈ s.log) (merge : e.expense = .merge m)
    (paid : t ∈ e.amounts) :
    ∃ us c, ⟨e.runner, .merge m, .wallet (.unspent 0 9999999), .ok us⟩ ∈ s.log ∧
      m.yield? us = some (.finite false c (-8)) ∧ Decimal.Writes c t := by
  obtain ⟨outputs, rate, inputs, asked, amount⟩ := amounts_cases paid
  obtain ⟨job, runs⟩ := h.known e here
  have walks := h.walks _ _ runs
  rw [merge] at amount
  obtain ⟨i, x, a⟩ := e
  cases merge
  rcases Merge.walks_run walks (mem_own here) with ⟨r, rfl⟩ | ⟨us, listed, spends⟩
  · cases asked
  · obtain ⟨y, address, leaves, above, made⟩ := spends.2 outputs rate inputs asked
    obtain ⟨c, rfl, -⟩ := Merge.yield?_eq leaves above
    refine ⟨us, c, h.mem_of_own here listed, leaves, ?_⟩
    change t ∈ outputs.amounts m.memo at amount
    rw [Outputs.amounts_payment made] at amount
    split at amount
    · cases amount
    · rw [List.mem_singleton.mp amount]
      exact Decimal.writes_fixed8 rfl

theorem told_unique (h : s.Kept) {i : Nat} {us us' : List Unspent}
    (first : ⟨i, .merge m, .wallet (.unspent 0 9999999), .ok us⟩ ∈ s.log)
    (second : ⟨i, .merge m, .wallet (.unspent 0 9999999), .ok us'⟩ ∈ s.log) : us = us' := by
  obtain ⟨job, runs⟩ := h.known _ first
  exact Merge.listing_unique (h.walks _ _ runs) (mem_own first) (mem_own second)

end Kept

/-- Whatever is stored, listed and answered, no dust is asked to be paid out in a run of cycles and
merges if and only if no merge in it leaves less than the dust limit of what it spends. Payments check
their amounts; a merge does not check its own. -/
theorem spared_iff (d : Database) (acts : List Act) :
    (∀ t ∈ (run d acts).amounts, Outputs.Spared t) ↔
      ∀ m us, (run d acts).Merges m us →
        ∃ y, m.yield? us = some y ∧ y.lt Money.dustLimit = .ok false := by
  have kept := kept_run d acts
  generalize run d acts = s at kept
  constructor
  · rintro spared m us ⟨i, listed, e, here, rfl, paid⟩
    obtain ⟨t, amount⟩ := List.exists_mem_of_ne_nil _ paid
    have amount' : t ∈ s.amounts := List.mem_flatMap.mpr ⟨e, here, amount⟩
    have merge : e.expense = .merge m := kept.expense_eq here listed rfl
    obtain ⟨us', c, listed', leaves, writes⟩ := kept.merge_pays here merge amount
    obtain ⟨n, enough, written⟩ := spared t amount'
    cases written.unique writes
    cases kept.told_unique listed listed'
    refine ⟨_, leaves, ?_⟩
    rw [Money.lt_dust_finite, decide_eq_false (Nat.not_lt.mpr enough)]
  · intro enough t amount
    obtain ⟨e, here, paid⟩ := List.mem_flatMap.mp amount
    cases expense : e.expense with
    | cycle b => exact kept.cycle_spared here expense paid
    | merge m =>
      obtain ⟨us, c, listed, leaves, writes⟩ := kept.merge_pays here expense paid
      have merges : s.Merges m us := ⟨e.runner, listed, e, here, rfl, List.ne_nil_of_mem paid⟩
      obtain ⟨y, leaves', above⟩ := enough m us merges
      cases leaves.symm.trans leaves'
      rw [Money.lt_dust_finite] at above
      exact ⟨c, Nat.not_lt.mp (of_decide_eq_false (Except.ok.inj above)), writes⟩

/-! A wallet with a single output of a thousand satoshis, and a merge that is content with one. -/

def thousand : Unspent where
  txid := .text "aa"
  vout := .int 0
  address := .text ""
  amount := .finite false 1 (-5)
  confirmations := .int 1
  spendable := .bool true
  solvable := .bool true
  safe := .bool true

def thousandNode : Reaction where
  clock := 0
  wallet
    | .unspent .. => .ok [thousand]
    | .freshAddress .. => .ok "tb1qfresh"
    | .broadcast .. => .ok "ab"
    | _ => .error (.faucet [])
  reply := .error (.faucet [])
  number := 0
  purse := .zero

def loneMerge : Merge := { least := 1 }

def loneActs : List Act := .start 0 (.merge loneMerge) :: List.replicate 3 (.turn 0 thousandNode)

/-- Its fee is 33 satoshis and a bit, so that 966 of them are left and paid. -/
theorem merge_pays_dust : loneMerge.validate.isOk = true ∧
    ¬∀ t ∈ (run {} loneActs).amounts, Outputs.Spared t := by
  have paid : ("0.00000966" : Text) ∈ (run {} loneActs).amounts := by decide +kernel
  have written : Decimal.Writes 966 "0.00000966" := by
    have shown := Decimal.writes_fixed8 (c := 966) (n := 966) rfl
    exact shown
  refine ⟨by decide, fun spared => ?_⟩
  obtain ⟨n, enough, writes⟩ := spared _ paid
  have few := writes.unique written
  omega

end Outlay

end Faucet
