import Faucet.Proofs.Admission
import Faucet.Proofs.WellKept
import Faucet.Proofs.Wire
import Faucet.Upkeep

/-!
The books of the faucet. What it tells of its payouts counts every row once and sums up exactly what
was paid, and whoever calls the store, what was paid stays paid: a row that is broadcast or failed is
so for good, no amount is below zero, and rows come from new payouts only.
-/

set_option autoImplicit false

namespace Faucet

namespace Ledger

def sent (l : Ledger) : List Row := l.filter fun r => r.status = .broadcast

/-- The payouts made of which an earlier ledger knows as not made, or not at all. -/
def sentSince (l' l : Ledger) : List Row := l'.sent.filter fun t => !l.sent.any fun r => r.id = t.id

theorem count_cons (r : Row) (l : Ledger) (status : Status) :
    count (r :: l) status = count l status + if r.status = status then 1 else 0 := by
  unfold count
  rw [List.filter_cons]
  by_cases here : r.status = status
  · rw [if_pos (decide_eq_true here), if_pos here]
    rfl
  · rw [if_neg (by simpa using here), if_neg here]
    rfl

theorem counts_eq (l : Ledger) :
    l.count .pending + l.count .processing + l.count .broadcast + l.count .failed = l.length := by
  induction l with
  | nil => rfl
  | cons r l ih =>
    simp only [count_cons, List.length_cons]
    cases r.status <;> simp <;> omega

theorem broadcastSats_eq (l : Ledger) : l.broadcastSats = (l.sent.map Row.sats).sum := by
  induction l with
  | nil => rfl
  | cons r l ih =>
    change (if r.status = .broadcast then r.sats else 0) + broadcastSats l = _
    unfold sent at ih ⊢
    rw [List.filter_cons, ih]
    by_cases here : r.status = .broadcast
    · rw [if_pos here, if_pos (decide_eq_true here)]
      rfl
    · rw [if_neg here, if_neg (by simpa using here), Int.zero_add]

theorem Evolves.cons {step : Status → Status → Prop} {r : Row} {l l' : Ledger}
    (h : Evolves step (r :: l) l') :
    ∃ t rest, l' = t :: rest ∧ r.Becomes step t ∧ l.Evolves step rest := by
  obtain ⟨t, first, becomes⟩ := h 0 r rfl
  cases l' with
  | nil => cases first
  | cons t' rest =>
    obtain rfl := Option.some.inj first
    exact ⟨t', rest, rfl, becomes, fun k r hr => h (k + 1) r hr⟩

theorem Evolves.sublist {l l' : Ledger} (h : l.Evolves (Relation.TransGen Status.Edge) l')
    {status : Status} (ended : status.isTerminal = true) :
    (l.filter fun r => r.status = status).Sublist (l'.filter fun r => r.status = status) := by
  induction l generalizing l' with
  | nil => exact List.nil_sublist _
  | cons r l ih =>
    obtain ⟨t, rest, rfl, becomes, later⟩ := h.cons
    by_cases here : r.status = status
    · obtain rfl := becomes.eq_of_isTerminal (here ▸ ended)
      rw [List.filter_cons_of_pos (by simpa using here), List.filter_cons_of_pos (by simpa using here)]
      exact (ih later).cons_cons t
    · rw [List.filter_cons_of_neg (by simpa using here)]
      exact (ih later).trans ((List.sublist_cons_self t rest).filter _)

variable {l l' : Ledger}

theorem worth_append (l l' : List Row) : worth (l ++ l') = worth l + worth l' := by
  unfold worth
  rw [List.map_append, List.sum_append]

theorem worth_perm (h : l.Perm l') : worth l = worth l' := (h.map _).sum_eq

theorem worth_sent (h : l.Evolves (Relation.TransGen Status.Edge) l') (keyed : l'.Keyed) :
    worth l'.sent = worth l.sent + worth (l'.sentSince l) := by
  let known (t : Row) : Bool := l.sent.any fun r => r.id = t.id
  have stays : l.sent.Sublist l'.sent := h.sublist rfl
  have own : l.sent.filter known = l.sent := List.filter_eq_self.mpr fun r hr =>
    List.any_eq_true.mpr ⟨r, hr, decide_eq_true rfl⟩
  have part : l.sent.Sublist (l'.sent.filter known) := own ▸ stays.filter known
  have few : (l'.sent.filter known).length ≤ l.sent.length := by
    have ids : ((l'.sent.filter known).map Row.id).Nodup :=
      ((List.filter_sublist.trans List.filter_sublist).map Row.id).nodup keyed.ids
    have sub : (l'.sent.filter known).map Row.id ⊆ l.sent.map Row.id := fun id hid => by
      obtain ⟨t, ht, rfl⟩ := List.mem_map.mp hid
      obtain ⟨r, hr, same⟩ := List.any_eq_true.mp (List.mem_filter.mp ht).2
      exact List.mem_map.mpr ⟨r, hr, of_decide_eq_true same⟩
    have less := (ids.subperm sub).length_le
    rwa [List.length_map, List.length_map] at less
  rw [part.eq_of_length_le few]
  exact (worth_perm (List.filter_append_perm known l'.sent)).symm.trans (worth_append _ _)

theorem Nonneg.sum_sent (nonneg : l.Nonneg) : 0 ≤ (l.sent.map Row.sats).sum :=
  List.sum_nonneg fun n hn => by
    obtain ⟨r, hr, rfl⟩ := List.mem_map.mp hn
    exact nonneg r (List.mem_filter.mp hr).1

theorem worth_sublist (nonneg : l'.Nonneg) (h : l.Sublist l') : worth l ≤ worth l' := by
  unfold worth
  refine (h.map _).sum_le_sum fun q hq => ?_
  obtain ⟨r, hr, rfl⟩ := List.mem_map.mp hq
  exact r.toRat_amount_nonneg (nonneg r hr)

end Ledger

namespace Upkeep

/-- Every row is counted once, and the total is the sum of the amounts that were paid: its satoshis
are divided into coin without a rounding. -/
structure Tells (l : Ledger) (stats : Stats) : Prop where
  pending : stats.pending = l.count .pending
  processing : stats.processing = l.count .processing
  broadcast : stats.broadcast = l.count .broadcast
  failed : stats.failed = l.count .failed
  all : stats.pending + stats.processing + stats.broadcast + stats.failed = l.length
  total : stats.totalSent.Worth (Ledger.worth l.sent)
  quotient : Decimal.div (Decimal.ofInt (l.sent.map Row.sats).sum) Money.coin = .ok stats.totalSent

variable {l : Ledger}

def books (l : Ledger) (cachedBalance : Decimal) : Stats where
  pending := l.count .pending
  processing := l.count .processing
  broadcast := l.count .broadcast
  failed := l.count .failed
  totalSent := Money.ofSats l.broadcastSats
  cachedBalance := cachedBalance

theorem make_books (l : Ledger) {cachedBalance : Decimal} (finite : cachedBalance.isFinite = true) :
    Stats.make (books l cachedBalance) = .ok (books l cachedBalance) := by
  unfold Stats.make amountRule
  have total : (books l cachedBalance).totalSent.isFinite = true := rfl
  have cached : (books l cachedBalance).cachedBalance.isFinite = true := finite
  rw [if_pos total, if_pos cached]
  rfl

theorem div_sum {n : Int} (above : 0 ≤ n) (few : n < 2 ^ 63) :
    Decimal.div (Decimal.ofInt n) Money.coin = .ok (Money.ofSats n) := by
  obtain ⟨n, rfl⟩ := Int.eq_ofNat_of_zero_le above
  by_cases none : n = 0
  · subst none
    rfl
  · exact Money.div_coin none (by omega)

theorem tells_books (nonneg : l.Nonneg) (few : (l.sent.map Row.sats).sum < 2 ^ 63)
    (cachedBalance : Decimal) : Tells l (books l cachedBalance) where
  pending := rfl
  processing := rfl
  broadcast := rfl
  failed := rfl
  all := by
    rw [← l.counts_eq]
    push_cast
    rfl
  total := by
    unfold Ledger.worth
    rw [sum_toRat_amount, ← Ledger.broadcastSats_eq]
    exact Money.worth_ofSats l.broadcastSats
  quotient := (div_sum nonneg.sum_sent few).trans
    (congrArg (fun n => Except.ok (Money.ofSats n)) l.broadcastSats_eq.symm)

variable {env : Nat → Reaction} {s : Scene}

theorem count_play (hold : s.database.Holds l) (healthy : ∀ n, (env n).fault = none)
    (status : Status) : ∃ s', (Store.count status).play env s = (.ok (l.count status), s') ∧
      s'.database.Holds l :=
  Job.session_play (.count status) healthy hold rfl rfl

theorem totalBroadcast_play (hold : s.database.Holds l) (healthy : ∀ n, (env n).fault = none)
    (fits : Database.holdsInteger l.broadcastSats = true) :
    ∃ s', Store.totalBroadcast.play env s = (.ok (Money.ofSats l.broadcastSats), s') := by
  have read : Database.perform l .broadcastSats = (.ok l.broadcastSats, l) := by
    unfold Database.perform
    dsimp only
    rw [if_pos fits]
  obtain ⟨s', played, _⟩ := Job.session_play .broadcastSats healthy hold rfl read
  exact ⟨s', Job.play_bind played _⟩

/-- On a store in working order, as long as the total fits the database. -/
theorem stats_play (hold : s.database.Holds l) (healthy : ∀ n, (env n).fault = none)
    (finite : ∀ n, (env n).purse.isFinite = true) (nonneg : l.Nonneg)
    (few : (l.sent.map Row.sats).sum < 2 ^ 63) :
    ∃ told, (stats.play env s).1 = .ok told ∧ Tells l told := by
  have above := nonneg.sum_sent
  have fits : Database.holdsInteger l.broadcastSats = true := by
    rw [Database.holdsInteger_iff, Ledger.broadcastSats_eq]
    omega
  obtain ⟨s₁, pending, hold₁⟩ := count_play hold healthy .pending
  obtain ⟨s₂, processing, hold₂⟩ := count_play hold₁ healthy .processing
  obtain ⟨s₃, broadcast, hold₃⟩ := count_play hold₂ healthy .broadcast
  obtain ⟨s₄, failed, hold₄⟩ := count_play hold₃ healthy .failed
  obtain ⟨s₅, total⟩ := totalBroadcast_play hold₄ healthy fits
  let cachedBalance := (env s₅.log.length).purse
  have counted : stats.play env s =
      (Job.ofExcept (Stats.make (books l cachedBalance))).play env (s₅.asked (env s₅.log.length) .cached) :=
    (Job.play_bind pending _).trans <| (Job.play_bind processing _).trans <|
    (Job.play_bind broadcast _).trans <| (Job.play_bind failed _).trans (Job.play_bind total _)
  rw [counted, make_books l (finite s₅.log.length)]
  exact ⟨_, rfl, tells_books nonneg few cachedBalance⟩

end Upkeep

namespace Traffic

def made (log : List Entry) : List Int := (log.filterMap Entry.edit?).reverse.flatMap Edit.ids

def madeBy (i : Nat) (log : List Entry) : List Int := (editsIn i log).reverse.flatMap Edit.ids

theorem made_append (newer log : List Entry) : made (newer ++ log) = made log ++ made newer := by
  unfold made
  rw [List.filterMap_append, List.reverse_append, List.flatMap_append]

theorem made_singleton (e : Entry) : made [e] = e.edit?.toList.flatMap Edit.ids := by
  unfold made
  rw [List.filterMap_cons]
  cases e.edit? with
  | none => rfl
  | some edit => rfl

namespace Sound

variable {s : Traffic}

theorem holds_step (h : s.Sound) (hold : s.database.Holds s.rows) (a : Act) :
    (s.step a).database.Holds (s.step a).rows := by
  cases a with
  | start i call =>
    unfold Traffic.step
    dsimp only
    split
    · exact hold
    · exact hold
  | turn i ρ =>
    change (s.turn i ρ).database.Holds (s.turn i ρ).rows
    unfold Traffic.turn
    split
    · rename_i call q next here
      obtain ⟨p, follows, _⟩ := h.keeps i _ here
      obtain ⟨_, ⟨allowed, _⟩, _⟩ := follows (ρ.answer s.database q).1
      exact (ρ.accounts hold allowed.lawful rfl).1
    · exact hold

theorem holds_steps (h : s.Sound) (hold : s.database.Holds s.rows) (acts : List Act) :
    (acts.foldl Traffic.step s).database.Holds (acts.foldl Traffic.step s).rows := by
  induction acts generalizing s with
  | nil => exact hold
  | cons a acts ih => exact ih (h.step a).1 (h.holds_step hold a)

theorem grows_step (h : s.Sound) (a : Act) : ∃ newer, (s.step a).log = newer ++ s.log ∧
    (s.step a).rows.map Row.id = s.rows.map Row.id ++ made newer := by
  have still : ∃ newer, s.log = newer ++ s.log ∧
      s.rows.map Row.id = s.rows.map Row.id ++ made newer := ⟨[], rfl, (List.append_nil _).symm⟩
  cases a with
  | start i call =>
    unfold Traffic.step
    dsimp only
    split
    · exact still
    · exact still
  | turn i ρ =>
    change ∃ newer, (s.turn i ρ).log = newer ++ s.log ∧
      (s.turn i ρ).rows.map Row.id = s.rows.map Row.id ++ made newer
    unfold Traffic.turn
    split
    · rename_i call q next here
      have sound := h.turn here (Eq.refl (ρ.answer s.database q))
      refine ⟨[_], rfl, ?_⟩
      rw [made_singleton]
      exact Edit.Accounts.ids (sound.honest _ List.mem_cons_self).accounts
    · exact still

theorem grows (h : s.Sound) (acts : List Act) : ∃ newer,
    (acts.foldl Traffic.step s).log = newer ++ s.log ∧
      (acts.foldl Traffic.step s).rows.map Row.id = s.rows.map Row.id ++ made newer := by
  induction acts generalizing s with
  | nil => exact ⟨[], rfl, (List.append_nil _).symm⟩
  | cons a acts ih =>
    obtain ⟨first, log, ids⟩ := h.grows_step a
    obtain ⟨newer, log', ids'⟩ := ih (h.step a).1
    refine ⟨newer ++ first, ?_, ?_⟩
    · rw [List.append_assoc, ← log]
      exact log'
    · rw [made_append, ← List.append_assoc, ← ids]
      exact ids'

/-- A call that is over has added the row that it answers, and none if it does not answer one. -/
theorem madeBy_eq (h : s.Sound) {i : Nat} {call : StoreCall} {outcome : Except Failure call.Result}
    (ended : s.callers i = some ⟨call, Job.ofExcept outcome⟩) :
    madeBy i s.log = (Served.mk call outcome).row?.toList.map Row.id := by
  obtain ⟨p, follows, edits⟩ := h.keeps i _ ended
  unfold madeBy
  rw [← edits]
  cases outcome with
  | ok a => exact StoreCall.Ends.ids follows
  | error e => exact StoreCall.Ends.ids follows

end Sound

/-- Whoever calls the store, from an empty one on, with whatever arguments and at whatever readings of
the clock, and whichever statements fail: what is told counts every row once, and its total is the
sum of what was paid, as long as that fits the database. From then on the rows that ended stay, what
was paid grows by the payouts made since, and rows are added by the new payouts that were answered. -/
theorem accounting (lasting : Bool) (acts more : List Act) :
    let d : Database := { lasting, table := some [] }
    let s := run d acts
    let s' := run d (acts ++ more)
    (∀ (env : Nat → Reaction) (c : Scene), c.database = s.database → (∀ n, (env n).fault = none) →
      (∀ n, (env n).purse.isFinite = true) → (s.rows.sent.map Row.sats).sum < 2 ^ 63 →
      ∃ told, (Upkeep.stats.play env c).1 = .ok told ∧ Upkeep.Tells s.rows told) ∧
    s.rows.count .broadcast ≤ s'.rows.count .broadcast ∧
    s.rows.count .failed ≤ s'.rows.count .failed ∧
    Ledger.worth s.rows.sent ≤ Ledger.worth s'.rows.sent ∧
    Ledger.worth s'.rows.sent =
      Ledger.worth s.rows.sent + Ledger.worth (s'.rows.sentSince s.rows) ∧
    ∃ newer, s'.log = newer ++ s.log ∧ s'.rows.length = s.rows.length + (made newer).length ∧
      ∀ i call outcome, s'.callers i = some ⟨call, Job.ofExcept outcome⟩ →
        madeBy i s'.log = (Served.mk call outcome).row?.toList.map Row.id := by
  intro d s s'
  have first : Sound { database := d } := sound_start Ledger.keyed_nil
  have none : Ledger.Nonneg d.rows := fun _ here => (List.not_mem_nil here).elim
  have sound : s.Sound := (first.steps acts).1
  have nonneg : s.Nonneg := (nonneg_start none).steps acts
  have hold : s.database.Holds s.rows := first.holds_steps ⟨rfl, rfl, rfl⟩ acts
  have later : s' = more.foldl step s := List.foldl_append
  have sound' : s'.Sound := later ▸ (sound.steps more).1
  have nonneg' : s'.Nonneg := later ▸ nonneg.steps more
  have evolves : s.rows.Evolves (Relation.TransGen Status.Edge) s'.rows :=
    later ▸ (sound.steps more).2
  have paid : Ledger.Nonneg s'.rows.sent := fun r hr => nonneg'.rows r (List.mem_filter.mp hr).1
  obtain ⟨newer, log, ids⟩ : ∃ newer, s'.log = newer ++ s.log ∧
      s'.rows.map Row.id = s.rows.map Row.id ++ made newer := later ▸ sound.grows more
  refine ⟨fun env c same healthy finite few => ?_, (evolves.sublist rfl).length_le,
    (evolves.sublist rfl).length_le, Ledger.worth_sublist paid (evolves.sublist rfl),
    Ledger.worth_sent evolves sound'.keyed, newer, log, ?_, fun i call outcome => sound'.madeBy_eq⟩
  · exact Upkeep.stats_play (same ▸ hold) healthy finite nonneg.rows few
  · have counted := congrArg List.length ids
    rwa [List.length_append, List.length_map, List.length_map] at counted

/-- A payout is made, and its address is asked for again. -/
def settled : List Act :=
  [.start 0 (.create (some "tb1qdestination") (.finite false 2 (-3)) "web")] ++
    List.replicate 3 (.turn 0 (rivalAt 5)) ++ [.start 1 (.transition rivalClaim)] ++
    List.replicate 3 (.turn 1 (rivalAt 6)) ++
    [.start 2 (.transition
      { id := 1, source := .processing, target := .broadcast, txid := some "aa" })] ++
    List.replicate 3 (.turn 2 (rivalAt 7)) ++
    [.start 3 (.create (some "tb1qdestination") (.finite false 2 (-3)) "web")] ++
    List.replicate 4 (.turn 3 (rivalAt 8))

theorem accounting_settled :
    let after := run { table := some [] } settled
    (∃ told, (Upkeep.stats.play (fun _ => rivalAt 9) { database := after.database }).1 = .ok told ∧
      told.broadcast = 1 ∧ told.totalSent.Worth (2 / 1000)) ∧ madeBy 3 after.log = [] := by
  intro after
  have paid : (after.rows.sent.map Row.sats).sum = 200000 := by decide +kernel
  have one : after.rows.count .broadcast = 1 := by decide +kernel
  have few : (after.rows.sent.map Row.sats).sum < 2 ^ 63 := by
    rw [paid]
    decide
  have worth : Ledger.worth after.rows.sent = 2 / 1000 := by
    unfold Ledger.worth
    rw [sum_toRat_amount, paid]
    norm_num
  obtain ⟨books, _, _, _, _, _, _, _, answers⟩ := accounting false settled []
  obtain ⟨told, played, tells⟩ := books (fun _ => rivalAt 9) { database := after.database }
    (Eq.refl _) (fun _ => rfl) (fun _ => rfl) few
  refine ⟨⟨told, played, ?_, ?_⟩, ?_⟩
  · exact tells.broadcast.trans (congrArg Nat.cast one)
  · rw [← worth]
    exact tells.total
  · exact answers 3 (.create (some "tb1qdestination") (.finite false 2 (-3)) "web")
      (.error (.store (.duplicate "tb1qdestination"))) rfl

end Traffic

end Faucet
