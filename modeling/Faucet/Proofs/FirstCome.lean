import Faucet.Proofs.Conduct
import Faucet.Proofs.WellKept

/-!
First come, first served. A cycle lists the oldest pending payouts and claims them in order, and a
payout that it fails to claim on a store without failures has been claimed by another cycle. So
nothing older is left when a payout is claimed: the claimed payouts are those that were created
first, and the pending ones are all that came later.
-/

set_option autoImplicit false

namespace Faucet

section
variable {done all : List Int} {n : Int}

theorem prefix_concat_of_least (sorted : all.Pairwise (· < ·)) (h : done <+: all) (here : n ∈ all)
    (new : n ∉ done) (least : ∀ m ∈ all, m ∉ done → n ≤ m) : done ++ [n] <+: all := by
  obtain ⟨todo, rfl⟩ := h
  cases todo with
  | nil =>
    rw [List.append_nil] at here
    exact absurd here new
  | cons m todo =>
    -- What comes next is less than all that is missing besides, and more than all that is done.
    obtain ⟨_, later, apart⟩ := List.pairwise_append.mp sorted
    have missing : m ∉ done := fun old => Int.lt_irrefl m (apart m old m List.mem_cons_self)
    have low : n ≤ m := least m (List.mem_append_right done List.mem_cons_self) missing
    have high : m ≤ n := by
      rcases List.mem_cons.mp ((List.mem_append.mp here).resolve_left new) with rfl | after
      · exact Int.le_refl n
      · exact Int.le_of_lt ((List.pairwise_cons.mp later).1 n after)
    obtain rfl := Int.le_antisymm low high
    exact ⟨todo, List.append_assoc done [n] todo⟩

theorem not_mem_prefix_iff (sorted : all.Pairwise (· < ·)) (h : done <+: all) (here : n ∈ all) :
    n ∉ done ↔ ∀ m ∈ done, m < n := by
  obtain ⟨todo, rfl⟩ := h
  constructor
  · intro new m old
    exact (List.pairwise_append.mp sorted).2.2 m old n ((List.mem_append.mp here).resolve_left new)
  · intro later old
    exact Int.lt_irrefl n (later n old)

end

namespace Ledger

/-- Payouts to claim in order. No pending one is left out that is older than one of them. -/
structure Queued (l : Ledger) (rows : List Row) : Prop where
  ordered : rows.Pairwise fun r t => r.id < t.id
  known : ∀ r ∈ rows, ∃ t ∈ l, t.id = r.id
  first : ∀ t ∈ l, t.status = .pending → ∀ r ∈ rows, t.id < r.id → ∃ x ∈ rows, x.id = t.id

variable {l : Ledger} {x : Row} {rest : List Row}

theorem Queued.nil (l : Ledger) : l.Queued [] where
  ordered := .nil
  known := fun _ h => (List.not_mem_nil h).elim
  first := fun _ _ _ _ h => (List.not_mem_nil h).elim

theorem Queued.least (h : l.Queued (x :: rest)) {t : Row} (ht : t ∈ l)
    (pending : t.status = .pending) : x.id ≤ t.id := by
  by_contra older
  obtain ⟨y, hy, same⟩ := h.first t ht pending x List.mem_cons_self (Int.not_le.mp older)
  rcases List.mem_cons.mp hy with rfl | hy
  · omega
  · have := (List.pairwise_cons.mp h.ordered).1 y hy
    omega

theorem Queued.tail (h : l.Queued (x :: rest))
    (gone : ∀ t ∈ l, t.id = x.id → t.status ≠ .pending) : l.Queued rest where
  ordered := (List.pairwise_cons.mp h.ordered).2
  known := fun r hr => h.known r (List.mem_cons_of_mem x hr)
  first := by
    intro t ht pending r hr older
    obtain ⟨y, hy, same⟩ := h.first t ht pending r (List.mem_cons_of_mem x hr) older
    rcases List.mem_cons.mp hy with rfl | hy
    · exact absurd pending (gone t ht same.symm)
    · exact ⟨y, hy, same⟩

theorem Keyed.queued_list (k : l.Keyed) (n : Int) :
    l.Queued (l.list (some .pending) (some ⟨.id, false⟩) (some n)) := by
  obtain ⟨ordered, least⟩ := k.list_by_id (some .pending) (some n)
  refine ⟨ordered, fun r hr => ⟨r, (mem_list hr).1, rfl⟩, fun t ht pending r hr older => ?_⟩
  by_contra missing
  have asked : t ∈ l.matching (some .pending) := List.mem_filter.mpr ⟨ht, decide_eq_true pending⟩
  have := least t asked (fun here => missing ⟨t, here, rfl⟩) r hr
  omega

end Ledger

theorem Edit.Accounts.pending_old {l l' : Ledger} {told : Option Edit} (h : Accounts l l' told)
    {t : Row} (ht : t ∈ l') (pending : t.status = .pending) : t ∈ l ∨ ∀ r ∈ l, r.id < t.id := by
  rcases h.mem_cases ht with old | ⟨_, _, _, address, source, sats, now, rfl⟩ |
    ⟨c, now, r, _, allowed, _, _, rfl⟩
  · exact .inl old
  · exact .inr fun r hr => Ledger.id_lt_nextId hr
  · exact absurd pending (Status.ne_pending_of_edge ((Store.permit_ok_iff c).mp allowed).1)

theorem Edit.Accounts.queued {l l' : Ledger} {told : Option Edit} (h : Accounts l l' told)
    {rows : List Row} (q : l.Queued rows) : l'.Queued rows := by
  refine ⟨q.ordered, fun r hr => ?_, fun t ht pending r hr older => ?_⟩
  · obtain ⟨t, ht, same⟩ := q.known r hr
    obtain ⟨t', ht', becomes⟩ := h.evolves.exists_mem ht
    exact ⟨t', ht', becomes.id.trans same⟩
  · rcases h.pending_old ht pending with old | new
    · exact q.first t old pending r hr older
    · obtain ⟨u, hu, same⟩ := q.known r hr
      have := new u hu
      omega

namespace Batch.Stage

def queue : Stage → List Row
  | .listed rows _ | .ready _ rows | .claimed _ _ _ rows | .calling _ _ _ _ rows
  | .paid _ _ _ _ rows | .closing _ _ _ _ rows => rows
  | .claiming _ r rows => r :: rows
  | .listing | .finished _ | .raised .. => []

variable {b : Batch} {s s' : Stage}

theorem Moves.queue_wallet {c : WalletCall} {r : Except Failure c.Answer}
    (m : Moves b s (.wallet c) r s') : s'.queue = s.queue ∨ s'.queue = [] := by
  cases m with
  | balances rows needed answer =>
    exact ofBalances_cases rows needed answer (fun _ _ => .inr rfl) (fun _ => .inr rfl) (.inl rfl)
  | call => exact .inl rfl

theorem claim_defect {ρ : Reaction} (healthy : ρ.fault = none) {d d' : Database} {l : Ledger}
    (hold : d.Holds l) {x : Row} {now : Moment} {e : Failure}
    (done : ρ.answer d (.session (.update (claimOf x) now)) = (.error e, d')) :
    e.isStore = false := by
  have answer := congrArg Prod.fst done
  by_cases fits : Database.holdsInteger x.id = true
  · have bound : Database.bind (.update (claimOf x) now) = .ok () := if_pos fits
    rw [Reaction.session_ok healthy hold bound] at answer
    cases answer
  · have refused : Database.bind (.update (claimOf x) now) = .error _ := if_neg fits
    rw [Reaction.session_error_eq healthy hold refused] at answer
    cases answer
    rfl

theorem Moves.queued {ρ : Reaction} (healthy : ρ.fault = none) {d d' : Database} {l : Ledger}
    (hold : d.Holds l) (k : l.Keyed) {q : Query} {r : q.Answer} (m : Moves b s q r s')
    (permitted : s.Permitted) (h : l.Queued s.queue) (done : ρ.answer d q = (r, d')) :
    Ledger.Queued d'.rows s'.queue := by
  -- Nothing that happens in between puts a payout in front of those that wait.
  have same : Ledger.Queued d'.rows s.queue :=
    (ρ.accounts hold (m.lawful permitted) done).2.queued h
  have none : Ledger.Queued d'.rows [] := .nil d'.rows
  cases m with
  | enterListFails e | listFails e => exact unlisted_cases e (fun _ => none) none
  | list rows =>
    obtain ⟨rfl, still⟩ := ρ.list_ok hold done
    rw [still]
    have listed := k.queued_list b.size
    exact ofRows_cases _ (fun _ => .nil l) (fun _ => .nil l) fun _ => listed
  | balances rows needed answer =>
    exact ofBalances_cases rows needed answer (fun _ _ => none) (fun _ => none) same
  | enterClaimFails past x rest e =>
    rw [Reaction.enter_eq healthy] at done
    cases done
  | claimClockFails => cases done
  | claim past x rest now =>
    obtain ⟨_, changed⟩ := ρ.update_ok hold done
    refine same.tail fun t ht here pending => ?_
    rw [changed] at ht
    obtain ⟨u, hu, rfl⟩ := (Ledger.mem_apply l (claimOf x) now).mp ht
    split at pending
    · cases pending
    · rename_i other
      rw [if_neg other] at here
      exact other ((Ledger.applies_iff _).mpr ⟨here, pending⟩)
  | claimLate past x rest now =>
    obtain ⟨missed, still⟩ := ρ.update_ok hold done
    rw [Ledger.apply_of_not_touches missed.symm] at still
    rw [still] at same ⊢
    refine same.tail fun t ht here pending => ?_
    have touched := (Ledger.touches_iff l (claimOf x)).mpr ⟨t, ht, here, pending⟩
    rw [touched] at missed
    cases missed
  | claimFails past x rest now e =>
    have defect := claim_defect healthy hold done
    unfold unclaimed
    rw [defect]
    exact none
  | payment past x moment rest =>
    exact ofPayment_cases past x moment rest (fun _ _ => same) fun _ _ => same
  | enterEnd past x moment payment rest =>
    exact ofEntry_cases past x moment payment rest (fun _ _ => same) fun _ => same
  | enterEndFails past x moment payment rest e | endClockFails past x moment payment rest e
  | closeFails past x moment payment rest now e =>
    exact unclosed_cases past x moment payment rest e same none
  | _ => exact same

end Batch.Stage

def Edit.claimed? : Edit → Option Int
  | .added _ => none
  | .changed c _ => if c.source = .pending ∧ c.target = .processing then some c.id else none

namespace Crowd

def edits (h : List Note) : List Edit := h.reverse.filterMap Note.edit?

def created (h : List Note) : List Int := (edits h).flatMap Edit.ids

def claims (h : List Note) : List Int := (edits h).filterMap Edit.claimed?

theorem edits_cons (e : Note) (h : List Note) : edits (e :: h) = edits h ++ e.edit?.toList := by
  unfold edits
  rw [List.reverse_cons, List.filterMap_append]
  cases told : e.edit? with
  | none => rw [List.filterMap_cons_none told]; rfl
  | some edit => rw [List.filterMap_cons_some told]; rfl

theorem created_cons (e : Note) (h : List Note) :
    created (e :: h) = created h ++ e.edit?.toList.flatMap Edit.ids := by
  unfold created
  rw [edits_cons, List.flatMap_append]

theorem claims_cons (e : Note) (h : List Note) :
    claims (e :: h) = claims h ++ e.edit?.toList.filterMap Edit.claimed? := by
  unfold claims
  rw [edits_cons, List.filterMap_append]

/-- The payouts were claimed in the order of their creation, and those that were not are pending. -/
structure Lined (l : Ledger) (h : List Note) : Prop where
  kept : l.WellKept
  ids : created h = l.map Row.id
  served : claims h <+: l.map Row.id
  pending : ∀ t ∈ l, t.status = .pending ↔ t.id ∉ claims h

namespace Lined

variable {l l' : Ledger} {h : List Note} {e : Note}

theorem nil : Lined [] [] where
  kept := Ledger.wellKept_nil
  ids := rfl
  served := List.prefix_rfl
  pending := fun _ ht => (List.not_mem_nil ht).elim

theorem unclaimed (k : Lined l h) (accounts : Edit.Accounts l l' e.edit?)
    (other : ∀ c now, e.edit? = some (.changed c now) → c.source ≠ .pending) :
    Lined l' (e :: h) := by
  have ids := accounts.ids
  have same : claims (e :: h) = claims h := by
    rw [claims_cons]
    cases told : e.edit? with
    | none => exact List.append_nil _
    | some edit =>
      have silent : edit.claimed? = none := by
        cases edit with
        | added row => rfl
        | changed c now => exact if_neg fun both => other c now told both.1
      rw [Option.toList_some, List.filterMap_cons_none silent]
      exact List.append_nil _
  constructor
  case kept => exact accounts.wellKept k.kept
  case ids => rw [created_cons, k.ids, ids]
  case served =>
    rw [same, ids]
    exact k.served.trans (List.prefix_append _ _)
  case pending =>
    rw [same]
    intro t ht
    rcases accounts.mem_cases ht with old | ⟨_, _, _, address, source, sats, now, rfl⟩ |
      ⟨c, now, r, told, allowed, hr, applies, rfl⟩
    · exact k.pending t old
    · refine ⟨fun _ early => ?_, fun _ => rfl⟩
      obtain ⟨r, hr, eq⟩ := List.mem_map.mp (k.served.subset early)
      exact absurd eq (Int.ne_of_lt (Ledger.id_lt_nextId hr))
    · -- The row has been claimed before, and is not made pending again.
      have source := ((Ledger.applies_iff c).mp applies).2
      have target := Status.ne_pending_of_edge ((Store.permit_ok_iff c).mp allowed).1
      refine ⟨fun waits => absurd waits target, fun missing => ?_⟩
      exact absurd (source.symm.trans ((k.pending r hr).mpr missing)) (other c now told)

theorem still (k : Lined l h) (silent : e.edit? = none) : Lined l (e :: h) := by
  refine k.unclaimed ?_ fun c now told => ?_
  · rw [silent]
    rfl
  · rw [silent] at told
    cases told

theorem claim (k : Lined l h) {c : Ledger.Change} {now : Moment}
    (told : e.edit? = some (.changed c now)) (makes : (Edit.changed c now).Makes l l')
    (source : c.source = .pending) (least : ∀ t ∈ l, t.status = .pending → c.id ≤ t.id) :
    Lined l' (e :: h) := by
  have kept := makes.wellKept k.kept
  have ids : l'.map Row.id = l.map Row.id := makes.ids.trans (List.append_nil _)
  obtain ⟨allowed, touched, rfl⟩ := makes
  have target : c.target = .processing := by
    have edge := ((Store.permit_ok_iff c).mp allowed).1
    rw [source] at edge
    exact List.mem_singleton.mp edge
  have some : (Edit.changed c now).claimed? = some c.id := if_pos ⟨source, target⟩
  have same : claims (e :: h) = claims h ++ [c.id] := by
    rw [claims_cons, told, Option.toList_some, List.filterMap_cons_some some]
    rfl
  obtain ⟨x, hx, hxid, hxs⟩ := (Ledger.touches_iff l c).mp touched
  rw [source] at hxs
  constructor
  case kept => exact kept
  case ids =>
    rw [created_cons, told, ids, k.ids]
    exact List.append_nil _
  case served =>
    rw [same, ids]
    have here : c.id ∈ l.map Row.id := List.mem_map.mpr ⟨x, hx, hxid⟩
    have new : c.id ∉ claims h := hxid ▸ (k.pending x hx).mp hxs
    refine prefix_concat_of_least (List.pairwise_map.mpr k.kept.ids) k.served here new ?_
    intro m hm missing
    obtain ⟨t, ht, rfl⟩ := List.mem_map.mp hm
    exact least t ht ((k.pending t ht).mpr missing)
  case pending =>
    rw [same]
    intro t ht
    obtain ⟨r, hr, rfl⟩ := (Ledger.mem_apply l c now).mp ht
    simp only [List.mem_append, List.mem_singleton, not_or]
    split
    · rename_i applies
      have own := ((Ledger.applies_iff c).mp applies).1
      have moved := Status.ne_pending_of_edge ((Store.permit_ok_iff c).mp allowed).1
      exact ⟨fun waits => absurd waits moved, fun missing => absurd own missing.2⟩
    · rename_i other
      refine ⟨fun waits => ⟨(k.pending r hr).mp waits, fun own => ?_⟩,
        fun missing => (k.pending r hr).mpr missing.1⟩
      exact other ((Ledger.applies_iff c).mpr ⟨own, waits.trans source.symm⟩)

/-- A turn that claims nothing but the oldest pending payout keeps the order. -/
theorem noted (k : Lined l h) (accounts : Edit.Accounts l l' e.edit?)
    (least : ∀ c now, e.edit? = some (.changed c now) → c.source = .pending →
      ∀ t ∈ l, t.status = .pending → c.id ≤ t.id) : Lined l' (e :: h) := by
  by_cases claiming : ∃ c now, e.edit? = some (.changed c now) ∧ c.source = .pending
  · obtain ⟨c, now, told, source⟩ := claiming
    rw [told] at accounts
    exact k.claim told accounts source (least c now told source)
  · exact k.unclaimed accounts fun c now told source => claiming ⟨c, now, told, source⟩

end Lined

/-- A cycle waits its turn with the payouts that it has yet to claim. -/
def Waits (v : Sight) : Footing := fun _ _ _ st => st.Permitted ∧ v.rows.Queued st.queue

theorem lined_rule :
    Rule (fun v => Lined v.rows v.history) Waits fun ρ => ρ.fault = none where
  begins := fun v _ _ _ _ => ⟨trivial, .nil v.rows⟩
  joined := fun _ _ _ k => ⟨k, fun _ _ _ _ waits => waits⟩
  errand := by
    intro s sound k i q r ρ d asked _ done
    have accounts := (ρ.accounts sound.holds (Query.lawful_of_errand asked) done).2
    refine ⟨k.unclaimed accounts fun c now told => ?_, fun j b calling st _ waits => ?_⟩
    · rcases Query.edit_of_errand asked told with ⟨row, edit⟩ | ⟨x, now, edit⟩
      · cases edit
      · cases edit
        exact nofun
    · exact ⟨waits.1, accounts.queued waits.2⟩
  called := by
    intro s _ k i b st c r st' waits _
    exact ⟨⟨k.still rfl, fun _ _ _ _ _ waits => waits⟩, waits⟩
  returned := by
    intro s _ k i b st c r st' waits m
    refine ⟨⟨k.still rfl, fun _ _ _ _ _ waits => waits⟩, m.permitted waits.1, ?_⟩
    change s.rows.Queued st'.queue
    rcases m.queue_wallet with same | none
    · exact same ▸ waits.2
    · exact none ▸ .nil s.rows
  answered := by
    intro s sound k i b st q r st' ρ d waits _ m healthy done
    have accounts := (ρ.accounts sound.holds (m.lawful waits.1) done).2
    refine ⟨⟨k.noted accounts fun c now told source => ?_, fun j b calling st _ waits => ?_⟩,
      m.permitted waits.1, m.queued healthy sound.holds sound.payable.toKeyed waits.1 waits.2 done⟩
    · rcases m.edit_cases told with ⟨past, x, rest, _, rfl, edit, _⟩ |
        ⟨_, x, _, payment, _, _, _, edit, _⟩
      · cases edit
        exact fun t ht pending => waits.2.least ht pending
      · cases edit
        rw [Batch.endOf_source] at source
        cases source
    · exact ⟨waits.1, accounts.queued waits.2⟩

/-- From an empty store on, as long as the store does not fail: payouts are claimed in the order in
which they were created, none is passed over, and those that are pending came after all that were
ever claimed. Cycles may be cancelled anywhere, and may even overlap. -/
theorem first_come_first_served (lasting : Bool) {acts : List Act}
    (healthy : ∀ i ρ, .turn i ρ ∈ acts → ρ.fault = none) :
    let s := run { lasting, table := some [] } acts
    (∀ t ∈ s.rows, t.status = .pending ↔ ∀ id ∈ claims s.history, id < t.id) ∧
      claims s.history <+: created s.history ∧
      created s.history = s.rows.map Row.id ∧ (created s.history).Pairwise (· < ·) := by
  intro s
  have lined : Lined s.rows s.history := (lined_rule.run .nil lasting healthy).all
  have sorted : (s.rows.map Row.id).Pairwise (· < ·) := List.pairwise_map.mpr lined.kept.ids
  refine ⟨fun t ht => (lined.pending t ht).trans ?_, ?_, lined.ids, ?_⟩
  · exact not_mem_prefix_iff sorted lined.served (List.mem_map.mpr ⟨t, ht, rfl⟩)
  · rw [lined.ids]
    exact lined.served
  · rw [lined.ids]
    exact sorted

def lineIntake : Intake := { tiers := { enabled := [1], fallback := 1 }, quota := { most := 1 } }

def lineRequest (c : CodePoint) : Work :=
  .submit lineIntake ("tb1" ++ List.replicate 39 c) none [c]

def lineReaction : Reaction where
  clock := 0
  wallet
    | .balances => .ok { trusted := .finite false 1 0 }
    | _ => .error (.faucet [])
  reply := .error (.faucet [])
  number := 0
  purse := .zero

/-- While a cycle pays a payout the next one is requested, and then the cycle is cancelled. -/
def lineRound (i : Nat) (c : CodePoint) : List Act :=
  [.start i (.cycle { size := 1, memo := [] })] ++ List.replicate 11 (.turn i lineReaction) ++
    [.start (i + 1) (lineRequest c)] ++ List.replicate 8 (.turn (i + 1) lineReaction) ++ [.quit i]

def line : List Act :=
  [.start 0 (lineRequest 97)] ++ List.replicate 8 (.turn 0 lineReaction) ++ lineRound 1 98 ++
    lineRound 3 99

theorem line_healthy : ∀ i ρ, .turn i ρ ∈ line → ρ.fault = none := by
  intro i ρ here
  simp only [line, lineRound, List.mem_append, List.mem_singleton, List.mem_replicate,
    Act.turn.injEq, reduceCtorEq, or_false, false_or, or_assoc] at here
  obtain ⟨_, _, rfl⟩ | ⟨_, _, rfl⟩ | ⟨_, _, rfl⟩ | ⟨_, _, rfl⟩ | ⟨_, _, rfl⟩ := here
  all_goals rfl

theorem first_come_first_served_line :
    (∀ i ρ, .turn i ρ ∈ line → ρ.fault = none) ∧
      created (run { table := some [] } line).history = [1, 2, 3] ∧
      claims (run { table := some [] } line).history = [1, 2] ∧
      (run { table := some [] } line).rows.map Row.status =
        [.processing, .processing, .pending] ∧
      ∀ t ∈ (run { table := some [] } line).rows, t.status = .pending ↔
        ∀ id ∈ claims (run { table := some [] } line).history, id < t.id := by
  refine ⟨line_healthy, by decide +kernel, by decide +kernel, by decide +kernel, ?_⟩
  exact (first_come_first_served false line_healthy).1

end Crowd

end Faucet
