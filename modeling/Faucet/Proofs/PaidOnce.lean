import Faucet.Proofs.Spending

/-!
No payout is made twice. Requests, cycles and sweeps share one store; they start, take turns and
quit in any order, and the store and the node fail as they like. What carries the proof is that a
process pays only while it stands between its own claim and its payment, that a claimed row is never
pending again, and that therefore nobody else stands there for the same row.
-/

set_option autoImplicit false

namespace Faucet

namespace Batch.Stage

def rest : Stage → List Row
  | .listed rows _ | .ready _ rows | .paid _ _ _ _ rows | .closing _ _ _ _ rows => rows
  | .claiming _ r rows | .claimed _ r _ rows | .calling _ r _ _ rows => r :: rows
  | .listing | .finished _ | .raised .. => []

/-- A process that is about to pay has claimed the row, and nobody has paid it. -/
def Fresh (b : Batch) (h : List Note) (i : Nat) : Stage → Prop
  | .claimed _ r _ _ => Claimed h i r.id ∧ ∀ e ∈ h, ¬e.Spends r.address
  | .calling _ r _ outputs _ =>
    b.outputs r = .ok outputs ∧ Claimed h i r.id ∧ ∀ e ∈ h, e.hands r.address = false
  | _ => True

theorem rest_unlisted (e : Failure) : (unlisted e).rest = [] :=
  unlisted_cases e (fun _ => rfl) rfl

theorem rest_ofRows_subset (rows : List Row) : (ofRows rows).rest ⊆ rows :=
  ofRows_cases rows (fun _ => List.nil_subset rows) (fun _ => List.nil_subset rows)
    fun _ => List.Subset.refl rows

theorem rest_ofBalances_subset (rows : List Row) (needed : Decimal)
    (answer : Except Failure Balances) : (ofBalances rows needed answer).rest ⊆ rows :=
  ofBalances_cases rows needed answer (fun _ _ => List.nil_subset rows)
    (fun _ => List.nil_subset rows) (List.Subset.refl rows)

theorem rest_unclaimed_subset (past : List Episode) (r : Row) (rows : List Row) (e : Failure) :
    (unclaimed past r rows e).rest ⊆ r :: rows :=
  unclaimed_cases past r rows e (List.subset_cons_self r rows) (List.nil_subset _)

theorem rest_unclosed_subset (past : List Episode) (r : Row) (moment : Moment)
    (payment : Except Failure Text) (rows : List Row) (e : Failure) :
    (unclosed past r moment payment rows e).rest ⊆ rows :=
  unclosed_cases past r moment payment rows e (List.Subset.refl rows) (List.nil_subset rows)

theorem rest_ofPayment_subset (b : Batch) (past : List Episode) (r : Row) (moment : Moment)
    (rows : List Row) : (ofPayment b past r moment rows).rest ⊆ r :: rows :=
  ofPayment_cases past r moment rows (fun _ _ => List.subset_cons_self r rows)
    fun _ _ => List.Subset.refl (r :: rows)

theorem rest_ofEntry (past : List Episode) (r : Row) (moment : Moment)
    (payment : Except Failure Text) (rows : List Row) :
    (ofEntry past r moment payment rows).rest = rows :=
  ofEntry_cases past r moment payment rows (fun _ _ => rfl) fun _ => rfl

theorem Moves.rest_known {b : Batch} {s s' : Stage} {q : Query} {r : q.Answer}
    (m : Moves b s q r s') {ρ : Reaction} {d d' : Database} {l : Ledger} (hold : d.Holds l)
    (done : ρ.answer d q = (r, d')) : ∀ x ∈ s'.rest, x ∈ s.rest ∨ x ∈ l := by
  intro x hx
  cases m with
  | list rows =>
    have listed := (ρ.list_ok hold done).1
    exact .inr (Ledger.mem_list (listed ▸ rest_ofRows_subset rows hx)).1
  | enterListFails e | listFails e => exact .inl (by rwa [rest_unlisted] at hx)
  | balances rows needed answer => exact .inl (rest_ofBalances_subset rows needed answer hx)
  | enterClaimFails past r rest e | claimClockFails past r rest e | claimFails past r rest m e =>
    exact .inl (rest_unclaimed_subset past r rest e hx)
  | claimLate past r rest => exact .inl (List.mem_cons_of_mem r hx)
  | payment past r moment rest => exact .inl (rest_ofPayment_subset b past r moment rest hx)
  | call past r moment outputs rest answer => exact .inl (List.mem_cons_of_mem r hx)
  | enterEnd past r moment payment rest => exact .inl (by rwa [rest_ofEntry] at hx)
  | enterEndFails past r moment payment rest e | endClockFails past r moment payment rest e
  | closeFails past r moment payment rest _ e =>
    exact .inl (rest_unclosed_subset past r moment payment rest e hx)
  | _ => exact .inl hx

theorem fresh_ofBalances (b : Batch) (h : List Note) (i : Nat) (rows : List Row)
    (needed : Decimal) (answer : Except Failure Balances) :
    (ofBalances rows needed answer).Fresh b h i :=
  ofBalances_cases rows needed answer (fun _ _ => trivial) (fun _ => trivial) trivial

theorem fresh_claimed (b : Batch) {h : List Note} {x : Row} (unspent : ∀ e ∈ h, ¬e.Spends x.address)
    (i : Nat) (past : List Episode) (moment : Moment) (rest : List Row) :
    (claimed past x moment rest).Fresh b
      (⟨i, .answered (.session (.update (claimOf x) moment)) (.ok true)⟩ :: h) i := by
  refine ⟨claimed_cons.mpr (.inl ⟨rfl, rfl, rfl, rfl⟩), fun e he => ?_⟩
  rcases List.mem_cons.mp he with rfl | he
  · rintro (pays | ⟨hands, _⟩)
    · cases pays
    · cases hands
  · exact unspent e he

theorem fresh_ofPayment (b : Batch) {h : List Note} {i : Nat} {x : Row} (hc : Claimed h i x.id)
    (unhanded : ∀ e ∈ h, e.hands x.address = false) (past : List Episode) (moment : Moment)
    (rest : List Row) :
    (ofPayment b past x moment rest).Fresh b
      (⟨i, .answered (.payment x.address x.amount) ()⟩ :: h) i := by
  refine ofPayment_cases past x moment rest (fun _ _ => trivial) fun outputs ho => ?_
  refine ⟨ho, claimed_cons.mpr (.inr hc), fun e he => ?_⟩
  rcases List.mem_cons.mp he with rfl | he
  · rfl
  · exact unhanded e he

theorem Moves.fresh_of_quiet {b : Batch} {s s' : Stage} {q : Query} {r : q.Answer}
    (m : Moves b s q r s') {h : List Note} {i : Nat} (quiet : (Note.mk i (.answered q r)).Quiet)
    (fresh : s.Fresh b h i) : s'.Fresh b (⟨i, .answered q r⟩ :: h) i := by
  have same : ∀ s : Stage, s.Fresh b h i → s.Fresh b (⟨i, .answered q r⟩ :: h) i := by
    intro s fresh
    cases s with
    | claimed past x moment rest =>
      refine ⟨claimed_cons.mpr (.inr fresh.1), fun e he => ?_⟩
      rcases List.mem_cons.mp he with rfl | he
      · exact quiet.not_spends _
      · exact fresh.2 e he
    | calling past x moment outputs rest =>
      refine ⟨fresh.1, claimed_cons.mpr (.inr fresh.2.1), fun e he => ?_⟩
      rcases List.mem_cons.mp he with rfl | he
      · exact (quiet.1 _).2
      · exact fresh.2.2 e he
    | _ => trivial
  cases m with
  | log s level message => exact same s fresh
  | notify s e => exact same s fresh
  | claim past x rest moment => exact absurd ⟨rfl, rfl, rfl⟩ (quiet.2 x.id)
  | payment past x moment rest =>
    exact absurd (decide_eq_true rfl) (Bool.eq_false_iff.mp (quiet.1 x.address).1)
  | enterListFails e | listFails e => exact unlisted_cases e (fun _ => trivial) trivial
  | list rows => exact ofRows_cases rows (fun _ => trivial) (fun _ => trivial) fun _ => trivial
  | balances rows needed answer => exact fresh_ofBalances b _ i rows needed answer
  | enterClaimFails past x rest e | claimClockFails past x rest e | claimFails past x rest now e =>
    exact unclaimed_cases past x rest e trivial trivial
  | enterEnd past x moment payment rest =>
    exact ofEntry_cases past x moment payment rest (fun _ _ => trivial) fun _ => trivial
  | enterEndFails past x moment payment rest e | endClockFails past x moment payment rest e
  | closeFails past x moment payment rest now e =>
    exact unclosed_cases past x moment payment rest e trivial trivial
  | _ => trivial

theorem Moves.of_wallet {b : Batch} {s s' : Stage} {c : WalletCall} {r : Except Failure c.Answer}
    (m : Moves b s (.wallet c) r s') (h : List Note) (i : Nat) :
    s'.rest ⊆ s.rest ∧ s'.Fresh b h i := by
  cases m with
  | balances rows needed answer =>
    exact ⟨rest_ofBalances_subset rows needed answer, fresh_ofBalances b h i rows needed answer⟩
  | call past x moment outputs rest => exact ⟨List.subset_cons_self x rest, trivial⟩

end Batch.Stage

namespace Crowd

def Fits (l : Ledger) (h : List Note) (i : Nat) : Process → Prop
  | ⟨.submit .., .ready j⟩ => j.Asks Query.isIntake
  | ⟨.sweep .., .ready j⟩ => j.Asks Query.isSweep
  | ⟨.cycle b, .ready j⟩ => ∃ s : Batch.Stage, j.Follows (Batch.Stage.Moves b) Batch.Stage.Ends s ∧
      (∀ r ∈ s.rest, l.Knows r) ∧ s.Fresh b h i
  | ⟨.cycle b, .calling c next⟩ => ∃ s : Batch.Stage,
      (∀ r, ∃ s', Batch.Stage.Moves b s (.wallet c) r s' ∧
        (next r).Follows (Batch.Stage.Moves b) Batch.Stage.Ends s') ∧
      ∀ r ∈ s.rest, l.Knows r
  | ⟨_, .calling ..⟩ => False
  | ⟨_, .gone⟩ => True

/-- A turn that spends is one of a cycle that has claimed the row behind it before. -/
def Backed (s : Crowd) : Prop :=
  ∀ newer e older, s.history = newer ++ e :: older → ∀ a, e.Spends a →
    (∃ b, s.workOf? e.process = some (.cycle b)) ∧
      ∃ r ∈ s.rows, r.address = a ∧ Claimed older e.process r.id

structure Sound (s : Crowd) : Prop where
  holds : s.database.Holds s.rows
  payable : s.rows.Payable
  claimed : ∀ i id, Claimed s.history i id → ∃ t ∈ s.rows, t.id = id ∧ t.status ≠ .pending
  sole : ∀ i j id, Claimed s.history i id → Claimed s.history j id → i = j
  backed : s.Backed
  paysOnce : ∀ a, s.history.countP (Note.pays a) ≤ 1
  handsOnce : ∀ a, a ≠ Outputs.memoKey → s.history.countP (Note.hands a) ≤ 1
  fits : ∀ i p, s.processes i = some p → Fits s.rows s.history i p

theorem sound_empty (lasting : Bool) : Sound { database := { lasting, table := some [] } } where
  holds := ⟨rfl, rfl, rfl⟩
  payable := ⟨Ledger.keyed_nil, fun _ h => (List.not_mem_nil h).elim⟩
  claimed := fun _ _ ⟨_, h, _⟩ => nomatch h
  sole := fun _ _ _ ⟨_, h, _⟩ => nomatch h
  backed := fun newer _ _ h => by cases newer <;> cases h
  paysOnce := fun _ => Nat.zero_le 1
  handsOnce := fun _ _ => Nat.zero_le 1
  fits := fun _ _ h => by cases h

namespace Sound

variable {s : Crowd}

theorem backed_mem (h : s.Sound) {e : Note} (he : e ∈ s.history) {a : Text} (ha : e.Spends a) :
    ∃ r ∈ s.rows, r.address = a ∧ Claimed s.history e.process r.id := by
  obtain ⟨newer, older, eq⟩ := List.append_of_mem he
  obtain ⟨_, r, hr, hra, hc⟩ := h.backed newer e older eq a ha
  refine ⟨r, hr, hra, ?_⟩
  rw [eq]
  exact (claimed_cons.mpr (.inr hc)).append newer

theorem unspent (h : s.Sound) {r : Row} (known : s.rows.Knows r)
    (pending : ∃ t ∈ s.rows, t.id = r.id ∧ t.status = .pending) :
    ∀ e ∈ s.history, ¬e.Spends r.address := by
  intro e he spent
  obtain ⟨t, ht, hta, hc⟩ := h.backed_mem he spent
  obtain ⟨u, hu, huid, hua⟩ := known
  obtain rfl := h.payable.eq_of_address hu ht (hua.trans hta.symm)
  obtain ⟨v, hv, hvid, hne⟩ := h.claimed _ _ hc
  obtain ⟨p, hp, hpid, hpp⟩ := pending
  obtain rfl := h.payable.eq_of_id hv hp (hvid.trans (huid.trans hpid.symm))
  exact hne hpp

theorem same_claimant (h : s.Sound) {i j : Nat} {r : Row} (known : s.rows.Knows r)
    (hi : ∃ t ∈ s.rows, t.address = r.address ∧ Claimed s.history i t.id)
    (hj : Claimed s.history j r.id) : i = j := by
  obtain ⟨t, ht, hta, hc⟩ := hi
  obtain ⟨u, hu, huid, hua⟩ := known
  obtain rfl := h.payable.eq_of_address hu ht (hua.trans hta.symm)
  exact h.sole i j r.id (huid ▸ hc) hj

theorem fits_other (h : s.Sound) {l' : Ledger} {e : Note} {j : Nat} {p : Process}
    (hp : s.processes j = some p) (other : e.process ≠ j) (grows : s.rows.Grows l')
    (spends : ∀ a, e.Spends a →
      ∃ r ∈ s.rows, r.address = a ∧ Claimed s.history e.process r.id) :
    Fits l' (e :: s.history) j p := by
  have fits := h.fits j p hp
  obtain ⟨w, phase⟩ := p
  cases phase with
  | gone => cases w <;> trivial
  | calling c next =>
    cases w with
    | submit | sweep => exact fits
    | cycle b =>
      obtain ⟨st, follows, known⟩ := fits
      exact ⟨st, follows, fun r hr => (known r hr).grows grows⟩
  | ready job =>
    cases w with
    | submit | sweep => exact fits
    | cycle b =>
      obtain ⟨st, follows, known, fresh⟩ := fits
      refine ⟨st, follows, fun r hr => (known r hr).grows grows, ?_⟩
      -- Whoever spent on the row just now has claimed it, and so has this process.
      have unspent : ∀ r ∈ st.rest, Claimed s.history j r.id → ¬e.Spends r.address :=
        fun r hr hc spent => other (h.same_claimant (known r hr) (spends _ spent) hc)
      cases st with
      | claimed past r moment rest =>
        obtain ⟨hc, old⟩ := fresh
        refine ⟨claimed_cons.mpr (.inr hc), fun e' he' => ?_⟩
        rcases List.mem_cons.mp he' with rfl | he'
        · exact unspent r List.mem_cons_self hc
        · exact old e' he'
      | calling past r moment outputs rest =>
        obtain ⟨ho, hc, old⟩ := fresh
        refine ⟨ho, claimed_cons.mpr (.inr hc), fun e' he' => ?_⟩
        rcases List.mem_cons.mp he' with rfl | he'
        · obtain ⟨t, ht, _, hta⟩ := known r List.mem_cons_self
          exact Bool.eq_false_iff.mpr fun hands =>
            unspent r List.mem_cons_self hc (.inr ⟨hands, hta ▸ h.payable.spare t ht⟩)
        · exact old e' he'
      | _ => trivial

/-- A turn keeps the invariant if it spends and claims only what its process may, and leaves that
process where it may go on. -/
theorem noted (h : s.Sound) {i : Nat} {w : Work} {phase phase' : Standing w.Result} {turn : Turn}
    {d : Database} (here : s.processes i = some ⟨w, phase⟩) (holds : d.Holds d.rows)
    (payable : Ledger.Payable d.rows) (grows : s.rows.Grows d.rows)
    (spends : ∀ a, (Note.mk i turn).Spends a → (∃ b, w = .cycle b) ∧
      ∃ r ∈ s.rows, r.address = a ∧ Claimed s.history i r.id)
    (pays : ∀ a, (Note.mk i turn).pays a = true → ∀ e ∈ s.history, e.pays a = false)
    (hands : ∀ a, a ≠ Outputs.memoKey → (Note.mk i turn).hands a = true →
      ∀ e ∈ s.history, e.hands a = false)
    (claims : ∀ id, (Note.mk i turn).Claims id →
      (∃ t ∈ s.rows, t.id = id ∧ t.status = .pending) ∧
        ∃ t ∈ d.rows, t.id = id ∧ t.status ≠ .pending)
    (fits : Fits d.rows (⟨i, turn⟩ :: s.history) i ⟨w, phase'⟩) :
    Sound { (s.put i ⟨w, phase'⟩).note i turn with database := d } where
  holds := holds
  payable := payable
  claimed := fun j id hc => by
    rcases claimed_cons.mp hc with ⟨_, hc⟩ | hc
    · exact (claims id hc).2
    · obtain ⟨t, ht, htid, hts⟩ := h.claimed j id hc
      obtain ⟨t', ht', htid', _, hts'⟩ := grows t ht
      exact ⟨t', ht', htid'.trans htid, fun hp => hts (hts' hp)⟩
  sole := fun j k id hj hk => by
    -- A row that is claimed now was pending, so nobody had claimed it.
    have late : ∀ j, Claimed s.history j id → ¬(Note.mk i turn).Claims id := by
      intro j hj hc
      obtain ⟨t, ht, htid, hts⟩ := h.claimed j id hj
      obtain ⟨u, hu, huid, hus⟩ := (claims id hc).1
      obtain rfl := h.payable.eq_of_id ht hu (htid.trans huid.symm)
      exact hts hus
    rcases claimed_cons.mp hj with ⟨hij, newj⟩ | oldj
    · rcases claimed_cons.mp hk with ⟨hik, _⟩ | oldk
      · exact hij.symm.trans hik
      · exact absurd newj (late k oldk)
    · rcases claimed_cons.mp hk with ⟨_, newk⟩ | oldk
      · exact absurd newk (late j oldj)
      · exact h.sole j k id oldj oldk
  backed := by
    have work : ∀ j, (s.put i ⟨w, phase'⟩).workOf? j = s.workOf? j :=
      workOf?_put_of_here here rfl
    intro newer e older eq a ha
    cases newer with
    | nil =>
      cases eq
      obtain ⟨⟨b, rfl⟩, r, hr, hra, hc⟩ := spends a ha
      obtain ⟨r', hr', hid, haddress, _⟩ := grows r hr
      have own := (work i).trans (workOf?_of_here here)
      exact ⟨⟨b, own⟩, r', hr', haddress.trans hra, hid ▸ hc⟩
    | cons e' newer =>
      obtain ⟨⟨b, hb⟩, r, hr, hra, hc⟩ := h.backed newer e older (List.cons.inj eq).2 a ha
      obtain ⟨r', hr', hid, haddress, _⟩ := grows r hr
      exact ⟨⟨b, (work _).trans hb⟩, r', hr', haddress.trans hra, hid ▸ hc⟩
  paysOnce := fun a => countP_cons_le_one (h.paysOnce a) (pays a)
  handsOnce := fun a spare => countP_cons_le_one (h.handsOnce a spare) (hands a spare)
  fits := fun j p hp => by
    change (if j = i then some ⟨w, phase'⟩ else s.processes j) = some p at hp
    split at hp
    · subst j
      cases hp
      exact fits
    · rename_i other
      exact h.fits_other hp (fun e => other e.symm) grows fun a ha => (spends a ha).2

theorem put (h : s.Sound) {i : Nat} {p : Process}
    (work : ∀ w, s.workOf? i = some w → p.work = w) (fits : Fits s.rows s.history i p) :
    (s.put i p).Sound where
  holds := h.holds
  payable := h.payable
  claimed := h.claimed
  sole := h.sole
  backed := by
    intro newer e older eq a ha
    obtain ⟨⟨b, hb⟩, backing⟩ := h.backed newer e older eq a ha
    refine ⟨⟨b, ?_⟩, backing⟩
    rw [workOf?_put]
    split
    · rename_i same
      rw [work _ (same ▸ hb)]
    · exact hb
  paysOnce := h.paysOnce
  handsOnce := h.handsOnce
  fits := fun j p' hp => by
    change (if j = i then some p else s.processes j) = some p' at hp
    split at hp
    · subst j
      cases hp
      exact fits
    · exact h.fits j p' hp

theorem noted_quiet (h : s.Sound) {i : Nat} {w : Work} {phase phase' : Standing w.Result}
    {turn : Turn} {d : Database} (here : s.processes i = some ⟨w, phase⟩) (holds : d.Holds d.rows)
    (payable : Ledger.Payable d.rows) (grows : s.rows.Grows d.rows)
    (quiet : (Note.mk i turn).Quiet)
    (fits : Fits d.rows (⟨i, turn⟩ :: s.history) i ⟨w, phase'⟩) :
    Sound { (s.put i ⟨w, phase'⟩).note i turn with database := d } :=
  h.noted here holds payable grows (fun a ha => absurd ha (quiet.not_spends a))
    (fun a ha => absurd ha (Bool.eq_false_iff.mp (quiet.1 a).1))
    (fun a _ ha => absurd ha (Bool.eq_false_iff.mp (quiet.1 a).2))
    (fun id hc => absurd hc (quiet.2 id)) fits

theorem called (h : s.Sound) {i : Nat} {w : Work} {c : WalletCall}
    {next : Except Failure c.Answer → Job w.Result}
    (here : s.processes i = some ⟨w, .ready (.ask (.wallet c) next)⟩) :
    ((s.put i ⟨w, .calling c next⟩).note i (.called c)).Sound := by
  have fits := h.fits i _ here
  cases w with
  | submit | sweep =>
    obtain ⟨_, asked, _⟩ := fits (.error (.faucet []))
    cases asked
  | cycle b =>
    obtain ⟨st, follows, known, fresh⟩ := fits
    have calling : Fits s.rows (⟨i, .called c⟩ :: s.history) i ⟨.cycle b, .calling c next⟩ :=
      ⟨st, follows, known⟩
    obtain ⟨_, m, _⟩ := follows (.error (.faucet []))
    cases m with
    | balances rows needed =>
      exact h.noted_quiet here h.holds h.payable (.refl _)
        ⟨fun _ => ⟨rfl, rfl⟩, fun _ hc => hc⟩ calling
    | call past x moment outputs rest =>
      obtain ⟨ho, hc, unhanded⟩ := fresh
      obtain ⟨t, ht, htid, hta⟩ := known x List.mem_cons_self
      have own : ∀ a,
        (Note.mk i (.called (.broadcast outputs (some Fee.payoutRate) none))).hands a = true →
          a ≠ Outputs.memoKey → a = x.address := fun a ha spare =>
        Outputs.eq_of_any_payment (Batch.payment_of_outputs ho) ha spare
      refine h.noted here h.holds h.payable (.refl _) (fun a ha => ?_) (fun a ha => by cases ha)
        (fun a spare ha => ?_) (fun id hc => hc.elim) calling
      · rcases ha with ha | ⟨ha, spare⟩
        · cases ha
        · exact ⟨⟨b, rfl⟩, t, ht, hta.trans (own a ha spare).symm, htid.symm ▸ hc⟩
      · obtain rfl := own a ha spare
        exact unhanded

theorem returned (h : s.Sound) {i : Nat} {w : Work} {c : WalletCall}
    {next : Except Failure c.Answer → Job w.Result} (r : Except Failure c.Answer)
    (here : s.processes i = some ⟨w, .calling c next⟩) :
    ((s.put i ⟨w, .ready (next r)⟩).note i (.answered (.wallet c) r)).Sound := by
  have fits := h.fits i _ here
  cases w with
  | submit | sweep => cases fits
  | cycle b =>
    obtain ⟨st, all, known⟩ := fits
    obtain ⟨st', m, follows⟩ := all r
    obtain ⟨less, fresh⟩ := m.of_wallet (⟨i, .answered (.wallet c) r⟩ :: s.history) i
    exact h.noted_quiet here h.holds h.payable (.refl _) ⟨fun _ => ⟨rfl, rfl⟩, fun _ hc => hc⟩
      ⟨st', follows, fun x hx => known x (less hx), fresh⟩

theorem cycle_answered (h : s.Sound) {i : Nat} {b : Batch} {ρ : Reaction} {q : Query}
    {next : q.Answer → Job CycleReport} {r : q.Answer} {d : Database}
    (here : s.processes i = some ⟨.cycle b, .ready (.ask q next)⟩) (atOnce : ∀ c, q ≠ .wallet c)
    (done : ρ.answer s.database q = (r, d)) :
    Sound { (s.put i ⟨.cycle b, .ready (next r)⟩).note i (.answered q r) with database := d } := by
  obtain ⟨st, follows, known, fresh⟩ := h.fits i _ here
  obtain ⟨st', m, follows'⟩ := follows r
  obtain ⟨holds, payable, grows⟩ := ρ.answer_tame h.holds h.payable m.tame done
  have known' : ∀ x ∈ st'.rest, Ledger.Knows d.rows x := by
    intro x hx
    rcases m.rest_known h.holds done x hx with hx | hx
    · exact (known x hx).grows grows
    · exact Ledger.Knows.grows ⟨x, hx, rfl, rfl⟩ grows
  -- All moves are quiet but two: the claim of a row and the payment that follows it.
  by_cases quiet : (Note.mk i (.answered q r)).Quiet
  · exact h.noted_quiet here holds payable grows quiet
      ⟨st', follows', known', m.fresh_of_quiet quiet fresh⟩
  · cases m with
    | claim past x rest moment =>
      obtain ⟨touched, changed⟩ := ρ.update_ok h.holds done
      obtain ⟨t, ht, htid, hts⟩ := (Ledger.touches_iff _ _).mp touched.symm
      have unspent := h.unspent (known x List.mem_cons_self) ⟨t, ht, htid, hts⟩
      have claimed : ∃ u ∈ d.rows, u.id = x.id ∧ u.status ≠ .pending := by
        rw [changed]
        refine ⟨_, (Ledger.mem_apply _ _ _).mpr ⟨t, ht, rfl⟩, ?_⟩
        rw [if_pos ((Ledger.applies_iff _).mpr ⟨htid, hts⟩)]
        exact ⟨htid, nofun⟩
      refine h.noted here holds payable grows (fun a ha => ?_) (fun a ha => by cases ha)
        (fun a _ ha => by cases ha) (fun id hc => ?_)
        ⟨_, follows', known', Batch.Stage.fresh_claimed b unspent i past moment rest⟩
      · rcases ha with ha | ⟨ha, _⟩ <;> cases ha
      · obtain ⟨rfl, _, _⟩ := hc
        exact ⟨⟨t, ht, htid, hts⟩, claimed⟩
    | payment past x moment rest =>
      obtain ⟨hc, unspent⟩ := fresh
      obtain ⟨t, ht, htid, hta⟩ := known x List.mem_cons_self
      have unpaid : ∀ e ∈ s.history, e.pays x.address = false :=
        fun e he => Bool.eq_false_iff.mpr fun ha => unspent e he (.inl ha)
      have unhanded : ∀ e ∈ s.history, e.hands x.address = false :=
        fun e he => Bool.eq_false_iff.mpr fun ha =>
          unspent e he (.inr ⟨ha, hta ▸ h.payable.spare t ht⟩)
      refine h.noted here holds payable grows (fun a ha => ?_) (fun a ha => ?_)
        (fun a _ ha => by cases ha) (fun id hc => hc.elim)
        ⟨_, follows', known', Batch.Stage.fresh_ofPayment b hc unhanded past moment rest⟩
      · rcases ha with ha | ⟨ha, _⟩
        · obtain rfl := of_decide_eq_true ha
          exact ⟨⟨b, rfl⟩, t, ht, hta, htid.symm ▸ hc⟩
        · cases ha
      · obtain rfl := of_decide_eq_true ha
        exact unpaid
    | balances | call => exact absurd rfl (atOnce _)
    | close past x moment payment rest now =>
      refine absurd ⟨fun _ => ⟨rfl, rfl⟩, fun id hc => ?_⟩ quiet
      have source := hc.2.1
      rw [Batch.endOf_source] at source
      cases source
    | _ => exact absurd ⟨fun _ => ⟨rfl, rfl⟩, fun _ hc => hc⟩ quiet

theorem answered (h : s.Sound) {i : Nat} {w : Work} {ρ : Reaction} {q : Query}
    {next : q.Answer → Job w.Result} {r : q.Answer} {d : Database}
    (here : s.processes i = some ⟨w, .ready (.ask q next)⟩) (atOnce : ∀ c, q ≠ .wallet c)
    (done : ρ.answer s.database q = (r, d)) :
    Sound { (s.put i ⟨w, .ready (next r)⟩).note i (.answered q r) with database := d } := by
  cases w with
  | cycle b => exact h.cycle_answered here atOnce done
  | submit intake address tier source =>
    obtain ⟨_, asked, follows⟩ := h.fits i _ here r
    obtain ⟨holds, payable, grows⟩ :=
      ρ.answer_tame h.holds h.payable (Query.tame_of_isIntake asked) done
    exact h.noted_quiet here holds payable grows (Note.quiet_of_isIntake asked) follows
  | sweep olderThan now =>
    obtain ⟨_, asked, follows⟩ := h.fits i _ here r
    obtain ⟨holds, payable, grows⟩ :=
      ρ.answer_tame h.holds h.payable (Query.tame_of_isSweep asked) done
    exact h.noted_quiet here holds payable grows (Note.quiet_of_isSweep asked) follows

theorem moved {a : Act} {s' : Crowd} (h : s.Sound) (m : s.Moved a s') : s'.Sound := by
  cases m with
  | still => exact h
  | started i w free =>
    refine h.put (fun w' hw => ?_) ?_
    · rw [workOf?, free] at hw
      cases hw
    · cases w with
      | submit intake address tier source => exact intake.submit_asks address tier source
      | sweep olderThan now => exact Store.failStale_asks olderThan now
      | cycle b =>
        exact ⟨.listing, b.cycle_follows, fun _ hx => (List.not_mem_nil hx).elim, trivial⟩
  | quit i p here =>
    obtain ⟨w, phase⟩ := p
    refine h.put (fun w' hw => ?_) ?_
    · exact Option.some.inj ((workOf?_of_here here).symm.trans hw)
    · cases w <;> trivial
  | called i ρ w c next here => exact h.called here
  | answered i ρ w q next r d here atOnce done => exact h.answered here atOnce done
  | returned i ρ w c next here => exact h.returned _ here

end Sound

theorem sound_run (lasting : Bool) (acts : List Act) :
    (run { lasting, table := some [] } acts).Sound :=
  run_keeps (sound_empty lasting) fun _ _ _ _ => Sound.moved

/-- From an empty store on, whatever is requested, run, swept, cancelled and started again, and
however the store and the node answer: numbers and addresses tell payouts apart, no address is paid
or handed to the node twice, and whoever does either is a cycle that had moved the payout from
pending to processing before. -/
theorem paid_at_most_once (lasting : Bool) (acts : List Act) :
    let s := run { lasting, table := some [] } acts
    s.rows.Keyed ∧ (∀ a, s.history.countP (Note.pays a) ≤ 1) ∧
      (∀ a, a ≠ Outputs.memoKey → s.history.countP (Note.hands a) ≤ 1) ∧
      ∀ newer e older, s.history = newer ++ e :: older → ∀ a, e.Spends a →
        (∃ b, s.workOf? e.process = some (.cycle b)) ∧
          ∃ r ∈ s.rows, r.address = a ∧ Claimed older e.process r.id := by
  intro s
  have h := sound_run lasting acts
  exact ⟨h.payable.toKeyed, h.paysOnce, h.handsOnce, h.backed⟩

end Crowd

end Faucet
