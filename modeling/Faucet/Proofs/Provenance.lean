import Faucet.Proofs.Amounts
import Faucet.Proofs.Attempts

/-!
Where the end of a payout comes from. A table keeps texts only, and a history keeps turns only: what
ties them together is that whoever records the end of a payout, except for a sweep, has it in hand
and has attempted to pay it, and that nobody asks the node for it before or after.
-/

set_option autoImplicit false

namespace Faucet

theorem Ledger.broadcastSats_le {l : Ledger} {p : Row → Bool} (worth : ∀ t ∈ l, 0 ≤ t.sats)
    (covers : ∀ t ∈ l, t.status = .broadcast → p t = true) :
    l.broadcastSats ≤ ((l.filter p).map Row.sats).sum := by
  induction l with
  | nil => exact Int.le_refl 0
  | cons r l ih =>
    have rest := ih (fun t ht => worth t (List.mem_cons_of_mem r ht))
      fun t ht => covers t (List.mem_cons_of_mem r ht)
    have own := worth r List.mem_cons_self
    unfold broadcastSats
    by_cases counted : p r = true
    · rw [List.filter_cons_of_pos counted, List.map_cons, List.sum_cons]
      split
      · omega
      · omega
    · have other : r.status ≠ .broadcast := fun hs => counted (covers r List.mem_cons_self hs)
      rw [List.filter_cons_of_neg counted, if_neg other]
      omega

theorem sum_toRat_amount (rows : List Row) :
    (rows.map fun t => t.amount.toRat).sum = ((rows.map Row.sats).sum : ℤ) / 10 ^ 8 := by
  induction rows with
  | nil => simp
  | cons r rows ih =>
    have own : r.amount.toRat = r.sats / 10 ^ 8 := Money.toRat_ofSats r.sats
    rw [List.map_cons, List.sum_cons, ih, own, List.map_cons, List.sum_cons, Int.cast_add, add_div]

theorem Store.totalBroadcast_play {d : Database} {l : Ledger} (hold : d.Holds l)
    (env : Nat → Reaction) {total : Decimal}
    (told : (Store.totalBroadcast.play env { database := d }).1 = .ok total) :
    total = Money.ofSats l.broadcastSats := by
  change (Job.play env ((Job.ofExcept ((env 0).answer d (.session .broadcastSats)).1).bind
    fun n => .done (Money.ofSats n)) _).1 = .ok total at told
  rcases (env 0).session_cases hold .broadcastSats with ⟨e, eq⟩ | eq
  · rw [eq] at told
    cases told
  · rw [eq] at told
    unfold Database.perform at told
    dsimp only at told
    split at told
    · cases told
      rfl
    · cases told

namespace Crowd

/-- What the end of a row tells is what an attempt at its payment came to. -/
structure Traced (v : Sight) (t : Row) : Prop where
  pending : t.status = .pending → trail t.address v.history = []
  broadcast : t.status = .broadcast → ∃ i b txid, v.work i = some (.cycle b) ∧
    Attempt v.history i b t (.ok txid) ∧ t.txid = some txid
  failed : t.status = .failed → t.error = some Store.interrupted ∨
    ∃ i b e, v.work i = some (.cycle b) ∧ Attempt v.history i b t (.error e) ∧
      t.error = some (Batch.errorText e)

section
variable {v : Sight} {t : Row}

theorem Traced.mono {v' : Sight} (traced : Traced v t)
    (same : trail t.address v'.history = trail t.address v.history)
    (work : ∀ i w, v.work i = some w → v'.work i = some w)
    (attempts : ∀ i b payment, Attempt v.history i b t payment →
      Attempt v'.history i b t payment) : Traced v' t where
  pending := fun hs => same.trans (traced.pending hs)
  broadcast := fun hs => by
    obtain ⟨i, b, txid, own, attempt, told⟩ := traced.broadcast hs
    exact ⟨i, b, txid, work i _ own, attempts i b _ attempt, told⟩
  failed := fun hs => by
    refine (traced.failed hs).imp_right fun ended => ?_
    obtain ⟨i, b, e, own, attempt, told⟩ := ended
    exact ⟨i, b, e, work i _ own, attempts i b _ attempt, told⟩

theorem Traced.settles (traced : Traced v t) (hs : t.status = .broadcast) :
    (v.history.any fun e => e.settles t.address) = true := by
  obtain ⟨i, b, txid, _, attempt, _⟩ := traced.broadcast hs
  obtain ⟨outputs, _, once⟩ := attempt.sent
  have here : ⟨i, .answered (.wallet (Batch.callFor outputs)) (.ok txid)⟩ ∈
      trail t.address v.history := by
    rw [once]
    exact List.mem_cons_self
  obtain ⟨asked, settles⟩ := List.mem_filter.mp here
  exact List.any_eq_true.mpr ⟨_, asked, settles⟩

theorem traced_of_processing (hs : t.status = .processing) : Traced v t where
  pending := fun h => nomatch hs.symm.trans h
  broadcast := fun h => nomatch hs.symm.trans h
  failed := fun h => nomatch hs.symm.trans h

theorem traced_of_interrupted (hs : t.status = .failed)
    (told : t.error = some Store.interrupted) : Traced v t where
  pending := fun h => nomatch hs.symm.trans h
  broadcast := fun h => nomatch hs.symm.trans h
  failed := fun _ => .inl told

end

/-- What a turn does to payouts it does to one that its process has in hand, unless it adds one,
claims one or gives one up. -/
structure Confined (s : Crowd) (l' : Ledger) (i : Nat) (turn : Turn) : Prop where
  accounts : Edit.Accounts s.rows l' (Note.mk i turn).edit?
  adds : ∀ row, (Note.mk i turn).edit? = some (.added row) →
    row.address ≠ Outputs.memoKey ∧ 0 ≤ row.sats
  ends : ∀ c now, (Note.mk i turn).edit? = some (.changed c now) → c.source = .processing →
    (∃ r, c = Store.failInterrupted r) ∨ ∃ b x payment, s.workOf? i = some (.cycle b) ∧
      InHand s.rows s.history i x ∧ Attempt s.history i b x payment ∧ c = Batch.endOf x payment
  concerns : ∀ a, a ≠ Outputs.memoKey → (Note.mk i turn).concerns a = true →
    ∃ x, x.address = a ∧ InHand s.rows s.history i x

namespace Confined

variable {s : Crowd} {l' : Ledger} {i j : Nat} {turn : Turn} {x : Row}

theorem inHand (c : Confined s l' j turn) (sound : s.Sound) (hand : InHand s.rows s.history i x)
    (other : i ≠ j) : InHand l' (⟨j, turn⟩ :: s.history) i x := by
  refine hand.edited c.accounts (fun change now told source same => ?_) _
  refine (c.ends change now told source).resolve_right ?_
  -- Whoever records the end of a payout has claimed it, and so has this process.
  rintro ⟨b, y, payment, _, hand', _, rfl⟩
  rw [Batch.endOf_id] at same
  exact other (sound.sole i j x.id hand.claimed (same ▸ hand'.claimed))

theorem silent (c : Confined s l' j turn) (sound : s.Sound) (hand : InHand s.rows s.history i x)
    (other : i ≠ j) : (Note.mk j turn).concerns x.address = false := by
  refine Bool.eq_false_iff.mpr fun concerns => ?_
  obtain ⟨y, same, hand'⟩ := c.concerns x.address (hand.spare sound) concerns
  exact other (hand.sole sound hand' same.symm)

end Confined

/-! ### The invariant -/

structure Accounted (v : Sight) : Prop where
  traced : ∀ t ∈ v.rows, Traced v t
  known : ∀ e ∈ v.history, ∀ a, a ≠ Outputs.memoKey → e.concerns a = true →
    ∃ t ∈ v.rows, t.address = a
  worth : ∀ t ∈ v.rows, 0 ≤ t.sats

theorem accounted_nil (work : Nat → Option Work) : Accounted ⟨[], [], work⟩ where
  traced := fun _ ht => (List.not_mem_nil ht).elim
  known := fun _ he => (List.not_mem_nil he).elim
  worth := fun _ ht => (List.not_mem_nil ht).elim

namespace Confined

variable {s : Crowd} {l' : Ledger} {i : Nat} {turn : Turn}

theorem traced_old (c : Confined s l' i turn) (sound : s.Sound) {t : Row} (ht : t ∈ s.rows)
    (traced : Traced s.sight t) : Traced (s.sight.after l' i turn) t := by
  cases concerns : (Note.mk i turn).concerns t.address with
  | false =>
    exact traced.mono (trail_cons_silent concerns s.history) (fun _ _ => id)
      fun _ _ _ attempt => attempt.noted concerns
  | true =>
    -- The node is asked for this very payout, so its process has it in hand.
    obtain ⟨x, same, hand⟩ := c.concerns t.address (sound.payable.spare t ht) concerns
    obtain ⟨u, hu, becomes, status⟩ := hand.row
    obtain rfl := sound.payable.eq_of_address hu ht (becomes.address.trans same)
    rcases status with processing | ⟨failed, told⟩
    · exact traced_of_processing processing
    · exact traced_of_interrupted failed told

theorem traced_added (c : Confined s l' i turn) (g : Accounted s.sight) {row : Row}
    (told : (Note.mk i turn).edit? = some (.added row)) (makes : (Edit.added row).Makes s.rows l') :
    Traced (s.sight.after l' i turn) row := by
  have spare := (c.adds row told).1
  obtain ⟨_, new, address, source, sats, now, rfl⟩ := makes
  refine ⟨fun _ => ?_, nofun, nofun⟩
  refine (trail_cons_silent (Note.concerns_of_edit told _) s.history).trans ?_
  -- The node is asked for an address only if a row has it, and this one is new.
  refine List.filter_eq_nil_iff.mpr fun e he concerns => ?_
  obtain ⟨t, ht, same⟩ := g.known e he _ spare concerns
  exact Ledger.byAddress?_eq_none.mp new t ht same

theorem traced_changed (c : Confined s l' i turn) (sound : s.Sound) {change : Ledger.Change}
    {now : Moment} (told : (Note.mk i turn).edit? = some (.changed change now))
    (allowed : Store.permit change = .ok ()) {r : Row} (hr : r ∈ s.rows)
    (applies : change.applies r = true) : Traced (s.sight.after l' i turn) (change.row now r) := by
  obtain ⟨own, source⟩ := (Ledger.applies_iff change).mp applies
  have edge := ((Store.permit_ok_iff change).mp allowed).1
  cases hs : change.source with
  | pending =>
    rw [hs] at edge
    exact traced_of_processing (List.mem_singleton.mp edge)
  | broadcast | failed =>
    rw [hs] at edge
    exact absurd edge List.not_mem_nil
  | processing =>
    rcases c.ends change now told hs with ⟨r', rfl⟩ | ⟨b, x, payment, work, hand, attempt, rfl⟩
    · exact traced_of_interrupted rfl rfl
    · obtain ⟨u, hu, becomes, _⟩ := hand.row
      have id : r.id = u.id := (own.trans (Batch.endOf_id x payment)).trans becomes.id.symm
      obtain rfl := sound.payable.eq_of_id hr hu id
      have moved := Ledger.Change.becomes (Batch.endOf x payment) source edge now
      have attempt := (attempt.becomes becomes).becomes moved
      have attempt := attempt.noted (Note.concerns_of_edit told _)
      cases payment with
      | ok txid => exact ⟨nofun, fun _ => ⟨i, b, txid, work, attempt, rfl⟩, nofun⟩
      | error e => exact ⟨nofun, nofun, fun _ => .inr ⟨i, b, e, work, attempt, rfl⟩⟩

theorem traced (c : Confined s l' i turn) (sound : s.Sound) (g : Accounted s.sight) :
    ∀ t ∈ l', Traced (s.sight.after l' i turn) t := by
  intro t ht
  rcases c.accounts.mem_cases ht with old | ⟨told, makes⟩ |
    ⟨change, now, r, told, allowed, hr, applies, rfl⟩
  · exact c.traced_old sound old (g.traced t old)
  · exact c.traced_added g told makes
  · exact c.traced_changed sound told allowed hr applies

theorem worth (c : Confined s l' i turn) (g : Accounted s.sight) : ∀ t ∈ l', 0 ≤ t.sats := by
  intro t ht
  rcases c.accounts.mem_cases ht with old | ⟨told, _⟩ | ⟨change, now, r, _, _, hr, _, rfl⟩
  · exact g.worth t old
  · exact (c.adds t told).2
  · exact g.worth r hr

theorem accounted (c : Confined s l' i turn) (sound : s.Sound) (g : Accounted s.sight) :
    Accounted (s.sight.after l' i turn) where
  traced := c.traced sound g
  worth := c.worth g
  known := by
    intro e he a spare concerns
    have here : ∃ t ∈ s.rows, t.address = a := by
      rcases List.mem_cons.mp he with rfl | he
      · obtain ⟨x, rfl, hand⟩ := c.concerns a spare concerns
        obtain ⟨t, ht, becomes, _⟩ := hand.row
        exact ⟨t, ht, becomes.address⟩
      · exact g.known e he a spare concerns
    obtain ⟨t, ht, rfl⟩ := here
    obtain ⟨u, hu, becomes⟩ := c.accounts.evolves.exists_mem ht
    exact ⟨u, hu, becomes.address⟩

end Confined

open Batch (Stage)

/-- How far a cycle is with the payout that it has in hand. -/
def Busy (l : Ledger) (h : List Note) (i : Nat) (b : Batch) (calling : Bool) : Stage → Prop
  | .claimed _ x _ _ => InHand l h i x ∧ trail x.address h = []
  | .calling _ x _ outputs _ => InHand l h i x ∧ Announced h i x ∧ b.outputs x = .ok outputs ∧
    trail x.address h = if calling then [⟨i, .called (Batch.callFor outputs)⟩] else []
  | .paid _ x _ payment _ | .closing _ x _ payment _ =>
    InHand l h i x ∧ Announced h i x ∧ Tried h i b x payment
  | _ => True

structure Proceeds (v : Sight) (i : Nat) (b : Batch) (calling : Bool) (st : Stage) : Prop where
  permitted : st.Permitted
  work : v.work i = some (.cycle b)
  rest : ∀ x ∈ st.rest, v.rows.Recalls x
  busy : Busy v.rows v.history i b calling st

section
variable {i j : Nat} {b : Batch} {calling : Bool} {st st' : Stage}

theorem Busy.noted {l l' : Ledger} {h : List Note} {e : Note} (busy : Busy l h i b calling st)
    (hands : ∀ x, InHand l h i x → InHand l' (e :: h) i x)
    (silent : ∀ x, InHand l h i x → e.concerns x.address = false) :
    Busy l' (e :: h) i b calling st := by
  cases st with
  | claimed past x moment rest =>
    obtain ⟨hand, none⟩ := busy
    exact ⟨hands x hand, (trail_cons_silent (silent x hand) h).trans none⟩
  | calling past x moment outputs rest =>
    obtain ⟨hand, announced, sends, asked⟩ := busy
    exact ⟨hands x hand, List.mem_cons_of_mem _ announced, sends,
      (trail_cons_silent (silent x hand) h).trans asked⟩
  | paid past x moment payment rest | closing past x moment payment rest =>
    obtain ⟨hand, announced, tried⟩ := busy
    exact ⟨hands x hand, List.mem_cons_of_mem _ announced, tried.noted (silent x hand)⟩
  | _ => trivial

variable {s : Crowd} {l' : Ledger} {turn : Turn}

theorem Confined.passes (c : Confined s l' j turn) (sound : s.Sound) (g : Accounted s.sight) :
    Passes Accounted Proceeds s.sight (s.sight.after l' j turn) j := by
  refine ⟨c.accounted sound g, fun i b calling st other proceeds => ?_⟩
  constructor
  case permitted => exact proceeds.permitted
  case work => exact proceeds.work
  case rest => exact fun x hx => (proceeds.rest x hx).edited c.accounts
  case busy =>
    exact proceeds.busy.noted (fun x hand => c.inHand sound hand other)
      fun x hand => c.silent sound hand other

/-- A call of the node is for the payout in hand. -/
theorem Proceeds.concerns {c : WalletCall} {r : Except Failure c.Answer} {turn : Turn}
    (proceeds : Proceeds s.sight i b calling st) (m : st.Moves b (.wallet c) r st')
    (own : turn = .called c ∨ turn = .answered (.wallet c) r) {a : Text}
    (spare : a ≠ Outputs.memoKey) (concerns : (Note.mk i turn).concerns a = true) :
    ∃ x, x.address = a ∧ InHand s.rows s.history i x := by
  cases m with
  | balances => rcases own with rfl | rfl <;> cases concerns
  | call past x moment outputs rest =>
    obtain ⟨hand, _, sends, _⟩ := proceeds.busy
    have key : (outputs.any fun o => o.1 = a) = true := by
      rcases own with rfl | rfl
      · exact concerns
      · exact concerns
    exact ⟨x, (Outputs.eq_of_any_payment (Batch.payment_of_outputs sends) key spare).symm, hand⟩

theorem Proceeds.confined_wallet {c : WalletCall} {r : Except Failure c.Answer} {turn : Turn}
    (proceeds : Proceeds s.sight i b calling st) (m : st.Moves b (.wallet c) r st')
    (own : turn = .called c ∨ turn = .answered (.wallet c) r) :
    Confined s s.rows i turn := by
  have silent : (Note.mk i turn).edit? = none := by
    rcases own with rfl | rfl
    · rfl
    · rfl
  constructor
  case accounts => rw [silent]; rfl
  case adds => intro row told; rw [silent] at told; cases told
  case ends => intro change now told; rw [silent] at told; cases told
  case concerns => exact fun a spare concerns => proceeds.concerns m own spare concerns

variable {l : Ledger} {h : List Note}

theorem Busy.called {c : WalletCall} {r : Except Failure c.Answer} (busy : Busy l h i b false st)
    (m : st.Moves b (.wallet c) r st') : Busy l (⟨i, .called c⟩ :: h) i b true st := by
  cases m with
  | balances => trivial
  | call past x moment outputs rest =>
    obtain ⟨hand, announced, sends, none⟩ := busy
    have concerns : (Note.mk i (.called (Batch.callFor outputs))).concerns x.address = true :=
      Outputs.any_payment (Batch.payment_of_outputs sends)
    refine ⟨hand.still _, List.mem_cons_of_mem _ announced, sends, ?_⟩
    exact (trail_cons concerns h).trans (congrArg _ none)

theorem Busy.returned {c : WalletCall} {r : Except Failure c.Answer} (busy : Busy l h i b true st)
    (m : st.Moves b (.wallet c) r st') :
    Busy l (⟨i, .answered (.wallet c) r⟩ :: h) i b false st' := by
  cases m with
  | balances rows needed answer =>
    exact Stage.ofBalances_cases rows needed answer (fun _ _ => trivial) (fun _ => trivial) trivial
  | call past x moment outputs rest answer =>
    obtain ⟨hand, announced, sends, asked⟩ := busy
    have concerns : (Note.mk i (.answered (.wallet (Batch.callFor outputs)) answer)).concerns
        x.address = true := Outputs.any_payment (Batch.payment_of_outputs sends)
    refine ⟨hand.still _, List.mem_cons_of_mem _ announced, ?_⟩
    exact .sent outputs answer sends ((trail_cons concerns h).trans (congrArg _ asked))

variable {q : Query} {r : q.Answer} {ρ : Reaction} {d : Database}

theorem Proceeds.confined (proceeds : Proceeds s.sight i b false st) (sound : s.Sound)
    (atOnce : ∀ c, q ≠ .wallet c) (m : st.Moves b q r st')
    (done : ρ.answer s.database q = (r, d)) : Confined s d.rows i (.answered q r) where
  accounts := (ρ.accounts sound.holds (m.lawful proceeds.permitted) done).2
  adds := by
    intro row told
    rcases m.edit_cases told with ⟨_, _, _, _, _, edit, _⟩ | ⟨_, _, _, _, _, _, _, edit, _⟩
    · cases edit
    · cases edit
  ends := by
    intro c now told source
    rcases m.edit_cases told with ⟨_, x, _, _, _, edit, _⟩ | ⟨_, x, _, payment, _, _, rfl, edit, _⟩
    · cases edit
      cases source
    · cases edit
      obtain ⟨hand, announced, tried⟩ := proceeds.busy
      exact .inr ⟨b, x, payment, proceeds.work, hand, ⟨hand.claimed, announced, tried⟩, rfl⟩
  concerns := by
    intro a _ concerns
    rw [Note.concerns_atOnce atOnce] at concerns
    cases concerns

theorem Proceeds.claim {past : List Batch.Episode} {x : Row} {rest : List Row} {now : Moment}
    (proceeds : Proceeds s.sight i b false (.claiming past x rest)) (sound : s.Sound)
    (g : Accounted s.sight)
    (done : ρ.answer s.database (.session (.update (Batch.claimOf x) now)) = (.ok true, d)) :
    Busy d.rows (⟨i, .answered (.session (.update (Batch.claimOf x) now)) (.ok true)⟩ :: s.history)
      i b false (.claimed past x now rest) := by
  obtain ⟨touched, changed⟩ := ρ.update_ok sound.holds done
  obtain ⟨u, hu, huid, hus⟩ := (Ledger.touches_iff _ _).mp touched.symm
  obtain ⟨t, ht, becomes⟩ := proceeds.rest x List.mem_cons_self
  obtain rfl := sound.payable.eq_of_id hu ht (huid.trans becomes.id.symm)
  have edge : Status.Edge (Batch.claimOf x).source (Batch.claimOf x).target :=
    List.mem_singleton.mpr rfl
  have moved := Ledger.Change.becomes (Batch.claimOf x) hus (Relation.TransGen.single edge) now
  have applies : (Batch.claimOf x).applies u = true := (Ledger.applies_iff _).mpr ⟨huid, hus⟩
  have here : (Batch.claimOf x).row now u ∈ d.rows := by
    rw [changed]
    exact (Ledger.mem_apply s.rows (Batch.claimOf x) now).mpr ⟨u, hu, if_pos applies⟩
  -- The row was pending, so that the node has not been asked for it.
  refine ⟨⟨⟨_, here, becomes.trans moved, .inl rfl⟩, ?_⟩, ?_⟩
  · exact claimed_cons.mpr (.inl ⟨rfl, rfl, rfl, rfl⟩)
  · refine (trail_cons_silent rfl s.history).trans ?_
    exact becomes.address ▸ (g.traced u hu).pending hus

theorem Proceeds.busy_answered (proceeds : Proceeds s.sight i b false st) (sound : s.Sound)
    (g : Accounted s.sight) (atOnce : ∀ c, q ≠ .wallet c) (m : st.Moves b q r st')
    (done : ρ.answer s.database q = (r, d)) :
    Busy d.rows (⟨i, .answered q r⟩ :: s.history) i b false st' := by
  -- As long as nothing is changed, what is in hand stays there.
  have same (silent : q.edit? r = none) :
      Busy d.rows (⟨i, .answered q r⟩ :: s.history) i b false st := by
    have accounts := (proceeds.confined sound atOnce m done).accounts
    refine proceeds.busy.noted (fun x hand => hand.edited accounts (fun c now told => ?_) _)
      fun x _ => Note.concerns_atOnce atOnce x.address
    exact absurd (silent.symm.trans told) nofun
  cases m with
  | log | notify | endClock => exact same rfl
  | enterListFails e | listFails e => exact Stage.unlisted_cases e (fun _ => trivial) trivial
  | list rows =>
    exact Stage.ofRows_cases rows (fun _ => trivial) (fun _ => trivial) fun _ => trivial
  | balances | call => exact absurd rfl (atOnce _)
  | enterClaimFails past x rest e | claimClockFails past x rest e | claimFails past x rest now e =>
    exact Stage.unclaimed_cases past x rest e trivial trivial
  | claim past x rest now => exact proceeds.claim sound g done
  | payment past x moment rest =>
    obtain ⟨hand, none⟩ := same rfl
    refine Stage.ofPayment_cases past x moment rest (fun e stopped => ?_) fun outputs sends => ?_
    · exact ⟨hand, List.mem_cons_self, .unsent e stopped none⟩
    · exact ⟨hand, List.mem_cons_self, sends, none⟩
  | enterEnd past x moment payment rest =>
    exact Stage.ofEntry_cases past x moment payment rest (fun _ _ => trivial) fun _ => same rfl
  | enterEndFails past x moment payment rest e | endClockFails past x moment payment rest e
  | closeFails past x moment payment rest now e =>
    exact Stage.unclosed_cases past x moment payment rest e trivial trivial
  | _ => trivial

theorem confined_errand (sound : s.Sound) (asked : q.isRequest ∨ q.isSweep)
    (done : ρ.answer s.database q = (r, d)) : Confined s d.rows i (.answered q r) where
  accounts := (ρ.accounts sound.holds (Query.lawful_of_errand asked) done).2
  adds := by
    intro row told
    obtain ⟨st, rfl, isOf⟩ := ρ.edit_isOf sound.holds done told
    cases st with
    | insert address source sats now =>
      obtain ⟨id, a, rfl, rfl⟩ := isOf
      rcases asked with ⟨a', amount, same, signet, above, worth⟩ | swept
      · cases same
        exact ⟨Address.ne_memoKey signet, Money.toSats_nonneg worth above⟩
      · cases swept
    | _ => cases isOf
  ends := by
    intro c now told _
    rcases Query.edit_of_errand asked told with ⟨row, edit⟩ | ⟨x, now, edit⟩
    · cases edit
    · cases edit
      exact .inl ⟨x, rfl⟩
  concerns := by
    intro a _ concerns
    have atOnce : ∀ c, q ≠ .wallet c := by
      rintro c rfl
      rcases asked with asked | swept
      · cases asked
      · cases swept
    rw [Note.concerns_atOnce atOnce] at concerns
    cases concerns

end

theorem accounted_rule : Rule Accounted Proceeds fun _ => True where
  begins := fun v i b _ work => ⟨trivial, work, fun _ hx => (List.not_mem_nil hx).elim, trivial⟩
  joined := by
    intro v work grows g
    have traced : ∀ t ∈ v.rows, Traced { v with work } t := fun t ht =>
      (g.traced t ht).mono rfl grows fun _ _ _ => id
    refine ⟨⟨traced, g.known, g.worth⟩, ?_⟩
    intro j b calling st proceeds
    exact ⟨proceeds.permitted, grows j _ proceeds.work, proceeds.rest, proceeds.busy⟩
  errand := fun _ sound g _ _ _ _ _ asked _ done =>
    (confined_errand sound asked done).passes sound g
  called := by
    intro s sound g i b st c r st' proceeds m
    refine ⟨(proceeds.confined_wallet m (.inl rfl)).passes sound g, ?_⟩
    exact ⟨proceeds.permitted, proceeds.work, proceeds.rest, proceeds.busy.called m⟩
  returned := by
    intro s sound g i b st c r st' proceeds m
    refine ⟨(proceeds.confined_wallet m (.inr rfl)).passes sound g, ?_⟩
    refine ⟨m.permitted proceeds.permitted, proceeds.work, fun x hx => ?_, proceeds.busy.returned m⟩
    exact proceeds.rest x ((m.of_wallet [] i).1 hx)
  answered := by
    intro s sound g i b st q r st' ρ d proceeds atOnce m _ done
    have confined := proceeds.confined sound atOnce m done
    refine ⟨confined.passes sound g, m.permitted proceeds.permitted, proceeds.work, fun x hx => ?_,
      proceeds.busy_answered sound g atOnce m done⟩
    rcases m.rest_known sound.holds done x hx with known | listed
    · exact (proceeds.rest x known).edited confined.accounts
    · exact Ledger.Recalls.edited ⟨x, listed, .refl x⟩ confined.accounts

/-! ### Runs -/

def settled (s : Crowd) : List Row :=
  s.rows.filter fun t => s.history.any fun e => e.settles t.address

/-- From an empty store on, whatever is requested, run, swept and cancelled, and however the store
and the node answer. A row that was broadcast has the transaction that the node returned for the one
call that was ever made for it: one that sends its amount to its address, and leaves the inputs to
the node. A row that failed tells that a sweep gave it up, or what stopped the attempt at its own
payment. And what was broadcast in all is no more than what the node returned transactions for. -/
theorem provenance (lasting : Bool) (acts : List Act) :
    let s := run { lasting, table := some [] } acts
    (∀ t ∈ s.rows, t.status = .broadcast → ∃ i b outputs txid,
      s.workOf? i = some (.cycle b) ∧ Claimed s.history i t.id ∧
        Outputs.payment t.address t.amount b.memo = .ok outputs ∧
        Entries.get? outputs t.address = some t.amount.fixed8 ∧
        trail t.address s.history =
          [⟨i, .answered (.wallet (.broadcast outputs (some Fee.payoutRate) none)) (.ok txid)⟩,
            ⟨i, .called (.broadcast outputs (some Fee.payoutRate) none)⟩] ∧
        t.txid = some txid) ∧
      (∀ t ∈ s.rows, t.status = .failed → t.error = some Store.interrupted ∨ ∃ i b e,
        s.workOf? i = some (.cycle b) ∧ Attempt s.history i b t (.error e) ∧
          (e.isForeseen = true ∧ t.error = some e.message ∨
            ∃ d, e = .defect d ∧ t.error = some ("unexpected error: " ++ d.shown))) ∧
      ∀ env total, (Store.totalBroadcast.play env { database := s.database }).1 = .ok total →
        total.toRat ≤ (s.settled.map fun t => t.amount.toRat).sum := by
  intro s
  have ruled : Ruled Accounted Proceeds s :=
    accounted_rule.run (accounted_nil _) lasting fun _ _ _ => trivial
  have sound : s.Sound := ruled.sound
  have accounted : Accounted s.sight := ruled.all
  refine ⟨fun t ht hs => ?_, fun t ht hs => ?_, fun env total told => ?_⟩
  · obtain ⟨i, b, txid, work, attempt, told⟩ := (accounted.traced t ht).broadcast hs
    obtain ⟨outputs, sends, once⟩ := attempt.sent
    have pays := Batch.payment_of_outputs sends
    exact ⟨i, b, outputs, txid, work, attempt.claimed, pays,
      Outputs.get?_payment pays (sound.payable.spare t ht), once, told⟩
  · refine ((accounted.traced t ht).failed hs).imp_right fun own => ?_
    obtain ⟨i, b, e, work, attempt, told⟩ := own
    refine ⟨i, b, e, work, attempt, ?_⟩
    cases e with
    | defect d => exact .inr ⟨d, rfl, told⟩
    | _ => exact .inl ⟨rfl, told⟩
  · have most := Ledger.broadcastSats_le accounted.worth fun t ht hs =>
      (accounted.traced t ht).settles hs
    rw [Store.totalBroadcast_play sound.holds env told, Money.toRat_ofSats, sum_toRat_amount]
    exact div_le_div_of_nonneg_right (Int.cast_le.mpr most) (by positivity)

/-! A request, and a cycle that pays it. -/

def paidIntake : Intake := { tiers := { enabled := [1], fallback := 1 }, quota := { most := 1 } }

def paidReaction : Reaction where
  clock := 0
  wallet
    | .balances => .ok { trusted := .finite false 1 0 }
    | .broadcast .. => .ok ("aa" : Text)
    | _ => .error (.faucet [])
  reply := .error (.faucet [])
  number := 0
  purse := .zero

def paidRequest : Work := .submit paidIntake ("tb1" ++ List.replicate 39 (97 : CodePoint)) none []

def paid : List Act :=
  [.start 0 paidRequest] ++ List.replicate 8 (.turn 0 paidReaction) ++
    [.start 1 (.cycle { size := 1, memo := [] })] ++ List.replicate 20 (.turn 1 paidReaction)

example :
    (run { table := some [] } paid).settled.map (fun t => (t.status, t.txid)) =
      [(Status.broadcast, some ("aa" : Text))] := by
  decide +kernel

end Crowd

end Faucet
