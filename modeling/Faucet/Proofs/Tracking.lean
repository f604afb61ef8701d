import Faucet.Proofs.Records
import Faucet.Proofs.Spending

/-!
A batch under way, seen from outside. The rows and the history of a process show which of its
payouts are dealt with, which one is at hand and which are to come, whatever sweeps run in between.
-/

set_option autoImplicit false

namespace Faucet

namespace Batch

/-- A batch under way: the payouts dealt with, the one at hand with the transaction that the node
made of it, and those to come. -/
structure View where
  past : List Episode
  current : Option Row
  txid : Option Text
  todo : List Row

namespace View

def batch (v : View) : List Row := v.past.map Episode.row ++ v.current.toList ++ v.todo

def Paid (v : View) (r : Row) (txid : Text) : Prop :=
  (v.current = some r ∧ v.txid = some txid) ∨
    ∃ moment closing, .closed r moment (.ok txid) closing ∈ v.past

end View

section
variable (b : Batch) (l : Ledger) (h : List Note) (p : Nat)

def Held (r : Row) : Prop := l.Stands r.id .processing ∨ Swept h p r

def Accounted : Episode → Prop
  | .passed .. => False
  | .closed r _ payment (.done _) =>
    Changed h p (endOf r payment) ∧ Store.permit (endOf r payment) = .ok ()
  | .closed r _ _ .late => Swept h p r
  | .closed r _ payment (.barred _) => Held l h p r ∧ Store.permit (endOf r payment) ≠ .ok ()
  | .closed _ _ _ (.refused _) => False

structure View.Tracks (v : View) : Prop where
  batch : ∀ rows, Listed h p rows → rows = v.batch
  ids : (v.batch.map Row.id).Nodup
  addresses : (v.batch.map Row.address).Nodup
  waits : ∀ r ∈ v.todo, l.Stands r.id .pending
  held : ∀ r, v.current = some r → Held l h p r
  accounted : ∀ e ∈ v.past, Accounted l h p e
  paid : ∀ outputs txid,
    Returned h p outputs txid ↔ ∃ r, v.Paid r txid ∧ b.outputs r = .ok outputs
  handed : ∀ r txid, v.Paid r txid → ∃ outputs, b.outputs r = .ok outputs

end

section
variable {b : Batch} {l l' : Ledger} {h h' : List Note} {p : Nat}

/-- Nothing happens to the payouts of a process but that some of them may be swept. -/
structure Drift (p : Nat) (l : Ledger) (h : List Note) (l' : Ledger) (h' : List Note) : Prop where
  waits : ∀ r : Row, l.Stands r.id .pending → l'.Stands r.id .pending
  held : ∀ r, Held l h p r → Held l' h' p r
  listed : ∀ rows, Listed h' p rows ↔ Listed h p rows
  returned : ∀ outputs txid, Returned h' p outputs txid ↔ Returned h p outputs txid
  changed : ∀ c, Changed h p c → Changed h' p c
  swept : ∀ r, Swept h p r → Swept h' p r

theorem Accounted.mono {e : Episode} (a : Accounted l h p e)
    (held : Held l h p e.row → Held l' h' p e.row) (changed : ∀ c, Changed h p c → Changed h' p c)
    (swept : ∀ r, Swept h p r → Swept h' p r) : Accounted l' h' p e := by
  cases e with
  | passed r cause => exact a
  | closed r moment payment closing =>
    cases closing with
    | done now => exact ⟨changed _ a.1, a.2⟩
    | late => exact swept r a
    | barred fault => exact ⟨held a.1, a.2⟩
    | refused e => exact a

theorem View.Tracks.drift {v : View} (t : v.Tracks b l h p) (d : Drift p l h l' h') :
    v.Tracks b l' h' p where
  batch := fun rows hr => t.batch rows ((d.listed rows).mp hr)
  ids := t.ids
  addresses := t.addresses
  waits := fun r hr => d.waits r (t.waits r hr)
  held := fun r hr => d.held r (t.held r hr)
  accounted := fun e he => (t.accounted e he).mono (d.held e.row) d.changed d.swept
  paid := fun outputs txid => (d.returned outputs txid).trans (t.paid outputs txid)
  handed := t.handed

theorem changed_cons {n : Note} {c : Ledger.Change} (hc : Changed h p c) :
    Changed (n :: h) p c := by
  obtain ⟨m, hm, rest⟩ := hc
  exact ⟨m, List.mem_cons_of_mem n hm, rest⟩

theorem swept_cons {n : Note} {r : Row} (hs : Swept h p r) : Swept (n :: h) p r := by
  obtain ⟨m, hm, rest⟩ := hs
  exact ⟨m, List.mem_cons_of_mem n hm, rest⟩

theorem listed_cons {n : Note} {rows : List Row} :
    Listed (n :: h) p rows ↔ (n.process = p ∧ n.listed? = some rows) ∨ Listed h p rows := by
  simp only [Listed, List.exists_mem_cons_iff]

theorem returned_cons {n : Note} {outputs : Outputs} {txid : Text} :
    Returned (n :: h) p outputs txid ↔
      (n.process = p ∧ n.txid? = some (outputs, txid)) ∨ Returned h p outputs txid := by
  simp only [Returned, List.exists_mem_cons_iff]

theorem drift_of_silent (l : Ledger) {n : Note}
    (listed : n.process = p → n.listed? = none) (returned : n.process = p → n.txid? = none) :
    Drift p l h l (n :: h) where
  waits := fun _ => id
  held := fun _ hr => hr.imp id swept_cons
  listed := fun rows => by
    rw [listed_cons]
    exact or_iff_right fun ⟨hp, hl⟩ => by cases (listed hp).symm.trans hl
  returned := fun outputs txid => by
    rw [returned_cons]
    exact or_iff_right fun ⟨hp, hl⟩ => by cases (returned hp).symm.trans hl
  changed := fun _ => changed_cons
  swept := fun _ => swept_cons

theorem drift_of_sweep (l : Ledger) {n : Note} (now : Moment) (other : n.process ≠ p) {r : Row}
    (swept : n.change? = some (Store.failInterrupted r)) :
    Drift p l h (l.apply (Store.failInterrupted r) now) (n :: h) where
  waits := fun _ hw => hw.apply now (.inl nofun)
  held := fun x hx => by
    rcases hx with hx | hx
    · by_cases same : x.id = r.id
      · refine .inr ⟨n, List.mem_cons_self, other, ?_⟩
        rw [swept]
        unfold Store.failInterrupted
        rw [same]
      · exact .inl (hx.apply now (.inr fun e => same e.symm))
    · exact .inr (swept_cons hx)
  listed := fun rows => by
    rw [listed_cons]
    exact or_iff_right fun ⟨hp, _⟩ => other hp
  returned := fun outputs txid => by
    rw [returned_cons]
    exact or_iff_right fun ⟨hp, _⟩ => other hp
  changed := fun _ => changed_cons
  swept := fun _ => swept_cons

namespace View

theorem tracks_listed {n : Note} {rows : List Row} {order : Option Order} {limit : Option Int}
    (k : l.Keyed) (found : rows = l.list (some .pending) order limit)
    (unlisted : ∀ rows, ¬Listed h p rows) (unpaid : ∀ outputs txid, ¬Returned h p outputs txid)
    (listed : n.listed? = some rows) (silent : n.txid? = none) :
    Tracks b l (n :: h) p ⟨[], none, none, rows⟩ where
  batch := fun rows hr => by
    rcases listed_cons.mp hr with ⟨_, hr⟩ | hr
    · exact (Option.some.inj (listed.symm.trans hr)).symm
    · exact absurd hr (unlisted rows)
  ids := found ▸ Ledger.nodup_list k.ids _ _ _
  addresses := found ▸ Ledger.nodup_list k.addresses _ _ _
  waits := fun r hr => by
    obtain ⟨hm, hs⟩ := Ledger.mem_list (found ▸ hr)
    exact ⟨r, hm, rfl, hs⟩
  held := nofun
  accounted := fun _ he => (List.not_mem_nil he).elim
  paid := fun outputs txid => by
    rw [returned_cons]
    constructor
    · rintro (⟨_, hr⟩ | hr)
      · cases silent.symm.trans hr
      · exact absurd hr (unpaid outputs txid)
    · rintro ⟨r, (⟨hr, _⟩ | ⟨m, closing, hr⟩), _⟩
      · cases hr
      · cases hr
  handed := by
    rintro r txid (⟨hr, _⟩ | ⟨m, closing, hr⟩)
    · cases hr
    · cases hr

variable {past : List Episode} {r : Row} {rest : List Row} {txid? : Option Text}

theorem Tracks.claim (t : Tracks b l h p ⟨past, none, none, r :: rest⟩) {n : Note} (now : Moment)
    (listed : n.listed? = none) (silent : n.txid? = none) :
    Tracks b (l.apply (claimOf r) now) (n :: h) p ⟨past, some r, none, rest⟩ := by
  have same : View.batch ⟨past, some r, none, rest⟩ = View.batch ⟨past, none, none, r :: rest⟩ := by
    simp only [View.batch, Option.toList_some, Option.toList_none, List.append_nil,
      List.append_assoc, List.singleton_append]
  have other : ∀ x ∈ rest, r.id ≠ x.id := by
    intro x hx e
    have nodup := t.ids
    rw [View.batch, List.map_append, List.nodup_append] at nodup
    exact (List.nodup_cons.mp nodup.2.1).1 (List.mem_map.mpr ⟨x, hx, e.symm⟩)
  exact {
    batch := fun rows hr => by
      rw [same]
      refine t.batch rows ((listed_cons.mp hr).resolve_left fun ⟨_, hl⟩ => ?_)
      cases listed.symm.trans hl
    ids := same ▸ t.ids
    addresses := same ▸ t.addresses
    waits := fun x hx =>
      (t.waits x (List.mem_cons_of_mem r hx)).apply now (.inr (other x hx))
    held := fun x hx => by
      cases hx
      exact .inl (Ledger.stands_target now (t.waits r List.mem_cons_self))
    accounted := fun e he => (t.accounted e he).mono
      (fun held => held.imp (fun stands => stands.apply now (.inl nofun)) swept_cons)
      (fun _ => changed_cons) fun _ => swept_cons
    paid := fun outputs txid => by
      rw [returned_cons]
      refine (or_iff_right fun ⟨_, hr⟩ => by cases silent.symm.trans hr).trans ?_
      refine (t.paid outputs txid).trans (exists_congr fun x => and_congr_left fun _ => ?_)
      exact or_congr_left ⟨nofun, nofun⟩
    handed := fun x txid hx => t.handed x txid (.inr (hx.resolve_left nofun)) }

theorem Tracks.unpaid {todo : List Row} (t : Tracks b l h p ⟨[], none, none, todo⟩)
    (outputs : Outputs) (txid : Text) : ¬Returned h p outputs txid := by
  intro hr
  obtain ⟨r, (⟨hr, _⟩ | ⟨_, _, hr⟩), _⟩ := (t.paid outputs txid).mp hr
  · cases hr
  · cases hr

theorem Tracks.pay (t : Tracks b l h p ⟨past, some r, none, rest⟩) {n : Note} {outputs : Outputs}
    {txid : Text} (own : n.process = p) (ho : b.outputs r = .ok outputs)
    (listed : n.listed? = none) (paid : n.txid? = some (outputs, txid)) :
    Tracks b l (n :: h) p ⟨past, some r, some txid, rest⟩ where
  batch := fun rows hr => by
    refine t.batch rows ((listed_cons.mp hr).resolve_left fun ⟨_, hl⟩ => ?_)
    cases listed.symm.trans hl
  ids := t.ids
  addresses := t.addresses
  waits := t.waits
  held := fun x hx => (t.held x hx).imp id swept_cons
  accounted := fun e he => (t.accounted e he).mono (fun held => held.imp id swept_cons)
    (fun _ => changed_cons) fun _ => swept_cons
  paid := fun outputs' txid' => by
    rw [returned_cons, t.paid, paid]
    constructor
    · rintro (⟨_, hr⟩ | ⟨x, (⟨_, hx⟩ | hx), hox⟩)
      · cases hr
        exact ⟨r, .inl ⟨rfl, rfl⟩, ho⟩
      · cases hx
      · exact ⟨x, .inr hx, hox⟩
    · rintro ⟨x, (⟨hx, htx⟩ | hx), hox⟩
      · cases hx
        cases htx
        cases ho.symm.trans hox
        exact .inl ⟨own, rfl⟩
      · exact .inr ⟨x, .inr hx, hox⟩
  handed := fun x txid' hx => by
    rcases hx with ⟨hx, _⟩ | hx
    · cases hx
      exact ⟨outputs, ho⟩
    · exact t.handed x txid' (.inr hx)

theorem Tracks.finish {payment : Except Failure Text}
    (t : Tracks b l h p ⟨past, some r, payment.toOption, rest⟩) (moment : Moment)
    (closing : Closing) (waits : ∀ x : Row, l.Stands x.id .pending → l'.Stands x.id .pending)
    (accounted : ∀ e : Episode, e.row.id ≠ r.id → Accounted l h p e → Accounted l' h' p e)
    (last : Accounted l' h' p (.closed r moment payment closing))
    (listed : ∀ rows, Listed h' p rows ↔ Listed h p rows)
    (returned : ∀ outputs txid, Returned h' p outputs txid ↔ Returned h p outputs txid) :
    Tracks b l' h' p ⟨past ++ [.closed r moment payment closing], none, none, rest⟩ := by
  have same : View.batch ⟨past ++ [.closed r moment payment closing], none, none, rest⟩ =
      View.batch ⟨past, some r, payment.toOption, rest⟩ := by
    simp only [View.batch, List.map_append, List.map_cons, List.map_nil, Episode.row,
      Option.toList_some, Option.toList_none, List.append_nil]
  have other : ∀ e ∈ past, e.row.id ≠ r.id := by
    intro e he same
    have nodup := t.ids
    rw [View.batch, List.append_assoc, List.map_append, List.nodup_append] at nodup
    refine nodup.2.2 e.row.id ?_ r.id ?_ same
    · exact List.mem_map.mpr ⟨e.row, List.mem_map.mpr ⟨e, he, rfl⟩, rfl⟩
    · exact List.mem_map.mpr ⟨r, List.mem_append_left _ (List.mem_singleton.mpr rfl), rfl⟩
  have paid : ∀ x txid, View.Paid ⟨past, some r, payment.toOption, rest⟩ x txid ↔
      View.Paid ⟨past ++ [.closed r moment payment closing], none, none, rest⟩ x txid := by
    intro x txid
    constructor
    · rintro (⟨hx, htx⟩ | ⟨m, c, hx⟩)
      · cases hx
        cases payment with
        | error e => cases htx
        | ok txid' =>
          cases htx
          exact .inr ⟨moment, closing, List.mem_append_right _ (List.mem_singleton.mpr rfl)⟩
      · exact .inr ⟨m, c, List.mem_append_left _ hx⟩
    · rintro (⟨hx, _⟩ | ⟨m, c, hx⟩)
      · cases hx
      · rcases List.mem_append.mp hx with hx | hx
        · exact .inr ⟨m, c, hx⟩
        · cases List.mem_singleton.mp hx
          exact .inl ⟨rfl, rfl⟩
  exact {
    batch := fun rows hr => by
      rw [same]
      exact t.batch rows ((listed rows).mp hr)
    ids := same ▸ t.ids
    addresses := same ▸ t.addresses
    waits := fun x hx => waits x (t.waits x hx)
    held := nofun
    accounted := fun e he => by
      rcases List.mem_append.mp he with he | he
      · exact accounted e (other e he) (t.accounted e he)
      · cases List.mem_singleton.mp he
        exact last
    paid := fun outputs txid => by
      rw [returned, t.paid]
      exact exists_congr fun x => and_congr_left fun _ => paid x txid
    handed := fun x txid hx => t.handed x txid ((paid x txid).mpr hx) }

theorem Tracks.finish_still {payment : Except Failure Text}
    (t : Tracks b l h p ⟨past, some r, payment.toOption, rest⟩) (moment : Moment)
    {closing : Closing} (d : Drift p l h l h')
    (last : Accounted l h' p (.closed r moment payment closing)) :
    Tracks b l h' p ⟨past ++ [.closed r moment payment closing], none, none, rest⟩ :=
  t.finish moment closing d.waits (fun e _ ha => ha.mono (d.held e.row) d.changed d.swept) last
    d.listed d.returned

theorem Tracks.barred {payment : Except Failure Text}
    (t : Tracks b l h p ⟨past, some r, payment.toOption, rest⟩) (moment : Moment)
    (d : Drift p l h l h') {fault : TransitionFault}
    (barred : Store.permit (endOf r payment) = .error fault) :
    Tracks b l h' p ⟨past ++ [.closed r moment payment (.barred fault)], none, none, rest⟩ := by
  refine t.finish_still moment d ⟨d.held r (t.held r rfl), ?_⟩
  rw [barred]
  exact nofun

/-- An end that finds its payout claimed no more has been overtaken by a sweep. -/
theorem Tracks.late {payment : Except Failure Text}
    (t : Tracks b l h p ⟨past, some r, payment.toOption, rest⟩) (moment : Moment)
    (d : Drift p l h l h') (untouched : l.touches (endOf r payment) = false) :
    Tracks b l h' p ⟨past ++ [.closed r moment payment .late], none, none, rest⟩ := by
  have swept : Swept h p r := by
    refine (t.held r rfl).resolve_left fun stands => ?_
    rw [← endOf_id r payment, ← endOf_source r payment] at stands
    rw [(Ledger.touches_iff l (endOf r payment)).mpr stands] at untouched
    cases untouched
  exact t.finish_still moment d (d.swept r swept)

theorem Tracks.done {payment : Except Failure Text}
    (t : Tracks b l h p ⟨past, some r, payment.toOption, rest⟩) (moment now : Moment) {n : Note}
    (d : Drift p l h l (n :: h)) (own : n.process = p)
    (changed : n.change? = some (endOf r payment))
    (allowed : Store.permit (endOf r payment) = .ok ()) :
    Tracks b (l.apply (endOf r payment) now) (n :: h) p
      ⟨past ++ [.closed r moment payment (.done now)], none, none, rest⟩ := by
  have waits : ∀ x : Row, l.Stands x.id .pending →
      (l.apply (endOf r payment) now).Stands x.id .pending := by
    refine fun x stands => stands.apply now (.inl ?_)
    rw [endOf_source]
    exact nofun
  have held : ∀ x : Row, x.id ≠ r.id → Held l h p x →
      Held (l.apply (endOf r payment) now) (n :: h) p x := fun x other held =>
    held.imp (fun stands => stands.apply now (.inr (endOf_id r payment ▸ other.symm))) swept_cons
  exact t.finish moment _ waits
    (fun e other ha => ha.mono (held e.row other) d.changed d.swept)
    ⟨⟨n, List.mem_cons_self, own, changed⟩, allowed⟩ d.listed d.returned

end View

end

namespace Stage

def Tracks (b : Batch) (l : Ledger) (h : List Note) (p : Nat) : Stage → Prop
  | .listing => (∀ rows, ¬Listed h p rows) ∧ ∀ outputs txid, ¬Returned h p outputs txid
  | .finished report => (∀ rows, Listed h p rows → ∀ r ∈ rows, l.Stands r.id .pending) ∧
      (∀ outputs txid, ¬Returned h p outputs txid) ∧ report.sent = 0
  | .raised .. => ∀ outputs txid, ¬Returned h p outputs txid
  | .listed rows _ => View.Tracks b l h p ⟨[], none, none, rows⟩
  | .ready past rest => View.Tracks b l h p ⟨past, none, none, rest⟩
  | .claiming past r rest => View.Tracks b l h p ⟨past, none, none, r :: rest⟩
  | .claimed past r _ rest => View.Tracks b l h p ⟨past, some r, none, rest⟩
  | .calling past r _ outputs rest =>
    b.outputs r = .ok outputs ∧ View.Tracks b l h p ⟨past, some r, none, rest⟩
  | .paid past r _ payment rest => View.Tracks b l h p ⟨past, some r, payment.toOption, rest⟩
  | .closing past r _ payment rest => Store.permit (endOf r payment) = .ok () ∧
      View.Tracks b l h p ⟨past, some r, payment.toOption, rest⟩

variable {b : Batch} {l l' : Ledger} {h h' : List Note} {p : Nat} {s s' : Stage}

theorem Tracks.drift (t : s.Tracks b l h p) (d : Drift p l h l' h') : s.Tracks b l' h' p := by
  have unpaid : (∀ outputs txid, ¬Returned h p outputs txid) →
      ∀ outputs txid, ¬Returned h' p outputs txid :=
    fun none outputs txid hr => none outputs txid ((d.returned outputs txid).mp hr)
  cases s with
  | listing => exact ⟨fun rows hl => t.1 rows ((d.listed rows).mp hl), unpaid t.2⟩
  | finished report =>
    refine ⟨fun rows hl r hr => ?_, unpaid t.2.1, t.2.2⟩
    exact d.waits r (t.1 rows ((d.listed rows).mp hl) r hr)
  | raised before e => exact unpaid t
  | listed | ready | claiming | claimed | paid => exact View.Tracks.drift t d
  | calling | closing => exact ⟨t.1, t.2.drift d⟩

theorem Tracks.returned (t : s.Tracks b l h p) {c : WalletCall} {r : Except Failure c.Answer}
    (m : Moves b s (.wallet c) r s') : s'.Tracks b l (⟨p, .answered (.wallet c) r⟩ :: h) p := by
  cases m with
  | balances rows needed answer =>
    have drift : Drift p l h l (⟨p, .answered (.wallet .balances) answer⟩ :: h) :=
      drift_of_silent l (fun _ => rfl) fun _ => rfl
    have t := View.Tracks.drift t drift
    have unpaid := t.unpaid
    have skipped : ∀ report : CycleReport, report.sent = 0 →
        (Stage.finished report).Tracks b l (⟨p, .answered (.wallet .balances) answer⟩ :: h) p :=
      fun report hs => ⟨fun rows' hl r hr => by
        obtain rfl : rows' = rows := t.batch rows' hl
        exact t.waits r hr, unpaid, hs⟩
    exact ofBalances_cases rows needed answer skipped (fun _ => unpaid) t
  | call past x moment outputs rest answer =>
    cases answer with
    | error e => exact View.Tracks.drift t.2 (drift_of_silent l (fun _ => rfl) fun _ => rfl)
    | ok txid => exact t.2.pay rfl t.1 rfl rfl

theorem Tracks.answered (t : s.Tracks b l h p) (k : l.Keyed) {q : Query} {r : q.Answer}
    (m : Moves b s q r s') (atOnce : ∀ c, q ≠ .wallet c) {ρ : Reaction} {d d' : Database}
    (hold : d.Holds l) (done : ρ.answer d q = (r, d'))
    (healthy : (Note.mk p (.answered q r)).storeFails = false) :
    s'.Tracks b d'.rows (⟨p, .answered q r⟩ :: h) p := by
  have still : (∀ s, q ≠ .session s) → d'.rows = l := by
    intro other
    rw [ρ.answer_still m.tame other done, hold.rows_eq]
  cases m with
  | log | notify | enterList | enterClaim | claimClock | endClock =>
    rw [still fun _ he => by cases he]
    exact t.drift (drift_of_silent l (fun _ => rfl) fun _ => rfl)
  | enterListFails | listFails | enterClaimFails | claimFails | enterEndFails | closeFails =>
    cases healthy
  | claimClockFails | endClockFails => cases done
  | balances | call => exact absurd rfl (atOnce _)
  | list rows =>
    obtain ⟨found, same⟩ := ρ.list_ok hold done
    have v : View.Tracks b l (⟨p, .answered (.session
        (.list (some .pending) (some ⟨.id, false⟩) (some b.size))) (.ok rows)⟩ :: h) p
        ⟨[], none, none, rows⟩ := View.tracks_listed k found t.1 t.2 rfl rfl
    rw [same]
    refine ofRows_cases rows (fun none => ⟨fun rows' hl r hr => ?_, v.unpaid, rfl⟩)
      (fun _ => v.unpaid) fun _ => v
    obtain rfl : rows' = rows := v.batch rows' hl
    rw [none] at hr
    cases hr
  | claim past x rest moment =>
    rw [(ρ.update_ok hold done).2]
    exact View.Tracks.claim t moment rfl rfl
  | claimLate past x rest moment =>
    -- The row was pending, so nothing can have come before the claim.
    have touched := (Ledger.touches_iff l (claimOf x)).mpr
      (View.Tracks.waits t x List.mem_cons_self)
    rw [← (ρ.update_ok hold done).1] at touched
    cases touched
  | payment past x moment rest =>
    rw [still fun _ he => by cases he]
    have t : View.Tracks b l (⟨p, .answered (.payment x.address x.amount) ()⟩ :: h) p
        ⟨past, some x, none, rest⟩ :=
      View.Tracks.drift t (drift_of_silent l (fun _ => rfl) fun _ => rfl)
    exact ofPayment_cases past x moment rest (fun _ _ => t) fun _ ho => ⟨ho, t⟩
  | enterEnd past x moment payment rest =>
    rw [still fun _ he => by cases he]
    have silent : Drift p l h l
        (⟨p, .answered (.enter (.transition (endOf x payment))) (.ok ())⟩ :: h) :=
      drift_of_silent l (fun _ => rfl) fun _ => rfl
    exact ofEntry_cases past x moment payment rest
      (fun fault barred => View.Tracks.barred t moment silent barred)
      fun allowed => ⟨allowed, View.Tracks.drift t silent⟩
  | close past x moment payment rest now =>
    rw [(ρ.update_ok hold done).2]
    exact t.2.done moment now (drift_of_silent l (fun _ => rfl) fun _ => rfl) rfl rfl t.1
  | closeLate past x moment payment rest now =>
    obtain ⟨untouched, changed⟩ := ρ.update_ok hold done
    rw [changed, Ledger.apply_of_not_touches untouched.symm]
    exact t.2.late moment (drift_of_silent l (fun _ => rfl) fun _ => rfl) untouched.symm

end Stage

end Batch

end Faucet
