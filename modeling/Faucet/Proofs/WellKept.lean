import Faucet.Proofs.Amounts
import Faucet.Proofs.Encodable
import Faucet.Proofs.StoreCall

/-!
What every ledger looks like that calls of the store have made out of an empty one, each call coming
to its end before the next one begins.
-/

set_option autoImplicit false

namespace Faucet

theorem exists_of_isFilled {t : Option Text} (h : isFilled t = true) :
    ∃ text, t = some text ∧ text ≠ [] := by
  match t with
  | some (c :: t) => exact ⟨c :: t, rfl, List.cons_ne_nil c t⟩
  | some [] | none => cases h

namespace Ledger

structure WellKept (l : Ledger) : Prop where
  ids : l.Pairwise fun r t => r.id < t.id
  addresses : (l.map Row.address).Nodup
  pending : ∀ r ∈ l, r.status = .pending →
    r.txid = none ∧ r.error = none ∧ r.updated = r.created
  broadcast : ∀ r ∈ l, r.status = .broadcast → ∃ txid, r.txid = some txid ∧ txid ≠ []
  failed : ∀ r ∈ l, r.status = .failed → ∃ error, r.error = some error ∧ error ≠ []

theorem wellKept_nil : WellKept [] where
  ids := .nil
  addresses := List.nodup_nil
  pending := fun _ h => (List.not_mem_nil h).elim
  broadcast := fun _ h => (List.not_mem_nil h).elim
  failed := fun _ h => (List.not_mem_nil h).elim

theorem WellKept.keyed {l : Ledger} (h : l.WellKept) : l.Keyed :=
  ⟨List.pairwise_map.mpr (h.ids.imp fun lt => Int.ne_of_lt lt), h.addresses⟩

theorem WellKept.append_newRow {l : Ledger} (h : l.WellKept) {address : Text} (source : Text)
    (sats : Int) (now : Moment) (new : l.byAddress? address = none) :
    WellKept (l ++ [newRow l.nextId address source sats now]) where
  ids := by
    refine List.pairwise_append.mpr ⟨h.ids, List.pairwise_singleton _ _, fun r hr t ht => ?_⟩
    cases List.mem_singleton.mp ht
    exact id_lt_nextId hr
  addresses := (h.keyed.append_newRow source sats now new).addresses
  pending := fun r hr hs => by
    rcases List.mem_append.mp hr with hr | hr
    · exact h.pending r hr hs
    · cases List.mem_singleton.mp hr
      exact ⟨rfl, rfl, rfl⟩
  broadcast := fun r hr hs => by
    rcases List.mem_append.mp hr with hr | hr
    · exact h.broadcast r hr hs
    · cases List.mem_singleton.mp hr
      cases hs
  failed := fun r hr hs => by
    rcases List.mem_append.mp hr with hr | hr
    · exact h.failed r hr hs
    · cases List.mem_singleton.mp hr
      cases hs

theorem WellKept.apply {l : Ledger} (h : l.WellKept) {c : Change}
    (allowed : Store.permit c = .ok ()) (now : Moment) : (l.apply c now).WellKept := by
  obtain ⟨edge, txid, error⟩ := (Store.permit_ok_iff c).mp allowed
  constructor
  case ids =>
    have ids := List.pairwise_map.mpr h.ids
    rw [← map_apply l c now Row.id fun _ => rfl] at ids
    exact List.pairwise_map.mp ids
  case addresses => exact h.keyed.apply.addresses
  -- A row that the change moved is in the status it leads to; any other is as it was.
  case pending =>
    intro t ht hs
    obtain ⟨r, hr, rfl⟩ := (mem_apply l c now).mp ht
    split at hs
    · exact absurd hs (Status.ne_pending_of_edge edge)
    · rename_i other
      rw [if_neg other]
      exact h.pending r hr hs
  case broadcast =>
    intro t ht hs
    obtain ⟨r, hr, rfl⟩ := (mem_apply l c now).mp ht
    split at hs
    · rename_i applies
      rw [if_pos applies]
      obtain ⟨text, told, filled⟩ := exists_of_isFilled (txid hs)
      refine ⟨text, ?_, filled⟩
      change (c.txid.orElse fun _ => r.txid) = some text
      rw [told]
      rfl
    · rename_i other
      rw [if_neg other]
      exact h.broadcast r hr hs
  case failed =>
    intro t ht hs
    obtain ⟨r, hr, rfl⟩ := (mem_apply l c now).mp ht
    split at hs
    · rename_i applies
      rw [if_pos applies]
      obtain ⟨text, told, filled⟩ := exists_of_isFilled (error hs)
      refine ⟨text, ?_, filled⟩
      change (c.error.orElse fun _ => r.error) = some text
      rw [told]
      rfl
    · rename_i other
      rw [if_neg other]
      exact h.failed r hr hs

end Ledger

theorem Edit.Makes.wellKept {l l' : Ledger} {edit : Edit} (h : edit.Makes l l') (k : l.WellKept) :
    l'.WellKept := by
  cases edit with
  | added row =>
    obtain ⟨rfl, new, address, source, sats, now, rfl⟩ := h
    exact k.append_newRow source sats now new
  | changed c now =>
    obtain ⟨allowed, _, rfl⟩ := h
    exact k.apply allowed now

theorem Edit.Accounts.wellKept {l l' : Ledger} {told : Option Edit} (h : Accounts l l' told)
    (k : l.WellKept) : l'.WellKept := by
  cases told with
  | none => exact Eq.symm h ▸ k
  | some edit => exact Makes.wellKept h k

structure Served where
  call : StoreCall
  outcome : Except Failure call.Result

def Served.row? : Served → Option Row
  | ⟨.create .., .ok row⟩ => some row
  | _ => none

namespace Scene

def clocks (s : Scene) : List Moment := s.log.filterMap fun x => x.query.clock? x.answer

theorem clocks_asked (s : Scene) (ρ : Reaction) (q : Query) :
    (s.asked ρ q).clocks = (q.clock? (ρ.answer s.database q).1).toList ++ s.clocks := by
  unfold clocks asked
  rw [List.filterMap_cons]
  cases q.clock? (ρ.answer s.database q).1 with
  | none => rfl
  | some moment => rfl

/-- The clock has never gone back. -/
def Forward (s : Scene) : Prop := s.clocks.Pairwise fun later earlier => earlier ≤ later

theorem Forward.of_asked {s : Scene} {ρ : Reaction} {q : Query} (h : (s.asked ρ q).Forward) :
    s.Forward := by
  unfold Forward at h
  rw [clocks_asked] at h
  exact (List.pairwise_append.mp h).2.1

/-- Calls in turn. Reactions are counted through from the first call to the last. -/
def serve (env : Nat → Reaction) : List StoreCall → Scene → List Served × Scene
  | [], s => ([], s)
  | c :: calls, s =>
    let (outcome, s) := c.job.play env s
    let (served, s) := serve env calls s
    (⟨c, outcome⟩ :: served, s)

end Scene

/-- Times of creation were read from the clock, and no row has changed before it was made. -/
def Ledger.Timely (l : Ledger) (clocks : List Moment) : Prop :=
  ∀ r ∈ l, r.created ≤ r.updated ∧ r.created ∈ clocks

theorem Edit.Makes.timely {l l' : Ledger} {edit : Edit} (h : edit.Makes l l')
    {clocks : List Moment} (k : l.Timely clocks)
    (forward : clocks.Pairwise fun later earlier => earlier ≤ later)
    (read : clocks.head? = some edit.moment) : l'.Timely clocks := by
  cases edit with
  | added row =>
    obtain ⟨rfl, _, address, source, sats, now, rfl⟩ := h
    intro r hr
    rcases List.mem_append.mp hr with hr | hr
    · exact k r hr
    · cases List.mem_singleton.mp hr
      exact ⟨Int.le_refl now, List.mem_of_head? read⟩
  | changed c now =>
    obtain ⟨_, _, rfl⟩ := h
    obtain ⟨earlier, rfl⟩ := List.head?_eq_some_iff.mp read
    intro t ht
    obtain ⟨r, hr, rfl⟩ := (Ledger.mem_apply l c now).mp ht
    obtain ⟨le, mem⟩ := k r hr
    split
    · refine ⟨?_, mem⟩
      rcases List.mem_cons.mp mem with same | old
      · exact Int.le_of_eq same
      · exact (List.pairwise_cons.mp forward).1 r.created old
    · exact ⟨le, mem⟩

def Edit.ids : Edit → List Int
  | .added row => [row.id]
  | .changed .. => []

theorem Edit.Makes.ids {l l' : Ledger} {edit : Edit} (h : edit.Makes l l') :
    l'.map Row.id = l.map Row.id ++ edit.ids := by
  cases edit with
  | added row =>
    obtain ⟨rfl, _⟩ := h
    exact List.map_append
  | changed c now =>
    obtain ⟨_, _, rfl⟩ := h
    exact (Ledger.map_apply l c now Row.id fun _ => rfl).trans (List.append_nil _).symm

theorem Edit.Accounts.ids {l l' : Ledger} {told : Option Edit} (h : Accounts l l' told) :
    l'.map Row.id = l.map Row.id ++ told.toList.flatMap Edit.ids := by
  cases told with
  | none =>
    obtain rfl : l' = l := h
    exact (List.append_nil _).symm
  | some edit =>
    refine (Makes.ids h).trans (congrArg _ ?_)
    exact (List.flatMap_singleton Edit.ids edit).symm

/-- A call under way on a ledger that is well kept. -/
structure Progress.Keeps (ids : List Int) (p : Progress) (s : Scene) : Prop where
  holds : s.database.Holds s.database.rows
  wellKept : Ledger.WellKept s.database.rows
  ids : s.database.rows.map Row.id = ids ++ p.edits.reverse.flatMap Edit.ids
  clock : ∀ now, p.clock = some now → s.clocks.head? = some now
  timely : s.Forward → Ledger.Timely s.database.rows s.clocks

namespace Progress.Keeps

variable {ids : List Int} {p : Progress} {s : Scene} {q : Query}

theorem clock_after (h : p.Keeps ids s) (ρ : Reaction) (q : Query) (now : Moment)
    (read : (p.after q (ρ.answer s.database q).1).clock = some now) :
    (s.asked ρ q).clocks.head? = some now := by
  rw [Scene.clocks_asked]
  change (q.clock? (ρ.answer s.database q).1).or p.clock = some now at read
  cases found : q.clock? (ρ.answer s.database q).1 with
  | none =>
    rw [found] at read
    exact h.clock now read
  | some moment =>
    rw [found] at read
    exact read

theorem asked (h : p.Keeps ids s) (ρ : Reaction) (allowed : p.Allows q) :
    (p.after q (ρ.answer s.database q).1).Keeps ids (s.asked ρ q) := by
  have does : p.Does s.database.rows (ρ.answer s.database q).2.rows
      (q.edit? (ρ.answer s.database q).1) := allowed.answer rfl
  have kept : ∀ forward : (s.asked ρ q).Forward,
      Ledger.Timely s.database.rows (s.asked ρ q).clocks := fun forward r hr => by
    obtain ⟨le, mem⟩ := h.timely forward.of_asked r hr
    rw [s.clocks_asked ρ q]
    exact ⟨le, List.mem_append_right _ mem⟩
  obtain ⟨accounts, clock⟩ := does
  cases told : q.edit? (ρ.answer s.database q).1 with
  | none =>
    rw [told] at accounts
    change (ρ.answer s.database q).2.rows = s.database.rows at accounts
    constructor
    case holds => exact (ρ.accounts h.holds allowed.lawful rfl).1
    case clock => exact h.clock_after ρ q
    case wellKept => exact accounts ▸ h.wellKept
    case ids =>
      rw [p.edits_after_none told]
      exact accounts ▸ h.ids
    case timely =>
      intro forward
      exact accounts ▸ kept forward
  | some edit =>
    rw [told] at accounts
    have read := clock edit told
    constructor
    case holds => exact (ρ.accounts h.holds allowed.lawful rfl).1
    case clock => exact h.clock_after ρ q
    case wellKept => exact Edit.Makes.wellKept accounts h.wellKept
    case ids =>
      rw [p.edits_after_some told, List.reverse_cons, List.flatMap_append, List.flatMap_singleton,
        ← List.append_assoc, ← h.ids]
      exact Edit.Makes.ids accounts
    case timely =>
      intro forward
      refine Edit.Makes.timely accounts (kept forward) forward ?_
      refine h.clock_after ρ q edit.moment ?_
      change (q.clock? (ρ.answer s.database q).1).or p.clock = some edit.moment
      rw [Query.clock?_of_edit told]
      exact read

end Progress.Keeps

/-- The edits of a call that is over, as its outcome tells them. -/
theorem StoreCall.Ends.ids {c : StoreCall} {p : Progress} {outcome : Except Failure c.Result}
    (h : c.Ends p outcome) :
    p.edits.reverse.flatMap Edit.ids = (Served.mk c outcome).row?.toList.map Row.id := by
  cases c with
  | create address amount source =>
    cases outcome with
    | error e =>
      change p.edits = [] at h
      rw [h]
      rfl
    | ok row =>
      change p.edits = [.added row] at h
      rw [h]
      rfl
  | transition c =>
    match outcome with
    | .error e =>
      change p.edits = [] at h
      rw [h]
      rfl
    | .ok false =>
      change p.edits = [] at h
      rw [h]
      rfl
    | .ok true =>
      obtain ⟨_, now, edits⟩ := h
      rw [edits]
      rfl
  | sweep olderThan now =>
    refine List.flatMap_eq_nil_iff.mpr fun edit he => ?_
    obtain ⟨r, now, rfl⟩ := h edit (List.mem_reverse.mp he)
    rfl

namespace Scene

structure Kept (s : Scene) : Prop where
  holds : s.database.Holds s.database.rows
  wellKept : Ledger.WellKept s.database.rows
  timely : s.Forward → Ledger.Timely s.database.rows s.clocks

variable {s : Scene}

theorem Kept.play (h : s.Kept) (env : Nat → Reaction) (c : StoreCall) :
    let out := c.job.play env s
    out.2.Kept ∧ out.2.database.rows.map Row.id =
      s.database.rows.map Row.id ++ (Served.mk c out.1).row?.toList.map Row.id := by
  intro out
  have start : Progress.Keeps (s.database.rows.map Row.id) {} s :=
    ⟨h.holds, h.wellKept, (List.append_nil _).symm, nofun, h.timely⟩
  obtain ⟨p, ends, keeps⟩ := Job.play_keeps env (I := Progress.Keeps (s.database.rows.map Row.id))
    (fun p s q p' keeps ⟨allowed, after⟩ => after ▸ keeps.asked _ allowed) c.follows start
  exact ⟨⟨keeps.holds, keeps.wellKept, keeps.timely⟩, ends.ids ▸ keeps.ids⟩

theorem Kept.serve (h : s.Kept) (env : Nat → Reaction) (calls : List StoreCall) :
    let out := s.serve env calls
    out.2.Kept ∧ out.2.database.rows.map Row.id =
      s.database.rows.map Row.id ++ (out.1.filterMap Served.row?).map Row.id := by
  induction calls generalizing s with
  | nil => exact ⟨h, (List.append_nil _).symm⟩
  | cons c calls ih =>
    obtain ⟨kept, ids⟩ := h.play env c
    obtain ⟨kept', ids'⟩ := ih kept
    refine ⟨kept', ids'.trans ?_⟩
    rw [ids, List.append_assoc]
    change _ = _ ++ (List.filterMap Served.row? (⟨c, (c.job.play env s).1⟩ :: _)).map Row.id
    rw [List.filterMap_cons]
    cases (Served.mk c (c.job.play env s).1).row? with
    | none => rfl
    | some row => rfl

end Scene

namespace Store

variable {env : Nat → Reaction} {s : Scene} {l : Ledger} {address source : Text} {amount : Decimal}
  {sats : Int}

theorem bind_insert (encodable : address.isEncodable = true) (named : source.isEncodable = true)
    (pos : 0 < sats) (below : sats < 2 ^ 63) (now : Moment) :
    Database.bind (.insert (some address) source sats now) = .ok () := by
  have size : Database.holdsInteger sats = true := (Database.holdsInteger_iff sats).mpr (by omega)
  change (do Database.bindText address; Database.bindText source; Database.bindInteger sats) = _
  unfold Database.bindText Database.bindInteger
  rw [if_pos encodable, if_pos named, if_pos size]
  rfl

def conflicting (address : Option Text) (conflict : Conflict) : Option Row → Job Row
  | some found => .fail (.store (.duplicate found.address))
  | none => .fail (.store (.notInserted address conflict))

def inserted (address : Option Text) : Except Conflict Row → Job Row
  | .ok row => .done row
  | .error conflict => (Job.session (.byAddress address)).bind (conflicting address conflict)

theorem create_eq {address : Option Text} (above : amount.le .zero = .ok false)
    (worth : Money.toSats amount = .ok sats) (source : Text) :
    create address amount source = (Job.enter .create).bind fun _ => Job.now.bind fun now =>
      (Job.session (.insert address source sats now)).bind (inserted address) := by
  unfold create
  rw [above, worth]
  refine congrArg (Job.enter .create).bind (funext fun _ => congrArg Job.now.bind
    (funext fun now => congrArg (Job.session (.insert address source sats now)).bind
      (funext fun r => ?_)))
  cases r with
  | ok row => rfl
  | error conflict =>
    refine congrArg (Job.session (.byAddress address)).bind (funext fun found => ?_)
    cases found with
    | none => rfl
    | some found => rfl

theorem create_play (hold : s.database.Holds l) (healthy : ∀ n, (env n).fault = none)
    (encodable : address.isEncodable = true) (named : source.isEncodable = true)
    (worth : Money.toSats amount = .ok sats) (pos : 0 < sats) (below : sats < 2 ^ 63) :
    let out := (create (some address) amount source).play env s
    ((∀ r ∈ l, r.address ≠ address) ∧ ∃ now,
        out.1 = .ok (Ledger.newRow l.nextId address source sats now) ∧
          out.2.database.rows = l ++ [Ledger.newRow l.nextId address source sats now]) ∨
      (∃ r ∈ l, r.address = address) ∧ out.1 = .error (.store (.duplicate address)) ∧
        out.2.database.rows = l := by
  rw [create_eq (Money.le_zero_of_toSats_pos worth pos) worth source]
  obtain ⟨s₁, eq₁, hold₁⟩ := Job.play_enter healthy hold .create
    fun _ => Job.now.bind fun now =>
      (Job.session (.insert (some address) source sats now)).bind (inserted (some address))
  obtain ⟨s₂, now, eq₂, hold₂⟩ := Job.play_now env hold₁ fun now =>
      (Job.session (.insert (some address) source sats now)).bind (inserted (some address))
  rw [eq₁, eq₂]
  have bound := bind_insert encodable named pos below now
  cases found : l.byAddress? address with
  | none =>
    have done : Database.perform l (.insert (some address) source sats now) = _ :=
      congrArg (fun out => (Except.ok out.1, out.2)) (Database.insert_free source sats now found)
    obtain ⟨s₃, eq₃, hold₃⟩ := Job.play_session healthy hold₂ bound done (inserted (some address))
    rw [eq₃]
    exact .inl ⟨Ledger.byAddress?_eq_none.mp found, now, rfl, hold₃.rows_eq⟩
  | some r =>
    obtain ⟨here, rfl⟩ := Ledger.of_byAddress? found
    have done : Database.perform l (.insert (some r.address) source sats now) = _ :=
      congrArg (fun out => (Except.ok out.1, out.2)) (Database.insert_taken source sats now found)
    obtain ⟨s₃, eq₃, hold₃⟩ := Job.play_session healthy hold₂ bound done (inserted (some r.address))
    have text : Database.bind (.byAddress (some r.address)) = .ok () := if_pos encodable
    have read : Database.perform l (.byAddress (some r.address)) = (.ok (some r), l) :=
      congrArg (fun found => (Except.ok found, l)) found
    obtain ⟨s₄, eq₄, hold₄⟩ := Job.play_session healthy hold₃ text read
      (conflicting (some r.address) .addressTaken)
    rw [eq₃, inserted, eq₄]
    exact .inr ⟨⟨r, here, rfl⟩, rfl, hold₄.rows_eq⟩

end Store

namespace Scene

/-- After any calls on an empty store, with whatever arguments, whichever statements failed: the
ledger is well kept, its rows are those that were created, in order, and none has changed before it
was made unless the clock went back. On a store in working order the next payout is then created if
its address is new, and refused as a duplicate otherwise, whatever became of the earlier one. -/
theorem well_kept (lasting : Bool) (env : Nat → Reaction) (calls : List StoreCall) :
    let out := ({ database := { lasting, table := some [] } } : Scene).serve env calls
    let l : Ledger := out.2.database.rows
    Ledger.WellKept l ∧ l.map Row.id = (out.1.filterMap Served.row?).map Row.id ∧
      (out.2.Forward → ∀ r ∈ l, r.created ≤ r.updated) ∧
      ∀ (later : Nat → Reaction) (address source : Text) (amount : Decimal) (sats : Int),
        (∀ n, (later n).fault = none) → address.isEncodable = true → source.isEncodable = true →
        Money.toSats amount = .ok sats → 0 < sats → sats < 2 ^ 63 →
        let next := (Store.create (some address) amount source).play later out.2
        ((∀ r ∈ l, r.address ≠ address) ∧ ∃ now,
            next.1 = .ok (Ledger.newRow l.nextId address source sats now) ∧
              next.2.database.rows = l ++ [Ledger.newRow l.nextId address source sats now]) ∨
          (∃ r ∈ l, r.address = address) ∧ next.1 = .error (.store (.duplicate address)) ∧
            next.2.database.rows = l := by
  intro out l
  have empty : Kept { database := { lasting, table := some [] } } :=
    ⟨⟨rfl, rfl, rfl⟩, Ledger.wellKept_nil, fun _ _ hr => (List.not_mem_nil hr).elim⟩
  obtain ⟨kept, ids⟩ := empty.serve env calls
  refine ⟨kept.wellKept, ids, fun forward r hr => (kept.timely forward r hr).1, ?_⟩
  intro later address source amount sats healthy encodable named worth pos below
  exact Store.create_play kept.holds healthy encodable named worth pos below

def retried : List StoreCall :=
  [.create (some "tb1qdestination") (.finite false 2 (-3)) "web",
    .transition { id := 1, source := .pending, target := .processing },
    .transition { id := 1, source := .processing, target := .failed, error := some "no node" }]

def retriedAt (n : Nat) : Reaction :=
  { clock := n, wallet := fun _ => .error (.faucet []), reply := .error (.faucet []), number := 0
    purse := .zero }

def retriedScene : Scene :=
  (({ database := { table := some [] } } : Scene).serve retriedAt retried).2

theorem well_kept_retried :
    retriedScene.Forward ∧ (∀ r ∈ retriedScene.database.rows, r.created ≤ r.updated) ∧
      retriedScene.database.rows.map Row.status = [.failed] ∧
      ((Store.create (some "tb1qdestination") (.finite false 2 (-3)) []).play retriedAt
        retriedScene).1 = .error (.store (.duplicate "tb1qdestination")) := by
  have kept := well_kept false retriedAt retried
  have forward : retriedScene.Forward := by
    unfold Forward
    decide +kernel
  refine ⟨forward, kept.2.2.1 forward, by decide +kernel, ?_⟩
  have next := kept.2.2.2 retriedAt "tb1qdestination" [] (.finite false 2 (-3)) 200000
    (fun _ => rfl) (by decide) rfl rfl (by decide) (by decide)
  rcases next with ⟨new, _⟩ | ⟨_, refused, _⟩
  · have old : ∃ r ∈ retriedScene.database.rows, r.address = ("tb1qdestination" : Text) := by
      decide +kernel
    obtain ⟨r, hr, same⟩ := old
    exact absurd same (new r hr)
  · exact refused

end Scene

end Faucet
