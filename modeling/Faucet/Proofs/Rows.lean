import Mathlib.Data.List.Nodup
import Mathlib.Data.List.Perm.Subperm
import Faucet.Ledger.Database

/-!
What statements do to the rows of a ledger. A row keeps its number and its address for good, and no
two rows share either.
-/

set_option autoImplicit false

namespace Faucet

theorem countP_cons_le_one {α : Type} {p : α → Bool} {a : α} {l : List α} (old : l.countP p ≤ 1)
    (first : p a = true → ∀ b ∈ l, p b = false) : (a :: l).countP p ≤ 1 := by
  rw [List.countP_cons]
  split
  · rename_i new
    have none : l.countP p = 0 :=
      List.countP_eq_zero.mpr fun b hb => Bool.not_eq_true _ ▸ first new b hb
    omega
  · exact old

namespace Ledger

/-- What the table itself makes sure of: numbers and addresses tell rows apart. -/
structure Keyed (l : Ledger) : Prop where
  ids : (l.map Row.id).Nodup
  addresses : (l.map Row.address).Nodup

theorem Keyed.eq_of_id {l : Ledger} (h : l.Keyed) {r t : Row} (hr : r ∈ l) (ht : t ∈ l)
    (he : r.id = t.id) : r = t :=
  List.inj_on_of_nodup_map h.ids hr ht he

theorem Keyed.eq_of_address {l : Ledger} (h : l.Keyed) {r t : Row} (hr : r ∈ l) (ht : t ∈ l)
    (he : r.address = t.address) : r = t :=
  List.inj_on_of_nodup_map h.addresses hr ht he

theorem keyed_nil : Keyed [] := ⟨List.nodup_nil, List.nodup_nil⟩

variable (l : Ledger) (c : Change) (now : Moment)

theorem mem_apply {t : Row} :
    t ∈ l.apply c now ↔ ∃ r ∈ l, (if c.applies r then c.row now r else r) = t :=
  List.mem_map

theorem applies_iff {r : Row} : c.applies r = true ↔ r.id = c.id ∧ r.status = c.source := by
  simp only [Change.applies, Bool.and_eq_true, decide_eq_true_eq]

theorem touches_iff : l.touches c = true ↔ ∃ r ∈ l, r.id = c.id ∧ r.status = c.source := by
  simp only [touches, List.any_eq_true, applies_iff]

theorem map_apply {β : Type} (f : Row → β) (hf : ∀ r, f (c.row now r) = f r) :
    (l.apply c now).map f = l.map f := by
  unfold apply
  rw [List.map_map]
  refine List.map_congr_left fun r _ => ?_
  dsimp only [Function.comp]
  split
  · exact hf r
  · rfl

variable {l c now}

theorem Keyed.apply (h : l.Keyed) : (l.apply c now).Keyed := by
  constructor
  · rw [map_apply l c now Row.id fun _ => rfl]
    exact h.ids
  · rw [map_apply l c now Row.address fun _ => rfl]
    exact h.addresses

theorem apply_of_not_touches (h : l.touches c = false) : l.apply c now = l := by
  refine (List.map_congr_left fun r hr => ?_).trans (List.map_id l)
  rw [if_neg]
  · rfl
  · intro ha
    have touched : l.touches c = true := List.any_eq_true.mpr ⟨r, hr, ha⟩
    rw [h] at touched
    cases touched

end Ledger

namespace Order

theorem sort_perm (o : Order) (whole : Bool) (rows : List Row) :
    (o.sort whole rows).Perm rows := by
  unfold sort
  dsimp only
  split
  · split
    · exact (List.reverse_perm _).trans (List.mergeSort_perm _ _)
    · exact List.mergeSort_perm _ _
  · exact List.mergeSort_perm _ _

/-- A row comes strictly before another one. -/
def Before (o : Order) (r t : Row) : Prop :=
  if o.descending then keyOf o.key t < keyOf o.key r else keyOf o.key r < keyOf o.key t

theorem sort_sorted (o : Order) (whole : Bool) (rows : List Row) :
    (o.sort whole rows).Pairwise fun r t => ¬o.Before t r := by
  have up : (rows.mergeSort fun a b => decide (keyOf o.key a ≤ keyOf o.key b)).Pairwise
      fun a b => decide (keyOf o.key a ≤ keyOf o.key b) = true := by
    refine List.pairwise_mergeSort (fun a b c => ?_) (fun a b => ?_) _
    · simp only [decide_eq_true_eq]
      omega
    · simp only [Bool.or_eq_true, decide_eq_true_eq]
      omega
  have down : (rows.mergeSort fun a b => decide (keyOf o.key b ≤ keyOf o.key a)).Pairwise
      fun a b => decide (keyOf o.key b ≤ keyOf o.key a) = true := by
    refine List.pairwise_mergeSort (fun a b c => ?_) (fun a b => ?_) _
    · simp only [decide_eq_true_eq]
      omega
    · simp only [Bool.or_eq_true, decide_eq_true_eq]
      omega
  unfold sort Before
  dsimp only
  cases o.descending with
  | true =>
    rw [if_pos rfl]
    by_cases backwards : o.key = .created ∧ whole = true
    · rw [if_pos backwards, List.pairwise_reverse]
      exact up.imp fun {a b} le => Int.not_lt.mpr (of_decide_eq_true le)
    · rw [if_neg backwards]
      exact down.imp fun {a b} le => Int.not_lt.mpr (of_decide_eq_true le)
  | false =>
    exact up.imp fun {a b} le => Int.not_lt.mpr (of_decide_eq_true le)

end Order

namespace Ledger

def matching (l : Ledger) : Option Status → List Row
  | none => l
  | some s => l.filter fun r => r.status = s

theorem matching_sublist (l : Ledger) (status : Option Status) : (l.matching status).Sublist l := by
  cases status with
  | none => exact List.Sublist.refl l
  | some s => exact List.filter_sublist

/-- How many of some rows a limit allows. One that is not positive is none. -/
def allowance (limit : Option Int) (n : Nat) : Nat :=
  match limit with
  | none => n
  | some most => if 0 < most then min most.toNat n else n

/-- What a listing has: rows of the status, each of them once and as many as the limit allows, in
order, and none that is left out comes before one of them. -/
structure Extremes (l : Ledger) (status : Option Status) (o : Order) (limit : Option Int)
    (rows : List Row) : Prop where
  asked : ∀ r ∈ rows, r ∈ l.matching status
  apart : (rows.map Row.id).Nodup
  length : rows.length = allowance limit (l.matching status).length
  sorted : rows.Pairwise fun r t => ¬o.Before t r
  extreme : ∀ t ∈ l.matching status, t ∉ rows → ∀ r ∈ rows, ¬o.Before t r

theorem list_eq_take (l : Ledger) (status : Option Status) (o : Order) (limit : Option Int) :
    ∃ n, l.list status (some o) limit = (o.sort status.isNone (l.matching status)).take n ∧
      min n (l.matching status).length = allowance limit (l.matching status).length := by
  have whole : l.list status (some o) limit =
      match limit with
      | none => o.sort status.isNone (l.matching status)
      | some n => if 0 < n then (o.sort status.isNone (l.matching status)).take n.toNat
          else o.sort status.isNone (l.matching status) := by
    cases status <;> rfl
  have all : (o.sort status.isNone (l.matching status)).take (l.matching status).length =
      o.sort status.isNone (l.matching status) :=
    List.take_of_length_le (Nat.le_of_eq (Order.sort_perm o _ _).length_eq)
  rw [whole]
  unfold allowance
  cases limit with
  | none => exact ⟨_, all.symm, Nat.min_self _⟩
  | some n =>
    dsimp only
    split
    · exact ⟨n.toNat, rfl, rfl⟩
    · exact ⟨_, all.symm, Nat.min_self _⟩

theorem list_extremes {l : Ledger} (ids : (l.map Row.id).Nodup) (status : Option Status) (o : Order)
    (limit : Option Int) : l.Extremes status o limit (l.list status (some o) limit) := by
  obtain ⟨n, listed, most⟩ := l.list_eq_take status o limit
  have perm := Order.sort_perm o status.isNone (l.matching status)
  have sorted := Order.sort_sorted o status.isNone (l.matching status)
  rw [listed]
  generalize o.sort status.isNone (l.matching status) = rows at perm sorted ⊢
  have parts := sorted
  rw [← List.take_append_drop n rows, List.pairwise_append] at parts
  constructor
  · exact fun r here => perm.mem_iff.mp (List.mem_of_mem_take here)
  · have apart : (rows.map Row.id).Nodup :=
      (perm.map Row.id).nodup_iff.mpr (ids.sublist ((l.matching_sublist status).map Row.id))
    exact apart.sublist ((List.take_sublist n rows).map Row.id)
  · rw [List.length_take, perm.length_eq, most]
  · exact parts.1
  · intro t here left r kept
    have found : t ∈ rows := perm.mem_iff.mpr here
    rw [← List.take_append_drop n rows, List.mem_append] at found
    exact parts.2.2 r kept t (found.resolve_left left)

theorem list_subperm (l : Ledger) (status : Status) (order : Option Order) (limit : Option Int) :
    (l.list (some status) order limit).Subperm (l.filter fun r : Row => r.status = status) := by
  have first (rows : List Row) (n : Int) :
      (if 0 < n then rows.take n.toNat else rows).Subperm rows := by
    split
    · exact (List.take_sublist _ _).subperm
    · exact List.Subperm.refl _
  unfold list
  cases order with
  | none =>
    cases limit with
    | none => exact List.Subperm.refl _
    | some n => exact first _ n
  | some o =>
    have sorted := (Order.sort_perm o false (l.filter fun r : Row => r.status = status)).subperm
    cases limit with
    | none => exact sorted
    | some n => exact (first _ n).trans sorted

theorem mem_list {l : Ledger} {status : Status} {order : Option Order} {limit : Option Int}
    {r : Row} (h : r ∈ l.list (some status) order limit) : r ∈ l ∧ r.status = status := by
  have := List.mem_filter.mp ((l.list_subperm status order limit).subset h)
  exact ⟨this.1, of_decide_eq_true this.2⟩

theorem nodup_list {β : Type} {l : Ledger} {f : Row → β} (h : (l.map f).Nodup) (status : Status)
    (order : Option Order) (limit : Option Int) :
    ((l.list (some status) order limit).map f).Nodup := by
  obtain ⟨m, perm, sub⟩ := l.list_subperm status order limit
  have kept : (m.map f).Nodup := h.sublist (sub.trans List.filter_sublist |>.map f)
  exact (perm.map f).nodup_iff.mp kept

/-- The pending rows of least number, as many as a count allows, in order. -/
structure Oldest (l : Ledger) (n : Nat) (rows : List Row) : Prop where
  pending : ∀ r ∈ rows, r ∈ l ∧ r.status = .pending
  ordered : rows.Pairwise fun r t => r.id < t.id
  least : ∀ t ∈ l, t.status = .pending → t ∉ rows → ∀ r ∈ rows, r.id < t.id
  length : rows.length = min n (l.count .pending)

theorem Keyed.list_by_id {l : Ledger} (h : l.Keyed) (status : Option Status) (limit : Option Int) :
    (l.list status (some ⟨.id, false⟩) limit).Pairwise (fun r t => r.id < t.id) ∧
      ∀ t ∈ l.matching status, t ∉ l.list status (some ⟨.id, false⟩) limit →
        ∀ r ∈ l.list status (some ⟨.id, false⟩) limit, r.id < t.id := by
  have ends := list_extremes h.ids status ⟨.id, false⟩ limit
  constructor
  · refine (ends.sorted.and (List.pairwise_map.mp ends.apart)).imp fun {r t} ⟨first, other⟩ => ?_
    exact Int.lt_iff_le_and_ne.mpr ⟨Int.not_lt.mp first, other⟩
  · intro t asked left r kept
    have here := (l.matching_sublist status).subset
    have after : r.id ≤ t.id := Int.not_lt.mp (ends.extreme t asked left r kept)
    refine Int.lt_iff_le_and_ne.mpr ⟨after, fun same => left ?_⟩
    rw [← h.eq_of_id (here (ends.asked r kept)) (here asked) same]
    exact kept

theorem Keyed.oldest_list {l : Ledger} (h : l.Keyed) {n : Int} (hn : 0 < n) :
    l.Oldest n.toNat (l.list (some .pending) (some ⟨.id, false⟩) (some n)) := by
  obtain ⟨ordered, least⟩ := h.list_by_id (some .pending) (some n)
  refine ⟨fun r hr => mem_list hr, ordered, fun t ht pending => ?_, ?_⟩
  · exact least t (List.mem_filter.mpr ⟨ht, decide_eq_true pending⟩)
  · exact (list_extremes h.ids (some .pending) ⟨.id, false⟩ (some n)).length.trans (if_pos hn)

theorem foldl_max_ge (l : List Row) (n : Int) :
    n ≤ l.foldl (fun n r => max n r.id) n ∧
      ∀ r ∈ l, r.id ≤ l.foldl (fun n r => max n r.id) n := by
  induction l generalizing n with
  | nil => exact ⟨Int.le_refl n, nofun⟩
  | cons t l ih =>
    obtain ⟨hn, hl⟩ := ih (max n t.id)
    rw [List.foldl_cons]
    refine ⟨by omega, fun r hr => ?_⟩
    rcases List.mem_cons.mp hr with rfl | hr
    · exact Int.le_trans (Int.le_max_right n r.id) hn
    · exact hl r hr

theorem id_lt_nextId {l : Ledger} {r : Row} (hr : r ∈ l) : r.id < l.nextId :=
  Int.lt_add_one_of_le ((foldl_max_ge l 0).2 r hr)

theorem byAddress?_eq_none {l : Ledger} {address : Text} :
    l.byAddress? address = none ↔ ∀ r ∈ l, r.address ≠ address := by
  unfold byAddress?
  simp only [List.find?_eq_none, decide_eq_true_eq, ne_eq]

theorem of_byAddress? {l : Ledger} {address : Text} {r : Row} (h : l.byAddress? address = some r) :
    r ∈ l ∧ r.address = address := by
  unfold byAddress? at h
  have same := List.find?_some h
  exact ⟨List.mem_of_find?_eq_some h, of_decide_eq_true same⟩

theorem Keyed.append_newRow {l : Ledger} (h : l.Keyed) {address : Text} (source : Text) (sats : Int)
    (now : Moment) (new : l.byAddress? address = none) :
    Keyed (l ++ [newRow l.nextId address source sats now]) := by
  have other := byAddress?_eq_none.mp new
  constructor
  · rw [List.map_append, List.nodup_append]
    refine ⟨h.ids, List.nodup_singleton _, fun a ha b hb => ?_⟩
    obtain ⟨r, hr, rfl⟩ := List.mem_map.mp ha
    cases List.mem_singleton.mp hb
    exact Int.ne_of_lt (id_lt_nextId hr)
  · rw [List.map_append, List.nodup_append]
    refine ⟨h.addresses, List.nodup_singleton _, fun a ha b hb => ?_⟩
    obtain ⟨r, hr, rfl⟩ := List.mem_map.mp ha
    cases List.mem_singleton.mp hb
    exact other r hr

end Ledger

namespace Database

theorem holdsInteger_iff (n : Int) :
    holdsInteger n = true ↔ -9223372036854775808 ≤ n ∧ n ≤ 9223372036854775807 := by
  unfold holdsInteger
  rw [Bool.and_eq_true, decide_eq_true_iff, decide_eq_true_iff]
  rfl

/-- A database in working order, with its table. -/
structure Holds (d : Database) (l : Ledger) : Prop where
  refusal : d.refusal = none
  readOnly : d.readOnly = false
  table : d.table = some l

variable {d : Database} {l : Ledger}

theorem Holds.rows_eq (h : d.Holds l) : d.rows = l := by
  unfold rows
  rw [h.table]
  rfl

theorem Holds.run_error (h : d.Holds l) {s : Statement} {e : Failure} (hb : bind s = .error e) :
    d.run s = (.error e, d) := by
  unfold run
  rw [h.refusal, h.table]
  dsimp only
  rw [hb]

theorem Holds.run_ok (h : d.Holds l) {s : Statement} (hb : bind s = .ok ()) :
    d.run s = ((perform l s).1, { d with table := some (perform l s).2 }) := by
  unfold run
  rw [h.refusal, h.table]
  dsimp only
  rw [hb]
  dsimp only
  rw [h.readOnly]
  rfl

theorem perform_snd_of_reads {s : Statement} (h : writes s = false) : (perform l s).2 = l := by
  cases s with
  | insert | update => cases h
  | byAddress address => cases address <;> rfl
  | countFrom source since => cases source <;> rfl
  | ping | byId | list | count | broadcastSats | stale => rfl

end Database

end Faucet
