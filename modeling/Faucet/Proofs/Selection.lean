import Faucet.Proofs.Candidates

/-!
What a merge selects, said without going through the outputs one by one: the outputs that are worth
merging are put in stable order of their amounts, and the first of them are taken. The threshold may
be any number, an infinite one too; a NaN cannot be compared with.
-/

set_option autoImplicit false

namespace Faucet

namespace Decimal

variable {bound x : Decimal} {q : ℚ}

/-- Numbers that are not above a bound. None is within a NaN. -/
def Admits (bound : Decimal) (q : ℚ) : Prop :=
  match bound with
  | .finite n c e => q ≤ (Decimal.finite n c e).toRat
  | .infinite negative => negative = false
  | .nan .. => False

instance (bound : Decimal) (q : ℚ) : Decidable (bound.Admits q) :=
  match bound with
  | .finite n c e => inferInstanceAs (Decidable (q ≤ (Decimal.finite n c e).toRat))
  | .infinite negative => inferInstanceAs (Decidable (negative = false))
  | .nan .. => inferInstanceAs (Decidable False)

theorem lt_eq_not_admits (number : bound.isNaN = false) (hx : x.Worth q) :
    Decimal.lt bound x = .ok !decide (bound.Admits q) := by
  cases bound with
  | finite n c e =>
    rw [lt_eq ⟨rfl, rfl⟩ hx, ← decide_not]
    exact congrArg _ (decide_eq_decide.mpr not_le.symm)
  | infinite negative =>
    obtain ⟨n, c, e, rfl⟩ := hx.finite
    cases negative <;> rfl
  | nan => cases number

end Decimal

namespace Merge

open Decimal

variable {m : Merge} {us us' sorted other : List Unspent} {p : Unspent → Bool}

/-- In ascending order of the amounts, and equal amounts in the order in which they came. -/
structure Sorts (us sorted : List Unspent) : Prop where
  ascending : sorted.Pairwise fun a b => a.amount.toRat ≤ b.amount.toRat
  stable : ∀ q, sorted.filter (fun u => u.amount.toRat = q) = us.filter fun u => u.amount.toRat = q

theorem below_trans (a b c : Unspent) (first : below a b = true) (second : below b c = true) :
    below a c = true :=
  decide_eq_true ((of_decide_eq_true first).trans (of_decide_eq_true second))

theorem below_total (a b : Unspent) : (below a b || below b a) = true := by
  simpa [below] using le_total a.amount.toRat b.amount.toRat

theorem sorts_mergeSort (us : List Unspent) : Sorts us (us.mergeSort below) where
  ascending := (List.pairwise_mergeSort below_trans below_total us).imp of_decide_eq_true
  stable q := by
    have equal : (us.filter fun u => u.amount.toRat = q).Pairwise fun a b => below a b = true := by
      refine List.pairwise_of_forall_mem_list fun a ha b hb => decide_eq_true ?_
      rw [of_decide_eq_true (List.mem_filter.mp ha).2, of_decide_eq_true (List.mem_filter.mp hb).2]
    have inside := List.sublist_mergeSort below_trans below_total equal List.filter_sublist
    have part := inside.filter fun u => decide (u.amount.toRat = q)
    rw [List.filter_filter] at part
    simp only [Bool.and_self] at part
    exact (part.eq_of_length ((List.mergeSort_perm us below).filter _).length_eq.symm).symm

theorem Sorts.filter (h : Sorts us sorted) (p : Unspent → Bool) :
    Sorts (us.filter p) (sorted.filter p) where
  ascending := h.ascending.filter p
  stable q := by rw [List.filter_comm, h.stable, List.filter_comm]

theorem eq_of_classes (hs : sorted.Pairwise fun a b => a.amount.toRat ≤ b.amount.toRat)
    (ho : other.Pairwise fun a b => a.amount.toRat ≤ b.amount.toRat)
    (same : ∀ q, sorted.filter (fun u => u.amount.toRat = q) =
      other.filter fun u => u.amount.toRat = q) : sorted = other := by
  have mem {s o : List Unspent} (same : ∀ q, s.filter (fun u => u.amount.toRat = q) =
      o.filter fun u => u.amount.toRat = q) {u : Unspent} (here : u ∈ s) : u ∈ o := by
    have own : u ∈ s.filter fun v => v.amount.toRat = u.amount.toRat :=
      List.mem_filter.mpr ⟨here, decide_eq_true rfl⟩
    rw [same] at own
    exact (List.mem_filter.mp own).1
  induction sorted generalizing other with
  | nil =>
    cases other with
    | nil => rfl
    | cons b rest => exact absurd (mem (fun q => (same q).symm) List.mem_cons_self) List.not_mem_nil
  | cons a rest ih =>
    cases other with
    | nil => exact absurd (mem same List.mem_cons_self) List.not_mem_nil
    | cons b rest' =>
      obtain ⟨least, later⟩ := List.pairwise_cons.mp hs
      obtain ⟨least', later'⟩ := List.pairwise_cons.mp ho
      have low : a.amount.toRat ≤ b.amount.toRat := by
        rcases List.mem_cons.mp (mem (fun q => (same q).symm) List.mem_cons_self) with rfl | here
        · exact le_rfl
        · exact least b here
      have high : b.amount.toRat ≤ a.amount.toRat := by
        rcases List.mem_cons.mp (mem same List.mem_cons_self) with rfl | here
        · exact le_rfl
        · exact least' a here
      have level : b.amount.toRat = a.amount.toRat := le_antisymm high low
      have first := same a.amount.toRat
      rw [List.filter_cons, List.filter_cons, if_pos (decide_eq_true rfl),
        if_pos (decide_eq_true level)] at first
      obtain ⟨rfl, -⟩ := List.cons.inj first
      refine congrArg (a :: ·) (ih later later' fun q => ?_)
      have classes := same q
      rw [List.filter_cons, List.filter_cons] at classes
      split at classes
      · exact (List.cons.inj classes).2
      · exact classes

theorem Sorts.eq (h : Sorts us sorted) (h' : Sorts us other) : other = sorted :=
  eq_of_classes h'.ascending h.ascending fun q => (h'.stable q).trans (h.stable q).symm

/-- Outputs that may be spent, are not above the threshold and have a thousand satoshis. -/
def Worthwhile (m : Merge) (u : Unspent) : Prop :=
  u.spendable.truthy = true ∧ m.threshold.Admits u.amount.toRat ∧ 1000 / 10 ^ 8 ≤ u.amount.toRat

instance (m : Merge) (u : Unspent) : Decidable (m.Worthwhile u) := by
  unfold Worthwhile
  infer_instance

def ranking (m : Merge) (us : List Unspent) : List Unspent :=
  (us.mergeSort below).filter fun u => m.Worthwhile u

def selection (m : Merge) (us : List Unspent) : List Unspent := (m.ranking us).take m.most.toNat

theorem sorts_ranking (m : Merge) (us : List Unspent) :
    Sorts (us.filter fun u => m.Worthwhile u) (m.ranking us) :=
  (sorts_mergeSort us).filter _

theorem judges_worthwhile {u : Unspent} (number : m.threshold.isNaN = false)
    (finite : u.amount.isFinite = true) : m.Judges (fun u => decide (m.Worthwhile u)) u := by
  have thousand : (1000 / 10 ^ 8 : ℚ) = 1 / 10 ^ 5 := by norm_num
  refine ⟨_, _, lt_eq_not_admits number ⟨finite, rfl⟩, lt_eq ⟨finite, rfl⟩ Money.dust_worth, ?_⟩
  rw [Bool.eq_iff_iff, decide_eq_true_iff, Worthwhile, thousand, ← and_assoc, and_comm (a := _ = true)]
  simp

theorem select_eq_selection (number : m.threshold.isNaN = false)
    (finite : ∀ u ∈ us, u.amount.isFinite = true) : m.select us = .ok (m.selection us) := by
  have judged : ∀ u ∈ us.mergeSort below, m.Judges (fun u => decide (m.Worthwhile u)) u :=
    fun u here => judges_worthwhile number (finite u (List.mem_mergeSort.mp here))
  have taken := take_filter judged 0
  rw [Nat.cast_zero, Int.sub_zero] at taken
  unfold select
  rw [sorted_eq finite fun a ha b hb => ascending_eq (finite a ha) (finite b hb)]
  exact taken

/-- What is selected, by its definition and by what follows from it: never more than allowed, never
an output that is not worthwhile, none twice, and the smallest ones. -/
structure Selects (m : Merge) (us chosen : List Unspent) : Prop where
  ordered : ∃ sorted, (∀ other, Sorts (us.filter fun u => m.Worthwhile u) other ↔ other = sorted) ∧
    chosen = sorted.take m.most.toNat
  length : chosen.length = min m.most.toNat (us.countP fun u => m.Worthwhile u)
  worthwhile : ∀ u ∈ chosen, m.Worthwhile u
  once : ∃ left, us.Perm (chosen ++ left) ∧
    ∀ u ∈ left, m.Worthwhile u → ∀ v ∈ chosen, v.amount.toRat ≤ u.amount.toRat

theorem selection_selects (m : Merge) (us : List Unspent) : m.Selects us (m.selection us) where
  ordered := by
    have sorts := m.sorts_ranking us
    exact ⟨m.ranking us, fun other => ⟨sorts.eq, fun same => same ▸ sorts⟩, rfl⟩
  length := by
    unfold selection ranking
    rw [List.length_take, ← List.countP_eq_length_filter, (List.mergeSort_perm us below).countP_eq]
  worthwhile u here := of_decide_eq_true (List.mem_filter.mp (List.mem_of_mem_take here)).2
  once := by
    refine ⟨(m.ranking us).drop m.most.toNat ++
      (us.mergeSort below).filter fun u => !decide (m.Worthwhile u), ?_, ?_⟩
    · have parts := List.filter_append_perm (fun u => decide (m.Worthwhile u)) (us.mergeSort below)
      rw [← List.append_assoc, selection, List.take_append_drop]
      exact (parts.trans (List.mergeSort_perm us below)).symm
    · intro u here worthwhile v taken
      rcases List.mem_append.mp here with later | unfit
      · exact (m.sorts_ranking us).ascending.rel_of_mem_take_of_mem_drop taken later
      · exact absurd (decide_eq_true worthwhile) (by simpa using (List.mem_filter.mp unfit).2)

theorem selection_perm (m : Merge) (h : us.Perm us') :
    (m.selection us').map (·.amount.toRat) = (m.selection us).map (·.amount.toRat) := by
  have ascending (us : List Unspent) : ((m.ranking us).map (·.amount.toRat)).Pairwise (· ≤ ·) :=
    List.pairwise_map.mpr (m.sorts_ranking us).ascending
  have listings : (us'.mergeSort below).Perm (us.mergeSort below) :=
    (List.mergeSort_perm us' below).trans (h.symm.trans (List.mergeSort_perm us below).symm)
  have amounts : (m.ranking us').map (·.amount.toRat) = (m.ranking us).map (·.amount.toRat) :=
    List.Perm.eq_of_pairwise (fun _ _ _ _ => le_antisymm) (ascending us') (ascending us)
      ((listings.filter _).map _)
  unfold selection
  rw [List.map_take, List.map_take, amounts]

theorem mem_of_selection {u : Unspent} (here : u ∈ m.selection us) : u ∈ us :=
  List.mem_mergeSort.mp (List.mem_filter.mp (List.mem_of_mem_take here)).1

end Merge

end Faucet
