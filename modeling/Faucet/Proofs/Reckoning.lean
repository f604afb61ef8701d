import Faucet.Proofs.Consolidation
import Faucet.Proofs.Rounding
import Faucet.Proofs.Selection
import Faucet.Proofs.Wire

/-!
What a merge works out from the outputs that it selects: their total, the fee and what is left. It
depends on the amounts as numbers only. Listings of the same outputs in another order therefore lead
to the same figures, or to the same fault.
-/

set_option autoImplicit false

namespace Faucet

/-- Results that are related, or the same fault. -/
def Matches {ε α : Type} (R : α → α → Prop) : Except ε α → Except ε α → Prop
  | .ok a, .ok b => R a b
  | .error e, .error e' => e = e'
  | _, _ => False

namespace Matches

variable {ε α β : Type} {R S : α → α → Prop} {x y : Except ε α}

theorem of_eq (refl : ∀ a, R a a) (h : x = y) : Matches R x y := by
  subst h
  cases x with
  | error e => rfl
  | ok a => exact refl a

theorem mono (h : Matches R x y) (weaker : ∀ a b, R a b → S a b) : Matches S x y := by
  cases x with
  | error e =>
    cases y with
    | error e' => exact h
    | ok b => cases h
  | ok a =>
    cases y with
    | error e' => cases h
    | ok b => exact weaker a b h

theorem bind {T : β → β → Prop} {f g : α → Except ε β} (h : Matches R x y)
    (next : ∀ a b, R a b → Matches T (f a) (g b)) : Matches T (x >>= f) (y >>= g) := by
  cases x with
  | error e =>
    cases y with
    | error e' => exact h
    | ok b => cases h
  | ok a =>
    cases y with
    | error e' => cases h
    | ok b => exact next a b h

end Matches

namespace Decimal

variable {x x' y y' : Decimal} {xs ys : List Decimal} {q : ℚ} {t : Int}
  {r r' : Except ArithmeticFault Decimal}

/-- Finite numbers that stand for the same number, whatever their exponents. -/
def Same (x y : Decimal) : Prop := ∃ q, x.Worth q ∧ y.Worth q

def Alike (x y : Decimal) : Prop := x = y ∨ Same x y

theorem Rounds.matches (h : Rounds q r) (h' : Rounds q r') : Matches Same r r' := by
  unfold Rounds at h h'
  split_ifs at h h'
  · obtain ⟨z, rfl, worth⟩ := h
    obtain ⟨z', rfl, worth'⟩ := h'
    exact ⟨_, worth, worth'⟩
  · subst h h'
    rfl

theorem add_same (hx : Same x x') (hy : Same y y') : Matches Same (add x y) (add x' y') := by
  obtain ⟨p, worth, worth'⟩ := hx
  obtain ⟨q, other, other'⟩ := hy
  exact (add_rounds worth other).matches (add_rounds worth' other')

theorem foldlM_add_same (hx : Same x x') (h : List.Forall₂ Same xs ys) :
    Matches Same (xs.foldlM add x) (ys.foldlM add x') := by
  induction h generalizing x x' with
  | nil => exact hx
  | cons first rest ih =>
    rw [List.foldlM_cons, List.foldlM_cons]
    exact (add_same hx first).bind fun _ _ => ih

theorem sum_same (h : List.Forall₂ Same xs ys) : Matches Same (sum xs) (sum ys) :=
  foldlM_add_same ⟨0, by simp [Worth, zero, isFinite, toRat, scaled],
    by simp [Worth, zero, isFinite, toRat, scaled]⟩ h

theorem sub_unlimited (hx : x.isFinite = true) (hx' : x'.isFinite = true)
    (unlimited : y.isFinite = false) : sub x y = sub x' y := by
  obtain ⟨n, c, e, rfl⟩ := Worth.finite ⟨hx, rfl⟩
  obtain ⟨n', c', e', rfl⟩ := Worth.finite ⟨hx', rfl⟩
  cases y with
  | finite => cases unlimited
  | infinite => rfl
  | nan negative signalling => cases signalling <;> rfl

theorem sub_alike (hx : Same x x') (y : Decimal) : Matches Alike (sub x y) (sub x' y) := by
  cases kind : y.isFinite with
  | true =>
    have negated := worth_negate ⟨kind, rfl⟩
    exact (add_same hx ⟨_, negated, negated⟩).mono fun _ _ => .inr
  | false =>
    obtain ⟨q, worth, worth'⟩ := hx
    exact .of_eq (fun _ => .inl rfl) (sub_unlimited worth.1 worth'.1 kind)

def cut (q : ℚ) (t : Int) : ℚ :=
  if q < 0 then -(⌊|q| * 10 ^ (-t)⌋₊ * 10 ^ t) else ⌊|q| * 10 ^ (-t)⌋₊ * 10 ^ t

theorem quantize_cut (worth : x.Worth q) (t : Int) :
    if ⌊|q| * 10 ^ (-t)⌋₊ < 10 ^ 28 then ∃ z, quantize .down x t = .ok z ∧ z.Worth (cut q t)
    else quantize .down x t = .error .invalid := by
  obtain ⟨n, c, e, rfl⟩ := worth.finite
  have size : scaled c (e - t) = |q| * 10 ^ (-t) := by
    rw [← worth.2, abs_toRat, scaled, scaled, sub_eq_add_neg, zpow_add₀ (by norm_num), mul_assoc]
  unfold cut
  rw [← size]
  split_ifs with few below
  · refine ⟨_, quantize_down few, rfl, ?_⟩
    cases n with
    | true => rfl
    | false => exact absurd (worth.2.trans_lt below) (not_lt.mpr (scaled_nonneg c e))
  · refine ⟨_, quantize_down few, rfl, ?_⟩
    cases n with
    | true =>
      -- A negative sign is left only by a zero.
      have nothing : scaled c e = 0 :=
        le_antisymm (neg_nonneg.mp ((not_lt.mp below).trans_eq worth.2.symm)) (scaled_nonneg c e)
      have none : c = 0 := by
        by_contra some
        exact (scaled_pos some e).ne' nothing
      subst none
      simp [toRat, scaled]
    | false => rfl
  · have some : c ≠ 0 := by
      rintro rfl
      exact few (by simp [scaled])
    have long : precision < Text.digitCount ⌊scaled c (e - t)⌋₊ := by
      by_contra short
      exact few ((lt_tenTo_digitCount _).trans_le (Nat.pow_le_pow_right (by decide) (not_lt.mp short)))
    unfold quantize
    dsimp only
    rw [if_neg some, rescale_down, if_pos long, ite_self]

theorem quantize_alike (h : Alike x y) (t : Int) :
    Matches Alike (quantize .down x t) (quantize .down y t) := by
  rcases h with rfl | ⟨q, worth, worth'⟩
  · exact .of_eq (fun _ => .inl rfl) rfl
  · have left := quantize_cut worth t
    have right := quantize_cut worth' t
    split_ifs at left right
    · obtain ⟨z, made, hz⟩ := left
      obtain ⟨z', made', hz'⟩ := right
      rw [made, made']
      exact .inr ⟨_, hz, hz'⟩
    · rw [left, right]
      rfl

theorem le_zero_alike (h : Alike x y) : x.le .zero = y.le .zero := by
  rcases h with rfl | ⟨q, worth, worth'⟩
  · rfl
  · rw [le_zero_eq worth, le_zero_eq worth']

end Decimal

namespace Merge

open Decimal

variable {m : Merge} {us us' cs cs' : List Unspent} {total total' : Decimal}

structure Estimate.Alike (e e' : Estimate) : Prop where
  count : e.count = e'.count
  total : e.total.Same e'.total
  size : e.size = e'.size
  fee : e.fee = e'.fee
  output : e.output.Alike e'.output

theorem estimate_alike (m : Merge) (count : Nat) (h : total.Same total') :
    Matches Estimate.Alike (m.estimate count total) (m.estimate count total') := by
  unfold estimate
  refine Matches.bind (Matches.of_eq (R := Eq) (fun _ => rfl) rfl) ?_
  rintro size _ rfl
  refine Matches.bind (Matches.of_eq (R := Eq) (fun _ => rfl) rfl) ?_
  rintro fee _ rfl
  refine Matches.bind (sub_alike h fee) fun left left' same => ?_
  refine Matches.bind (quantize_alike same (-8)) fun output output' same => ?_
  exact ⟨rfl, h, rfl, rfl, same⟩

/-- What becomes of candidates, before anything is asked for or reported. -/
inductive Verdict where
  | nothing
  | tooFew (total : Decimal)
  | uncovered (total : Decimal) (e : Estimate)
  | covered (total : Decimal) (e : Estimate)

inductive Verdict.Alike : Verdict → Verdict → Prop where
  | nothing : Alike .nothing .nothing
  | tooFew {total total' : Decimal} (h : total.Same total') : Alike (.tooFew total) (.tooFew total')
  | uncovered {total total' : Decimal} {e e' : Estimate} (h : total.Same total') (he : e.Alike e') :
      Alike (.uncovered total e) (.uncovered total' e')
  | covered {total total' : Decimal} {e e' : Estimate} (h : total.Same total') (he : e.Alike e') :
      Alike (.covered total e) (.covered total' e')

def reckon (m : Merge) : List Unspent → Except ArithmeticFault Verdict
  | [] => .ok .nothing
  | u :: us => do
    let total ← Decimal.sum ((u :: us).map (·.amount))
    if ((u :: us).length : Int) < m.least then return .tooFew total
    else
      let e ← m.estimate (u :: us).length total
      if ← e.output.le .zero then return .uncovered total e else return .covered total e

def proceed (m : Merge) (cs : List Unspent) : Verdict → Job MergeReport
  | .nothing => finish m.nothingReport
  | .tooFew total => finish (m.tooFewReport cs.length total)
  | .uncovered total e => (Job.log .warning (uncoveredText cs.length total e.fee)).bind fun _ =>
      finish (uncoveredReport cs.length total e.fee)
  | .covered _ e => m.spend cs e

theorem settle_eq (m : Merge) (cs : List Unspent) :
    m.settle cs = (Job.ofArithmetic (m.reckon cs)).bind (m.proceed cs) := by
  cases cs with
  | nil => rfl
  | cons u us =>
    rw [settle, reckon]
    cases Decimal.sum ((u :: us).map (·.amount)) with
    | error fault => rfl
    | ok total =>
      change (if ((u :: us).length : Int) < m.least then _ else _ : Job MergeReport) =
        (Job.ofArithmetic (if ((u :: us).length : Int) < m.least then _ else _)).bind _
      split
      · rfl
      · cases m.estimate (u :: us).length total with
        | error fault => rfl
        | ok e =>
          change m.conclude (u :: us) total e = (Job.ofArithmetic (do
            if ← e.output.le .zero then return Verdict.uncovered total e
            else return .covered total e)).bind _
          unfold conclude
          cases e.output.le .zero with
          | error fault => rfl
          | ok short => cases short <;> rfl

theorem forall₂_same (finite : ∀ u ∈ cs, u.amount.isFinite = true)
    (finite' : ∀ u ∈ cs', u.amount.isFinite = true)
    (h : cs.map (·.amount.toRat) = cs'.map (·.amount.toRat)) :
    List.Forall₂ Same (cs.map (·.amount)) (cs'.map (·.amount)) := by
  induction cs generalizing cs' with
  | nil =>
    obtain rfl : cs' = [] := List.map_eq_nil_iff.mp h.symm
    exact .nil
  | cons u us ih =>
    cases cs' with
    | nil => cases h
    | cons u' us' =>
      obtain ⟨first, rest⟩ := List.cons.inj h
      obtain ⟨number, finite⟩ := List.forall_mem_cons.mp finite
      obtain ⟨number', finite'⟩ := List.forall_mem_cons.mp finite'
      exact .cons ⟨_, ⟨number, rfl⟩, number', first.symm⟩ (ih finite finite' rest)

theorem reckon_alike (finite : ∀ u ∈ cs, u.amount.isFinite = true)
    (finite' : ∀ u ∈ cs', u.amount.isFinite = true)
    (h : cs.map (·.amount.toRat) = cs'.map (·.amount.toRat)) :
    Matches Verdict.Alike (m.reckon cs) (m.reckon cs') := by
  have count : cs.length = cs'.length := by simpa using congrArg List.length h
  have amounts := forall₂_same finite finite' h
  cases cs with
  | nil =>
    obtain rfl : cs' = [] := List.map_eq_nil_iff.mp h.symm
    exact .nothing
  | cons u us =>
    cases cs' with
    | nil => cases h
    | cons u' us' =>
      rw [reckon, reckon, ← count]
      refine (sum_same amounts).bind fun total total' same => ?_
      split
      · exact .tooFew same
      · refine (m.estimate_alike _ same).bind fun e e' alike => ?_
        rw [← le_zero_alike alike.output]
        cases e.output.le .zero with
        | error fault => rfl
        | ok short =>
          cases short with
          | true => exact .uncovered same alike
          | false => exact .covered same alike

end Merge

/-- Reports of the same figures. Addresses and transactions are the node's. -/
structure MergeReport.Alike (r r' : MergeReport) : Prop where
  outcome : r.outcome = r'.outcome
  count : r.count = r'.count
  total : r.total.Same r'.total
  fee : r.fee = r'.fee
  output : Option.Rel Decimal.Alike r.output r'.output
  reason : r.reason = r'.reason

theorem Job.play_bind_ok {α β : Type} {env : Nat → Reaction} {s : Scene} {j : Job α} {f : α → Job β}
    {b : β} (h : ((j.bind f).play env s).1 = .ok b) :
    ∃ a s', j.play env s = (.ok a, s') ∧ ((f a).play env s').1 = .ok b := by
  rw [bind_eq_attempt, play_attempt] at h
  generalize j.play env s = out at h ⊢
  obtain ⟨ending, s'⟩ := out
  cases ending with
  | error e => cases h
  | ok a => exact ⟨a, s', rfl, h⟩

namespace Merge

open Decimal

variable {m : Merge} {us us' cs : List Unspent} {v v' : Verdict} {r : MergeReport}
  {env : Nat → Reaction} {s : Scene}

def report (m : Merge) (count : Nat) (address txid : Text) : Verdict → MergeReport
  | .nothing => m.nothingReport
  | .tooFew total => m.tooFewReport count total
  | .uncovered total e => uncoveredReport count total e.fee
  | .covered _ e => mergedReport e address txid

theorem report_alike (h : v.Alike v') (m : Merge) (count : Nat) (address txid address' txid' : Text) :
    (m.report count address txid v).Alike (m.report count address' txid' v') := by
  cases h with
  | nothing => exact ⟨rfl, rfl, ⟨_, ⟨rfl, rfl⟩, rfl, rfl⟩, rfl, .none, rfl⟩
  | tooFew same => exact ⟨rfl, rfl, same, rfl, .none, rfl⟩
  | uncovered same alike => exact ⟨rfl, rfl, same, congrArg some alike.fee, .none, rfl⟩
  | covered same alike =>
    exact ⟨rfl, congrArg Nat.cast alike.count, alike.total, congrArg some alike.fee,
      .some alike.output, rfl⟩

theorem finish_reports {r₀ : MergeReport} (h : ((finish r₀).play env s).1 = .ok r) : r = r₀ :=
  MergeReport.eq_of_make ((finish_play env s r₀).1.symm.trans h)

theorem proceed_reports (h : ((m.proceed cs v).play env s).1 = .ok r) :
    ∃ address txid, r = m.report cs.length address txid v := by
  cases v with
  | nothing => exact ⟨[], [], finish_reports h⟩
  | tooFew total => exact ⟨[], [], finish_reports h⟩
  | uncovered total e =>
    obtain ⟨_, _, -, ended⟩ := Job.play_bind_ok h
    exact ⟨[], [], finish_reports ended⟩
  | covered total e =>
    obtain ⟨address, _, -, derived⟩ := Job.play_bind_ok h
    obtain ⟨inputs, _, -, ordered⟩ := Job.play_bind_ok derived
    obtain ⟨outputs, _, -, paying⟩ := Job.play_bind_ok ordered
    obtain ⟨txid, _, -, sent⟩ := Job.play_bind_ok paying
    obtain ⟨_, _, -, ended⟩ := Job.play_bind_ok sent
    exact ⟨address, txid, finish_reports ended⟩

theorem run_reports (number : m.threshold.isNaN = false)
    (finite : ∀ u ∈ us, u.amount.isFinite = true) (told : (env s.log.length).wallet listing = .ok us)
    (h : (m.run.play env s).1 = .ok r) : ∃ v address txid,
      m.reckon (m.selection us) = .ok v ∧ r = m.report (m.selection us).length address txid v := by
  rw [run_eq] at h
  have listed := congrArg Prod.fst (Job.play_wallet_ok told fun us =>
    (Job.ofArithmetic (m.select us)).bind m.settle)
  replace h := listed.symm.trans h
  rw [select_eq_selection number finite] at h
  change ((m.settle (m.selection us)).play env _).1 = _ at h
  rw [settle_eq] at h
  cases reckoned : m.reckon (m.selection us) with
  | error fault =>
    rw [reckoned] at h
    cases h
  | ok v =>
    rw [reckoned] at h
    obtain ⟨address, txid, same⟩ := proceed_reports (v := v) h
    exact ⟨v, address, txid, rfl, same⟩

/-- Two listings come to the same amounts, the same figures or the same fault, and to reports of the
same figures. -/
structure Agrees (m : Merge) (us us' : List Unspent) : Prop where
  selected : m.select us' = .ok (m.selection us')
  amounts : (m.selection us').map (·.amount.toRat) = (m.selection us).map (·.amount.toRat)
  figures : Matches Verdict.Alike (m.reckon (m.selection us)) (m.reckon (m.selection us'))
  reports : ∀ (env env' : Nat → Reaction) (s s' : Scene) (r r' : MergeReport),
    (env s.log.length).wallet listing = .ok us → (env' s'.log.length).wallet listing = .ok us' →
      (m.run.play env s).1 = .ok r → (m.run.play env' s').1 = .ok r' → r.Alike r'

theorem agrees_of_perm (number : m.threshold.isNaN = false)
    (finite : ∀ u ∈ us, u.amount.isFinite = true) (h : us.Perm us') : m.Agrees us us' := by
  have finite' : ∀ u ∈ us', u.amount.isFinite = true := fun u here => finite u (h.mem_iff.mpr here)
  have amounts := m.selection_perm h
  have count : (m.selection us').length = (m.selection us).length := by
    simpa using congrArg List.length amounts
  have figures : Matches Verdict.Alike (m.reckon (m.selection us)) (m.reckon (m.selection us')) :=
    reckon_alike (fun u here => finite u (mem_of_selection here))
      (fun u here => finite' u (mem_of_selection here)) amounts.symm
  refine ⟨select_eq_selection number finite', amounts, figures, ?_⟩
  intro env env' s s' r r' told told' ended ended'
  obtain ⟨v, address, txid, reckoned, rfl⟩ := run_reports number finite told ended
  obtain ⟨v', address', txid', reckoned', rfl⟩ := run_reports number finite' told' ended'
  rw [reckoned, reckoned'] at figures
  rw [count]
  exact report_alike figures m _ _ _ _ _

/-- Selection is what its definition says, for any listing of finite amounts and any threshold that is
a number, and neither it nor what is worked out from it depends on the order of the listing. -/
theorem selects_first {m : Merge} {us : List Unspent} (number : m.threshold.isNaN = false)
    (finite : ∀ u ∈ us, u.amount.isFinite = true) :
    m.select us = .ok (m.selection us) ∧ m.Selects us (m.selection us) ∧
      ∀ us', us.Perm us' → m.Agrees us us' :=
  ⟨select_eq_selection number finite, m.selection_selects us, fun _ => agrees_of_perm number finite⟩

/-! The threshold may be infinite, but not a NaN. -/

def boundless : Merge := { threshold := .infinite false, most := 2 }

theorem selects_first_purse : boundless.threshold.isNaN = false ∧
    (∀ u ∈ purse, u.amount.isFinite = true) ∧ boundless.select purse = .ok small ∧
      boundless.Agrees purse purse.reverse := by
  have finite : ∀ u ∈ purse, u.amount.isFinite = true := by decide
  obtain ⟨selected, -, agrees⟩ := selects_first (m := boundless) rfl finite
  have chosen : boundless.selection purse = small := by
    have sorted : purse.mergeSort below = purse := List.mergeSort_of_pairwise (by decide +kernel)
    have kept : ∀ u ∈ purse, decide (boundless.Worthwhile u) = true := by decide +kernel
    unfold selection ranking
    rw [sorted, List.filter_eq_self.mpr kept]
    rfl
  exact ⟨rfl, finite, chosen ▸ selected, agrees _ (List.reverse_perm _).symm⟩

def undefinedThreshold : Merge := { threshold := .nan false false 0 }

theorem select_nan : (∀ u ∈ [piece "aa" 50], u.amount.isFinite = true) ∧
    [piece "aa" 50].filter (fun u => undefinedThreshold.Worthwhile u) = [] ∧
      undefinedThreshold.select [piece "aa" 50] ≠ .ok [] := by
  have failed : undefinedThreshold.select [piece "aa" 50] = .error .invalid := by
    have alone : [piece "aa" 50].mergeSort ascending = [piece "aa" 50] :=
      List.mergeSort_of_pairwise (List.pairwise_singleton _ _)
    unfold select sorted
    rw [if_neg (by decide), alone]
    rfl
  rw [failed]
  exact ⟨by decide, by decide, nofun⟩

end Merge

end Faucet
