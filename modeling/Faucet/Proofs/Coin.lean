import Faucet.Decimal.Written
import Faucet.Proofs.Exact

/-!
Satoshis and coin. What satoshis are worth in coin is written with eight places, and both the amount
and its text lead back to the same satoshis.
-/

set_option autoImplicit false

namespace Faucet

namespace Text

theorem isDigit_of_mem_ofNat {n : Nat} {c : CodePoint} (h : c ∈ ofNat n) : c.isDigit = true := by
  obtain ⟨d, hd, rfl⟩ := List.mem_map.mp h
  have range := Nat.isDigit_of_mem_toDigits (by decide) (by decide) hd
  simp only [Char.isDigit, Bool.and_eq_true, decide_eq_true_eq] at range
  simp only [CodePoint.isDigit, Bool.and_eq_true, decide_eq_true_eq]
  exact range

def digitsOf (t : Text) : List Nat := t.map fun c => c.val - 48

theorem natOfDigits_zeros (k : Nat) (ds : List Nat) :
    natOfDigits (List.replicate k 0 ++ ds) = natOfDigits ds := by
  induction k with
  | zero => rfl
  | succ k ih => exact ih

theorem natOfDigits_ofNat (n : Nat) : natOfDigits (digitsOf (ofNat n)) = n := by
  have read : natOfDigits (digitsOf (ofNat n)) = Nat.ofDigitChars 10 (Nat.toDigits 10 n) 0 := by
    unfold natOfDigits digitsOf ofNat Nat.ofDigitChars
    rw [List.foldl_map, List.foldl_map]
    rfl
  rw [read, Nat.ofDigitChars_ten_toDigits]

theorem ofNat_mul_tenTo {c : Nat} (some : c ≠ 0) (k : Nat) :
    ofNat (c * tenTo k) = ofNat c ++ List.replicate k 48 := by
  induction k with
  | zero => rw [tenTo_zero, Nat.mul_one, List.replicate_zero, List.append_nil]
  | succ k ih =>
    have pos : 0 < c * tenTo k := Nat.mul_pos (Nat.pos_of_ne_zero some) (tenTo_pos k)
    have shifted : Nat.toDigits 10 (c * tenTo (k + 1)) = Nat.toDigits 10 (c * tenTo k) ++ ['0'] := by
      have step : c * tenTo (k + 1) = 10 * (c * tenTo k) + 0 := by
        rw [tenTo_succ, Nat.add_zero, ← Nat.mul_assoc, Nat.mul_comm]
      rw [step]
      exact (Nat.toDigits_append_toDigits (by decide) pos (by decide)).symm
    have written : ofNat (c * tenTo (k + 1)) = ofNat (c * tenTo k) ++ [48] := by
      unfold ofNat
      rw [shifted, List.map_append]
      rfl
    rw [written, ih, List.append_assoc, List.replicate_succ']

theorem strip_of_none {t : Text} (h : ∀ c ∈ t, c.isBlank = false) : t.strip = t := by
  have kept : ∀ {s : Text}, (∀ c ∈ s, c.isBlank = false) → s.dropWhile CodePoint.isBlank = s := by
    intro s hs
    cases s with
    | nil => rfl
    | cons c s => rw [List.dropWhile_cons_of_neg (by simp [hs c List.mem_cons_self])]
  unfold strip trim trimRight trimLeft
  rw [kept h, kept fun c hc => h c (List.mem_reverse.mp hc), List.reverse_reverse]

theorem mapM_of_fixed {f : CodePoint → Option CodePoint} {t : Text} (h : ∀ c ∈ t, f c = some c) :
    t.mapM f = some t := by
  induction t with
  | nil => rfl
  | cons c t ih =>
    rw [List.mapM_cons, h c List.mem_cons_self, ih fun d hd => h d (List.mem_cons_of_mem c hd)]
    rfl

end Text

namespace Decimal

open Text

def isNumeric (c : CodePoint) : Bool := c.isDigit || c = 46

theorem range_of_isNumeric {c : CodePoint} (h : isNumeric c = true) : 46 ≤ c.val ∧ c.val ≤ 57 := by
  rcases Bool.or_eq_true _ _ |>.mp h with digit | point
  · simp only [CodePoint.isDigit, Bool.and_eq_true, decide_eq_true_eq] at digit
    omega
  · rw [of_decide_eq_true point]
    decide

theorem isBlank_of_isNumeric {c : CodePoint} (h : isNumeric c = true) : c.isBlank = false := by
  have range := range_of_isNumeric h
  simp only [CodePoint.isBlank, CodePoint.isSpace, Bool.or_eq_false_iff, Bool.and_eq_false_iff,
    decide_eq_false_iff_not]
  omega

theorem readUnsigned_of_isDigit {c : CodePoint} (digit : c.isDigit = true) (negative : Bool)
    (t : Text) : readUnsigned negative (c :: t) = readFinite negative (c :: t) := by
  have range : 48 ≤ c.val ∧ c.val ≤ 57 := by
    simpa only [CodePoint.isDigit, Bool.and_eq_true, decide_eq_true_eq] using digit
  have small : c.lower = c := by
    unfold CodePoint.lower CodePoint.isUpperLetter
    rw [if_neg (by simp only [Bool.and_eq_true, decide_eq_true_eq]; omega)]
  have ne (d : CodePoint) (out : ¬(48 ≤ d.val ∧ d.val ≤ 57)) : c.lower ≠ d := by
    rw [small]
    exact fun same => out (same ▸ range)
  have word (d : CodePoint) (s : Text) (out : ¬(48 ≤ d.val ∧ d.val ≤ 57)) :
      Text.lower (c :: t) ≠ d :: s := fun same => ne d out (List.cons.inj same).1
  have after (d : CodePoint) (s : Text) (out : ¬(48 ≤ d.val ∧ d.val ≤ 57)) :
      Text.after? (d :: s) (Text.lower (c :: t)) = none := if_neg (ne d out).symm
  have inf : Text.lower (c :: t) ≠ "inf" := word 105 _ (by decide)
  have infinity : Text.lower (c :: t) ≠ "infinity" := word 105 _ (by decide)
  have quiet : Text.after? "nan" (Text.lower (c :: t)) = none := after 110 _ (by decide)
  have signalling : Text.after? "snan" (Text.lower (c :: t)) = none := after 115 _ (by decide)
  unfold readUnsigned
  dsimp only
  rw [if_neg (not_or.mpr ⟨inf, infinity⟩), quiet, signalling]

theorem ofText_of_isNumeric {c : CodePoint} {t : Text} (h : ∀ d ∈ c :: t, isNumeric d = true)
    (digit : c.isDigit = true) : ofText (c :: t) = readFinite false (c :: t) := by
  have plain : ∀ d ∈ c :: t, plainDigit? d = some d := fun d hd => by
    have range := range_of_isNumeric (h d hd)
    unfold plainDigit?
    rw [if_pos (by simp only [Bool.and_eq_true, decide_eq_true_eq]; omega)]
  have kept : (c :: t).filter (· ≠ 95) = c :: t := by
    refine List.filter_eq_self.mpr fun d hd => decide_eq_true fun same => ?_
    have range := range_of_isNumeric (h d hd)
    rw [same] at range
    exact absurd range (by decide)
  unfold ofText
  rw [strip_of_none fun d hd => isBlank_of_isNumeric (h d hd), kept, mapM_of_fixed plain]
  split
  · rename_i none
    cases none
  · rename_i r eq
    cases eq
    exact absurd digit (by decide)
  · rename_i r eq
    cases eq
    exact absurd digit (by decide)
  · rename_i r _ _ eq
    cases eq
    exact readUnsigned_of_isDigit digit false t

theorem spanDigits_append {t rest : Text} (h : ∀ c ∈ t, c.isDigit = true)
    (stop : ∀ c ∈ rest.head?, c.isDigit = false) : spanDigits (t ++ rest) = (digitsOf t, rest) := by
  induction t with
  | nil =>
    cases rest with
    | nil => rfl
    | cons c rest =>
      have other := stop c rfl
      simp only [List.nil_append, spanDigits, other]
      rfl
  | cons c t ih =>
    have digit := h c List.mem_cons_self
    simp only [List.cons_append, spanDigits, digit, ih fun d hd => h d (List.mem_cons_of_mem c hd)]
    rfl

theorem readFinite_pointed {whole places : Text} (filled : whole ≠ [])
    (hw : ∀ c ∈ whole, c.isDigit = true) (hp : ∀ c ∈ places, c.isDigit = true)
    (fits : readable (natOfDigits (digitsOf (whole ++ places))) (-places.length) = true) :
    readFinite false (whole ++ 46 :: places) =
      .ok (.finite false (natOfDigits (digitsOf (whole ++ places))) (-places.length)) := by
  have first : spanDigits (whole ++ 46 :: places) = (digitsOf whole, 46 :: places) :=
    spanDigits_append hw fun c hc => by cases hc; rfl
  have second : spanDigits (places ++ []) = (digitsOf places, []) := spanDigits_append hp nofun
  rw [List.append_nil] at second
  have length : (digitsOf places).length = places.length := List.length_map _
  have joined : digitsOf whole ++ digitsOf places = digitsOf (whole ++ places) :=
    List.map_append.symm
  have present : digitsOf whole ≠ [] := fun none => filled (List.map_eq_nil_iff.mp none)
  simp only [readFinite, first, second, present, readExponent?, false_and, if_false, joined, length,
    Int.zero_sub, fits, if_true]

def HasPlaces (k : Nat) (t : Text) : Prop :=
  ∃ whole places : Text, t = whole ++ 46 :: places ∧ whole ≠ [] ∧ places.length = k ∧
    ∀ c ∈ whole ++ places, c.isDigit = true

theorem pointed_eq (digits : Text) (k : Nat) :
    ∃ whole places : Text, pointed digits k = whole ++ 46 :: places ∧ whole ≠ [] ∧
      places.length = k ∧ whole ++ places = List.replicate (k + 1 - digits.length) 48 ++ digits := by
  unfold pointed
  dsimp only
  generalize padded : List.replicate (k + 1 - digits.length) 48 ++ digits = all
  have long : k + 1 ≤ all.length := by
    rw [← padded, List.length_append, List.length_replicate]
    omega
  refine ⟨all.take (all.length - k), all.drop (all.length - k), List.append_assoc _ _ _, ?_, ?_,
    List.take_append_drop _ _⟩
  · intro none
    have length := congrArg List.length none
    rw [List.length_take, List.length_nil] at length
    omega
  · rw [List.length_drop]
    omega

theorem isDigit_padded {digits : Text} (h : ∀ c ∈ digits, c.isDigit = true) (k : Nat) {c : CodePoint}
    (hc : c ∈ List.replicate k 48 ++ digits) : c.isDigit = true := by
  rcases List.mem_append.mp hc with zero | digit
  · rw [List.eq_of_mem_replicate zero]
    rfl
  · exact h c digit

theorem hasPlaces_pointed {digits : Text} (h : ∀ c ∈ digits, c.isDigit = true) (k : Nat) :
    HasPlaces k (pointed digits k) := by
  obtain ⟨whole, places, eq, filled, length, all⟩ := pointed_eq digits k
  exact ⟨whole, places, eq, filled, length, fun c hc => isDigit_padded h _ (all ▸ hc)⟩

theorem ofText_pointed {digits : Text} (h : ∀ c ∈ digits, c.isDigit = true) {k : Nat}
    (fits : readable (natOfDigits (digitsOf digits)) (-k) = true) :
    ofText (pointed digits k) = .ok (.finite false (natOfDigits (digitsOf digits)) (-k)) := by
  obtain ⟨whole, places, eq, filled, rfl, all⟩ := pointed_eq digits k
  have digit : ∀ c ∈ whole ++ places, c.isDigit = true := fun c hc => isDigit_padded h _ (all ▸ hc)
  have value : natOfDigits (digitsOf (whole ++ places)) = natOfDigits (digitsOf digits) := by
    rw [all]
    unfold digitsOf
    rw [List.map_append, List.map_replicate]
    exact natOfDigits_zeros _ _
  have numeric : ∀ c ∈ whole ++ 46 :: places, isNumeric c = true := by
    intro c hc
    unfold isNumeric
    rcases List.mem_append.mp hc with hw | hp
    · rw [digit c (List.mem_append_left _ hw), Bool.true_or]
    · rcases List.mem_cons.mp hp with rfl | hp
      · rfl
      · rw [digit c (List.mem_append_right _ hp), Bool.true_or]
  have read := readFinite_pointed filled (fun c hc => digit c (List.mem_append_left _ hc))
    (fun c hc => digit c (List.mem_append_right _ hc)) (value ▸ fits)
  rw [eq, ← value, ← read]
  cases whole with
  | nil => exact absurd rfl filled
  | cons c whole => exact ofText_of_isNumeric numeric (digit c List.mem_cons_self)

variable {c n : Nat} {e : Int}

theorem fixed8_eq (negative : Bool) (h : scaled c e = scaled n (-8)) :
    (Decimal.finite negative c e).fixed8 = signText negative ++ pointed (Text.ofNat n) 8 := by
  have rounded := rescale_exact .halfEven h
  unfold fixed8
  dsimp only
  split
  · rename_i long
    rw [scaled_lower c long.2] at h
    have same : c * tenTo (e + 8).toNat = n := scaled_inj h
    rw [← ofNat_mul_tenTo long.1, same]
  · rw [rounded]

theorem readable_sats (few : n < 10 ^ 40) : readable n (-8) = true := by
  have digits := digitCount_le (by decide) few
  unfold readable
  dsimp only
  split
  · decide
  · simp only [Bool.and_eq_true, decide_eq_true_eq]
    omega

theorem hasPlaces_fixed8 (h : scaled c e = scaled n (-8)) :
    HasPlaces 8 (Decimal.finite false c e).fixed8 := by
  rw [fixed8_eq false h]
  exact hasPlaces_pointed (fun c hc => isDigit_of_mem_ofNat hc) 8

theorem ofText_fixed8 (h : scaled c e = scaled n (-8)) (few : n < 10 ^ 40) :
    ofText (Decimal.finite false c e).fixed8 = .ok (.finite false n (-8)) := by
  have digits : ∀ c ∈ Text.ofNat n, c.isDigit = true := fun c hc => isDigit_of_mem_ofNat hc
  have read := ofText_pointed digits (k := 8)
  rw [natOfDigits_ofNat] at read
  rw [fixed8_eq false h]
  exact read (readable_sats few)

theorem toIntegral_exact (negative : Bool) (h : scaled c e = scaled n 0) :
    ∃ c' e', toIntegral (.finite negative c e) = .ok (.finite negative c' e') ∧
      scaled c' e' = scaled n 0 := by
  unfold toIntegral
  dsimp only
  split
  · exact ⟨c, e, rfl, h⟩
  · exact ⟨_, 0, rfl, by rw [rescale_exact .halfEven h]⟩

theorem truncate_exact (negative : Bool) (h : scaled c e = scaled n 0) :
    truncate negative c e = if negative then -(n : Int) else n := by
  unfold truncate
  rw [rescale_exact .down h]

def Names (q : ℚ) (t : Text) : Prop := ∃ x, ofText t = .ok x ∧ x.Worth q

theorem names_fixed8 (h : scaled c e = scaled n (-8)) (few : n < 10 ^ 40) :
    Names (Decimal.finite false c e).toRat (Decimal.finite false c e).fixed8 :=
  ⟨_, ofText_fixed8 h few, rfl, toRat_congr h.symm false⟩

theorem digitCount_mul_tenTo (filled : c ≠ 0) (k : Nat) :
    Text.digitCount (c * tenTo k) = Text.digitCount c + k := by
  have length : ∀ m, Text.digitCount m = (Text.ofNat m).length := fun m => (List.length_map _).symm
  rw [length, length, ofNat_mul_tenTo filled, List.length_append, List.length_replicate]

theorem stripZeros_succ (fuel c : Nat) (e ideal : Int) :
    stripZeros (fuel + 1) c e ideal =
      if e < ideal ∧ c % 10 = 0 then stripZeros fuel (c / 10) (e + 1) ideal else (c, e) := rfl

/-- Fuel beyond the digits, or beyond the places up to the ideal one, is not used. -/
theorem stripZeros_fuel {fuel : Nat} {ideal : Int} (h : c ≠ 0 ∧ c < 10 ^ fuel ∨ ideal ≤ e + fuel)
    (k : Nat) : stripZeros (fuel + k) c e ideal = stripZeros fuel c e ideal := by
  induction fuel generalizing c e with
  | zero =>
    have there : ideal ≤ e := by
      rcases h with ⟨filled, small⟩ | h
      · rw [Nat.pow_zero] at small
        omega
      · omega
    cases k with
    | zero => rfl
    | succ k =>
      rw [Nat.zero_add]
      exact if_neg fun before => absurd before.1 (Int.not_lt.mpr there)
  | succ fuel ih =>
    rw [Nat.add_right_comm, stripZeros_succ, stripZeros_succ]
    split
    · refine ih (h.imp (fun small => ?_) fun h => by omega)
      rw [Nat.pow_succ] at small
      omega
    · rfl

theorem stripZeros_mul_tenTo (fuel c j : Nat) {e ideal : Int} (h : e + j ≤ ideal) :
    stripZeros (j + fuel) (c * tenTo j) e ideal = stripZeros fuel c (e + j) ideal := by
  induction j generalizing e with
  | zero => rw [tenTo_zero, Nat.mul_one, Nat.zero_add, Int.natCast_zero, Int.add_zero]
  | succ j ih =>
    have cut : c * tenTo (j + 1) = 10 * (c * tenTo j) := by
      rw [tenTo_succ, ← Nat.mul_assoc, Nat.mul_comm]
    have place : e + 1 + j = e + (j + 1 : Nat) := by omega
    rw [Nat.add_right_comm, stripZeros_succ, if_pos ⟨by omega, cut ▸ Nat.mul_mod_right 10 _⟩, cut,
      Nat.mul_div_cancel_left _ (by decide), ih (by omega), place]

theorem stripZeros_bounds (fuel c : Nat) {e ideal : Int} (h : e ≤ ideal) :
    (stripZeros fuel c e ideal).1 ≤ c ∧ e ≤ (stripZeros fuel c e ideal).2 ∧
      (stripZeros fuel c e ideal).2 ≤ ideal := by
  induction fuel generalizing c e with
  | zero => exact ⟨Nat.le_refl c, Int.le_refl e, h⟩
  | succ fuel ih =>
    rw [stripZeros_succ]
    split
    · have rest := ih (c / 10) (show e + 1 ≤ ideal by omega)
      omega
    · exact ⟨Nat.le_refl c, Int.le_refl e, h⟩

theorem fit_self (negative : Bool) (some : c ≠ 0) (few : c < 10 ^ 28) (lo : tiny ≤ e)
    (hi : e ≤ 900000) : fit negative c e = .ok (.finite negative c e) := by
  have digits := digitCount_le (by decide) few
  have hprecision : (precision : Int) = 28 := rfl
  have hmax : maxExponent = 999999 := rfl
  unfold fit
  rw [if_neg some, if_neg (by omega)]
  exact if_pos (by omega)

end Decimal

namespace Money

open Decimal

/-- The zeros that a long division leaves behind a quotient are those of an amount in coin. -/
theorem stripZeros_quotient {n : Nat} (some : n ≠ 0) (few : n < 10 ^ 28) :
    stripZeros (Text.digitCount (n * tenTo (30 - Text.digitCount n)))
      (n * tenTo (30 - Text.digitCount n)) (0 - (38 - Text.digitCount n : Nat)) 0 =
        stripZeros 8 n (-8) 0 := by
  have digits := digitCount_le (by decide) few
  have place : (0 - (38 - Text.digitCount n : Nat) : Int) + (30 - Text.digitCount n : Nat) = -8 := by
    omega
  rw [digitCount_mul_tenTo some, Nat.add_comm, stripZeros_mul_tenTo _ _ _ (by omega), place,
    ← stripZeros_fuel (.inl ⟨some, lt_tenTo_digitCount n⟩) 8, Nat.add_comm,
    stripZeros_fuel (.inr (by decide))]

theorem fit_ofSats {n : Nat} (some : n ≠ 0) (few : n < 10 ^ 28) :
    fit false (stripZeros 8 n (-8) 0).1 (stripZeros 8 n (-8) 0).2 = .ok (ofSats n) := by
  have bounds := stripZeros_bounds 8 n (show (-8 : Int) ≤ 0 by decide)
  have htiny : tiny = -1000026 := rfl
  refine (fit_self false (fun none => ?_) (by omega) (by omega) (by omega)).trans rfl
  have kept := scaled_stripZeros 8 n (-8) 0
  have filled := scaled_pos some (-8)
  rw [none] at kept
  simp only [scaled, Nat.cast_zero, zero_mul] at kept filled
  linarith

theorem div_coin {n : Nat} (some : n ≠ 0) (few : n < 10 ^ 28) :
    Decimal.div (Decimal.ofInt n) coin = .ok (ofSats n) := by
  have digits := digitCount_le (by decide) few
  have shift : (Text.digitCount satsPerCoin - Text.digitCount n + precision + 1 : Int) =
      (38 - Text.digitCount n : Nat) := by
    have unit : Text.digitCount satsPerCoin = 9 := by decide
    have hprecision : (precision : Int) = 28 := rfl
    omega
  have num : n * tenTo (38 - Text.digitCount n) =
      n * tenTo (30 - Text.digitCount n) * satsPerCoin := by
    have split : 38 - Text.digitCount n = 30 - Text.digitCount n + 8 := by omega
    rw [split, tenTo_add, ← Nat.mul_assoc]
    rfl
  change divFinite false n 0 false satsPerCoin 0 = _
  unfold divFinite
  rw [if_neg some]
  dsimp only
  rw [Int.sub_zero, shift, Int.toNat_natCast, Int.toNat_of_nonpos (by omega), tenTo_zero, Nat.mul_one,
    num, Nat.mul_mod_left, if_pos rfl, Nat.mul_div_cancel _ (by decide),
    stripZeros_quotient some few]
  exact fit_ofSats some few

theorem scaled_zero_exponent (n : Nat) : scaled n 0 = n := by
  unfold scaled
  rw [zpow_zero, mul_one]

theorem worth_ofSats (n : Int) : (ofSats n).Worth (n / 10 ^ 8) := ⟨rfl, toRat_ofSats n⟩

theorem ofSats_eq (n : Nat) :
    ∃ c e, ofSats n = .finite false c e ∧ scaled c e = scaled n (-8) := by
  have positive : decide ((n : Int) < 0) = false := decide_eq_false (by omega)
  refine ⟨_, _, ?_, scaled_stripZeros 8 n (-8) 0⟩
  unfold ofSats
  rw [positive]
  rfl

theorem names_ofSats {n : Nat} (few : n < 10 ^ 40) :
    Names (ofSats n).toRat (ofSats n).fixed8 := by
  obtain ⟨c, e, eq, worth⟩ := ofSats_eq n
  rw [eq]
  exact names_fixed8 worth few

theorem short_sats {n : Int} (few : n.natAbs < 10 ^ 28) : Short (n / 10 ^ 8) := by
  refine ⟨n.natAbs, -8, ?_, few, by decide, by decide⟩
  unfold scaled
  rw [abs_div, abs_of_pos (show (0 : ℚ) < 10 ^ 8 by norm_num), zpow_neg, div_eq_mul_inv,
    Nat.cast_natAbs, Int.cast_abs]
  rfl

theorem short_whole {n : Int} (few : n.natAbs < 10 ^ 28) : Short n := by
  refine ⟨n.natAbs, 0, ?_, few, by decide, by decide⟩
  rw [scaled_zero_exponent, Nat.cast_natAbs, Int.cast_abs]

theorem size_of_worth {s : Bool} {c : Nat} {e : Int} {n : Int}
    (h : (Decimal.finite s c e).Worth (n : ℚ)) :
    scaled c e = scaled n.natAbs 0 ∧ (if s then -(n.natAbs : Int) else n.natAbs) = n := by
  have size : scaled c e = scaled n.natAbs 0 := by
    rw [scaled_zero_exponent, ← abs_toRat s c e, h.2, Nat.cast_natAbs, Int.cast_abs]
  refine ⟨size, Int.cast_injective (α := ℚ) (Eq.trans ?_ h.2)⟩
  change _ = if s then -scaled c e else scaled c e
  rw [size, scaled_zero_exponent]
  cases s
  · exact Int.cast_natCast n.natAbs
  · exact (Int.cast_neg _).trans (congrArg Neg.neg (Int.cast_natCast n.natAbs))

/-- What is worth whole satoshis is turned into them without rounding. -/
theorem toSats_exact {x : Decimal} {n : Int} (h : x.Worth (n / 10 ^ 8)) (few : n.natAbs < 10 ^ 28) :
    toSats x = .ok n := by
  have unit : coin.Worth (10 ^ 8) := ⟨rfl, by simp [coin, toRat, scaled, satsPerCoin]; norm_num⟩
  have back : (n / 10 ^ 8 * 10 ^ 8 : ℚ) = n := div_mul_cancel₀ _ (by norm_num)
  obtain ⟨y, product, worth⟩ := mul_exact h unit (by rw [back]; exact short_whole few)
  rw [back] at worth
  obtain ⟨s, c, e, rfl⟩ := worth.finite
  obtain ⟨size, sign⟩ := size_of_worth worth
  obtain ⟨c', e', whole, size'⟩ := toIntegral_exact s size
  have number : wholeNumber (.finite s c' e') = .ok n :=
    congrArg Except.ok ((truncate_exact s size').trans sign)
  unfold toSats
  rw [product]
  change (do let y ← toIntegral (.finite s c e); wholeNumber y : Except Failure Int) = _
  rw [whole]
  exact number

end Money

end Faucet
