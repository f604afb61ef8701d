import Faucet.Proofs.Stage

/-!
Texts that have a UTF-8 form. All wording of the faucet has one, and so has a text between quotes,
whatever the text is; so a defect can always be written down, even one about a text that cannot.
-/

set_option autoImplicit false

namespace Faucet

namespace CodePoint

theorem isSurrogate_ofChar (c : Char) : (ofChar c).isSurrogate = false := by
  have valid := c.valid
  simp only [UInt32.isValidChar, Nat.isValidChar] at valid
  have same : (ofChar c).val = c.val.toNat := rfl
  simp only [isSurrogate, same, Bool.and_eq_false_iff, decide_eq_false_iff_not]
  omega

theorem mem_of_inRun {runs : Runs} {n fuel lo hi : Nat} (h : inRun runs n fuel lo hi = true) :
    ∃ p ∈ runs, p.1 ≤ n ∧ n ≤ p.2 := by
  induction fuel generalizing lo hi with
  | zero => cases h
  | succ fuel ih =>
    unfold inRun at h
    split at h
    · split at h
      · rename_i first last found
        simp only [Bool.and_eq_true, decide_eq_true_eq] at h
        exact ⟨_, Array.mem_of_getElem? found, h⟩
      · cases h
    · dsimp only at h
      split at h
      · split at h
        · exact ih h
        · exact ih h
      · cases h

theorem printableRuns_avoid :
    printableRuns.toList.all (fun p => p.2 < 0xD800 || 0xDFFF < p.1) = true := by
  decide +kernel

theorem isSurrogate_of_isPrintable {c : CodePoint} (h : c.isPrintable = true) :
    c.isSurrogate = false := by
  obtain ⟨p, hp, first, last⟩ := mem_of_inRun h
  have apart := List.all_eq_true.mp printableRuns_avoid p (Array.mem_toList_iff.mpr hp)
  simp only [Bool.or_eq_true, decide_eq_true_eq] at apart
  simp only [isSurrogate, Bool.and_eq_false_iff, decide_eq_false_iff_not]
  omega

end CodePoint

namespace Text

@[simp]
theorem isEncodable_append (s t : Text) : (s ++ t).isEncodable = (s.isEncodable && t.isEncodable) :=
  List.all_append

@[simp]
theorem isEncodable_nil : isEncodable [] = true := rfl

@[simp]
theorem isEncodable_cons (c : CodePoint) (t : Text) :
    isEncodable (c :: t) = (!c.isSurrogate && t.isEncodable) := rfl

theorem isEncodable_iff (t : Text) : t.isEncodable = true ↔ ∀ c ∈ t, c.isSurrogate = false := by
  simp only [isEncodable, List.all_eq_true, Bool.not_eq_true']

theorem isEncodable_of_subset {s t : Text} (h : t.isEncodable = true) (sub : s ⊆ t) :
    s.isEncodable = true :=
  (isEncodable_iff s).mpr fun c hc => (isEncodable_iff t).mp h c (sub hc)

theorem isEncodable_flatMap {α : Type} (l : List α) (f : α → Text)
    (h : ∀ a ∈ l, (f a).isEncodable = true) : isEncodable (l.flatMap f) = true := by
  rw [isEncodable_iff]
  intro c hc
  obtain ⟨a, ha, hc⟩ := List.mem_flatMap.mp hc
  exact (isEncodable_iff (f a)).mp (h a ha) c hc

theorem isEncodable_map_ofChar (cs : List Char) : isEncodable (cs.map CodePoint.ofChar) = true := by
  rw [isEncodable_iff]
  intro c hc
  obtain ⟨d, _, rfl⟩ := List.mem_map.mp hc
  exact CodePoint.isSurrogate_ofChar d

@[simp]
theorem isEncodable_ofString (s : String) : (ofString s).isEncodable = true :=
  isEncodable_map_ofChar s.toList

@[simp]
theorem isEncodable_ofNat (n : Nat) : (ofNat n).isEncodable = true :=
  isEncodable_map_ofChar _

theorem isEncodable_hex (width n : Nat) : (hex width n).isEncodable = true := by
  have digit : ∀ d < 16, (hexDigit d).isSurrogate = false := by decide
  induction width generalizing n with
  | zero => rfl
  | succ width ih =>
    unfold hex
    rw [isEncodable_append, ih, isEncodable_cons, digit _ (Nat.mod_lt n (by decide))]
    rfl

theorem isEncodable_numericEscape (c : CodePoint) : (numericEscape c).isEncodable = true := by
  unfold numericEscape
  split
  · rw [isEncodable_append, isEncodable_ofString, isEncodable_hex]
    rfl
  · split <;> rw [isEncodable_append, isEncodable_ofString, isEncodable_hex] <;> rfl

theorem isEncodable_escape {quote : CodePoint} (hq : quote.isSurrogate = false) (c : CodePoint) :
    (escape quote c).isEncodable = true := by
  unfold escape
  split
  · rename_i marked
    have plain : c.isSurrogate = false := by
      rcases marked with rfl | rfl
      · exact hq
      · rfl
    rw [isEncodable_cons, isEncodable_cons, plain]
    rfl
  · split
    · exact isEncodable_ofString _
    · split
      · exact isEncodable_ofString _
      · split
        · exact isEncodable_ofString _
        · split
          · rename_i printable
            rw [isEncodable_cons, CodePoint.isSurrogate_of_isPrintable printable]
            rfl
          · exact isEncodable_numericEscape c

@[simp]
theorem isEncodable_quoted (t : Text) : t.quoted.isEncodable = true := by
  have mark : (quoteFor t).isSurrogate = false := by
    unfold quoteFor
    split <;> rfl
  unfold quoted
  dsimp only
  rw [isEncodable_append, isEncodable_cons, isEncodable_cons, mark,
    isEncodable_flatMap t _ fun c _ => isEncodable_escape mark c]
  rfl

@[simp]
theorem isEncodable_ofOctetsQuoted (bs : Octets) : (ofOctetsQuoted bs).isEncodable = true := by
  unfold ofOctetsQuoted
  dsimp only
  generalize hq : (if 39 ∈ bs ∧ 34 ∉ bs then 34 else 39 : CodePoint) = quote
  have mark : quote.isSurrogate = false := by
    subst hq
    split <;> rfl
  rw [isEncodable_append, isEncodable_cons, isEncodable_cons, isEncodable_cons, mark,
    isEncodable_flatMap bs]
  · rfl
  · intro b _
    split
    · exact isEncodable_escape mark _
    · rw [isEncodable_append, isEncodable_ofString, isEncodable_hex]
      rfl

end Text

@[simp]
theorem Decimal.isEncodable_signText (negative : Bool) :
    (signText negative).isEncodable = true := by
  unfold signText
  split <;> exact Text.isEncodable_ofString _

theorem Decimal.isEncodable_pointed {digits : Text} (h : digits.isEncodable = true) (places : Nat) :
    (pointed digits places).isEncodable = true := by
  have zeros : Text.isEncodable (List.replicate (places + 1 - digits.length) 48) = true :=
    (Text.isEncodable_iff _).mpr fun c hc => by cases (List.mem_replicate.mp hc).2; rfl
  have filled :
      Text.isEncodable (List.replicate (places + 1 - digits.length) 48 ++ digits) = true := by
    rw [Text.isEncodable_append, zeros, h]
    rfl
  unfold pointed
  dsimp only
  rw [Text.isEncodable_append, Text.isEncodable_append, Text.isEncodable_ofString,
    Text.isEncodable_of_subset filled (List.take_subset _ _),
    Text.isEncodable_of_subset filled (List.drop_subset _ _)]
  rfl

@[simp]
theorem Decimal.isEncodable_fixed8 (d : Decimal) : d.fixed8.isEncodable = true := by
  cases d with
  | infinite n => simp [fixed8]
  | nan n s p =>
    have payload : (payloadText p).isEncodable = true := by
      unfold payloadText
      split <;> simp
    cases s <;> simp [fixed8, nanText, payload]
  | finite n c e =>
    unfold fixed8
    dsimp only
    rw [Text.isEncodable_append, isEncodable_signText, Bool.true_and]
    refine isEncodable_pointed ?_ 8
    split
    · rw [Text.isEncodable_append, Text.isEncodable_ofNat, Bool.true_and]
      exact (Text.isEncodable_iff _).mpr fun c hc => by cases (List.mem_replicate.mp hc).2; rfl
    · exact Text.isEncodable_ofNat _

theorem Defect.isEncodable_shown {d : Defect} (h : d.name.isEncodable = true) :
    d.shown.isEncodable = true := by
  cases d with
  | arithmetic fault => cases fault <;> rfl
  | unencodable t charset =>
    cases charset <;> simp [shown, Charset.name, Charset.reason]
  | undecodable f => simp [shown, DecodeFault.parts]
  | key t => simp [shown]
  | _ => simp [shown, h]

/-- A text that the ledger takes as the end of a payout. -/
def Text.Storable (t : Text) : Prop := t ≠ [] ∧ t.isEncodable = true

namespace Batch

def endText : Except Failure Text → Text
  | .ok txid => txid
  | .error e => errorText e

theorem permit_endOf (r : Row) (payment : Except Failure Text) :
    Store.permit (endOf r payment) = .ok () ↔ endText payment ≠ [] := by
  cases payment with
  | ok txid =>
    cases txid with
    | nil => exact ⟨nofun, fun h => absurd rfl h⟩
    | cons c cs => exact ⟨fun _ => nofun, fun _ => rfl⟩
  | error e =>
    unfold endOf endText
    dsimp only
    generalize errorText e = text
    cases text with
    | nil => exact ⟨nofun, fun h => absurd rfl h⟩
    | cons c cs => exact ⟨fun _ => nofun, fun _ => rfl⟩

theorem bind_endOf {r : Row} (hid : Database.holdsInteger r.id = true)
    (payment : Except Failure Text) (now : Moment) :
    Database.bind (.update (endOf r payment) now) = .ok () ↔
      (endText payment).isEncodable = true := by
  have bound : Database.bindInteger r.id = .ok () := if_pos hid
  have bindText : ∀ t : Text, (do Database.bindText t; Database.bindInteger r.id) = .ok () ↔
      t.isEncodable = true := by
    intro t
    rw [bound]
    unfold Database.bindText
    split
    · exact iff_of_true rfl (by assumption)
    · exact iff_of_false nofun (by assumption)
  cases payment with
  | ok txid => exact bindText txid
  | error e => exact bindText (errorText e)

theorem bind_endOf_error {payment : Except Failure Text}
    (h : ¬(endText payment).isEncodable = true) (r : Row) (now : Moment) :
    Database.bind (.update (endOf r payment) now) =
      .error (.defect (.unencodable (endText payment))) := by
  have refused : Database.bindText (endText payment) =
      .error (.defect (.unencodable (endText payment))) := if_neg h
  cases payment with
  | ok txid =>
    change (do Database.bindText txid; Database.bindInteger r.id) = _
    rw [show Database.bindText txid = _ from refused]
    rfl
  | error e =>
    change (do Database.bindText (errorText e); Database.bindInteger r.id) = _
    rw [show Database.bindText (errorText e) = _ from refused]
    rfl

theorem storable_errorText_defect {d : Defect} (h : d.name.isEncodable = true) :
    (errorText (.defect d)).Storable := by
  refine ⟨List.append_ne_nil_of_left_ne_nil ?_ _, ?_⟩
  · decide
  · simp [errorText, Defect.isEncodable_shown h]

theorem storable_errorText_tooLow (step : String) (amount : Decimal) :
    (errorText (.node step (.tooLow amount))).Storable := by
  refine ⟨?_, ?_⟩
  · simp [errorText, Failure.message, Text.ofString]
  · simp [errorText, Failure.message, NodeFault.message]

theorem storable_of_outputs {b : Batch} {r : Row} {e : Failure} (h : b.outputs r = .error e) :
    (errorText e).Storable := by
  unfold outputs at h
  split at h
  · rename_i fault _
    cases h
    exact storable_errorText_defect (by cases fault <;> rfl)
  · cases h
    exact storable_errorText_tooLow "send" r.amount
  · unfold Outputs.payment at h
    dsimp only at h
    split at h
    · cases h
    · split at h
      · cases h
      · cases h
        exact storable_errorText_defect rfl

end Batch

end Faucet
