import Faucet.Proofs.Encodable
import Faucet.Proofs.Wire

/-!
What a request to the node can be sent with. JSON that is not kept to ASCII has a UTF-8 form if all
of its texts have one, since an escape stands in ASCII and every other code point for itself.
-/

set_option autoImplicit false

namespace Faucet

namespace Text

theorem isEncodable_join {separator : Text} (h : separator.isEncodable = true) (ts : List Text) :
    (join separator ts).isEncodable = ts.all isEncodable := by
  induction ts with
  | nil => rfl
  | cons t ts ih =>
    cases ts with
    | nil => exact (Bool.and_true _).symm
    | cons u us =>
      change (t ++ separator ++ join separator (u :: us)).isEncodable = _
      rw [isEncodable_append, isEncodable_append, h, Bool.and_true, ih]
      rfl

@[simp]
theorem isEncodable_ofInt (n : Int) : (ofInt n).isEncodable = true := by
  cases n with
  | ofNat n => exact isEncodable_ofNat n
  | negSucc n =>
    change ("-" ++ ofNat (n + 1) : Text).isEncodable = true
    rw [isEncodable_append, isEncodable_ofString, isEncodable_ofNat]
    rfl

end Text

namespace Json

theorem isEncodable_unicodeEscape (n : Nat) : (unicodeEscape n).isEncodable = true := by
  unfold unicodeEscape
  rw [Text.isEncodable_append, Text.isEncodable_ofString, Text.isEncodable_hex]
  rfl

theorem shortEscape?_plain {c : CodePoint} {t : Text} (h : shortEscape? c = some t) :
    t.isEncodable = true ∧ c.isSurrogate = false := by
  unfold shortEscape? at h
  repeat' split at h
  all_goals first | (subst c; cases h; exact ⟨Text.isEncodable_ofString _, rfl⟩) | cases h

theorem isEncodable_escape (c : CodePoint) : (escape false c).isEncodable = !c.isSurrogate := by
  unfold escape
  split
  · rename_i t short
    obtain ⟨encodable, plain⟩ := shortEscape?_plain short
    rw [encodable, plain]
    rfl
  · split
    · rename_i control
      have plain : c.isSurrogate = false := by
        simp only [CodePoint.isSurrogate, Bool.and_eq_false_iff, decide_eq_false_iff_not]
        omega
      rw [isEncodable_unicodeEscape, plain]
      rfl
    · rw [if_pos (.inr rfl), Text.isEncodable_cons, Text.isEncodable_nil, Bool.and_true]

theorem isEncodable_written (t : Text) : (written false t).isEncodable = t.isEncodable := by
  unfold written
  rw [Text.isEncodable_append, Text.isEncodable_cons]
  change (true && Text.isEncodable (t.flatMap (escape false)) && true) = _
  rw [Bool.true_and, Bool.and_true]
  induction t with
  | nil => rfl
  | cons c t ih =>
    rw [List.flatMap_cons, Text.isEncodable_append, isEncodable_escape, ih]
    rfl

end Json

namespace Rpc

/-- Parameters that have a text in UTF-8. -/
structure Sends (params : List Json) : Prop where
  writable : unsendableItem? params = none
  encodable : (Json.writeItems false params).all Text.isEncodable = true

theorem isEncodable_bodyText (id : Nat) (method : Text) (params : List Json) :
    (bodyText id method params).isEncodable =
      (method.isEncodable && (Json.writeItems false params).all Text.isEncodable) := by
  unfold bodyText
  simp only [Json.write, Json.writeFields, Text.isEncodable_append, Text.isEncodable_ofString,
    Text.isEncodable_ofInt, Json.isEncodable_written,
    Text.isEncodable_join (Text.isEncodable_ofString ","), List.all_cons, List.all_nil,
    Bool.and_true, Bool.true_and]

theorem checkBody_ok {method : Text} (named : method.isEncodable = true) {params : List Json}
    (sends : Sends params) (id : Nat) : checkBody id method params = .ok () := by
  unfold checkBody
  rw [sends.writable]
  dsimp only
  rw [isEncodable_bodyText, named, sends.encodable]
  rfl

theorem checkBody_error {method : Text} (named : method.isEncodable = true) {params : List Json}
    (unsent : ¬Sends params) (id : Nat) : ∃ d, checkBody id method params = .error (.defect d) := by
  unfold checkBody
  cases writable : unsendableItem? params with
  | some d => exact ⟨d, rfl⟩
  | none =>
    dsimp only
    rw [isEncodable_bodyText, named, Bool.true_and, if_neg fun h => unsent ⟨writable, h⟩]
    exact ⟨_, rfl⟩

theorem sends_cons_text_iff (t : Text) {options : List Json} (sends : Sends options) :
    Sends (.text t :: options) ↔ t.isEncodable = true := by
  have all : (Json.writeItems false (.text t :: options)).all Text.isEncodable = t.isEncodable := by
    change ((Json.written false t).isEncodable &&
      (Json.writeItems false options).all Text.isEncodable) = _
    rw [Json.isEncodable_written, sends.encodable, Bool.and_true]
  exact ⟨fun h => all.symm.trans h.encodable, fun h => ⟨sends.writable, all.trans h⟩⟩

theorem sends_nil : Sends [] := ⟨rfl, rfl⟩

theorem sends_feeRate (rate : Decimal) : Sends [.object [("fee_rate", .text rate.fixed8)]] := by
  refine ⟨rfl, ?_⟩
  simp [Json.writeItems, Json.write, Json.writeFields, Json.isEncodable_written, Text.join]

end Rpc

end Faucet
