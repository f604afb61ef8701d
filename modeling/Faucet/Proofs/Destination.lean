import Mathlib.Data.List.TakeWhile
import Faucet.Proofs.Decision
import Faucet.Proofs.Outputs

/-!
Which texts are taken for destinations. What counts is the text without the blanks around it: it is
taken exactly if it is of the grammar of addresses, and then it is the destination. A destination
holds no blank, is taken again as it is, and shares no key with the memo of a payment.
-/

set_option autoImplicit false

namespace Faucet

namespace Text

/-- What a text is without the blanks around it. -/
structure Strips (t u : Text) : Prop where
  around : ∃ before after : Text, t = before ++ (u ++ after) ∧
    (∀ c ∈ before, c.isBlank = true) ∧ ∀ c ∈ after, c.isBlank = true
  first : ∀ c, u.head? = some c → c.isBlank = false
  last : ∀ c, u.getLast? = some c → c.isBlank = false

variable {t u : Text} {p : CodePoint → Bool}

theorem trimLeft_append {before : Text} (drops : ∀ c ∈ before, p c = true)
    (stops : ∀ c, u.head? = some c → p c = false) : trimLeft p (before ++ u) = u := by
  unfold trimLeft
  rw [List.dropWhile_append_of_pos drops]
  cases u with
  | nil => rfl
  | cons c u => exact List.dropWhile_cons_of_neg (ne_true_of_eq_false (stops c rfl))

theorem trimRight_append {after : Text} (drops : ∀ c ∈ after, p c = true)
    (stops : ∀ c, u.getLast? = some c → p c = false) : trimRight p (u ++ after) = u := by
  have front : trimLeft p (after.reverse ++ u.reverse) = u.reverse :=
    trimLeft_append (fun c here => drops c (List.mem_reverse.mp here))
      fun c first => stops c (List.head?_reverse ▸ first)
  unfold trimLeft at front
  unfold trimRight
  rw [List.reverse_append, front, List.reverse_reverse]

theorem strips_strip (t : Text) : t.Strips t.strip := by
  have left : t = t.takeWhile CodePoint.isBlank ++ trimLeft CodePoint.isBlank t :=
    (List.takeWhile_append_dropWhile).symm
  have right (m : Text) : m = trimRight CodePoint.isBlank m ++
      (m.reverse.takeWhile CodePoint.isBlank).reverse := by
    unfold trimRight
    rw [← List.reverse_append, List.takeWhile_append_dropWhile, List.reverse_reverse]
  refine ⟨⟨_, _, left.trans (congrArg _ (right _)), ?_, ?_⟩, ?_, fun c => isBlank_of_getLast?_strip⟩
  · exact fun c here => List.mem_takeWhile_imp here
  · exact fun c here => List.mem_takeWhile_imp (List.mem_reverse.mp here)
  · -- What is left begins as the text did once the blanks in front were gone.
    intro c first
    have stopped := List.head?_dropWhile_not CodePoint.isBlank t
    have kept : (trimLeft CodePoint.isBlank t).head? = some c := by
      rw [right (trimLeft CodePoint.isBlank t), List.head?_append]
      exact Option.or_eq_some_iff.mpr (.inl first)
    unfold trimLeft at kept
    rw [kept] at stopped
    exact stopped

theorem Strips.eq (h : t.Strips u) : t.strip = u := by
  obtain ⟨⟨before, after, rfl, front, back⟩, first, last⟩ := h
  unfold strip trim
  cases u with
  | nil =>
    have blank : ∀ c ∈ before ++ after, c.isBlank = true := fun c here =>
      (List.mem_append.mp here).elim (front c) (back c)
    have gone := trimLeft_append (u := []) blank nofun
    rw [List.append_nil] at gone
    rw [List.nil_append, gone]
    rfl
  | cons c u =>
    have kept := trimLeft_append (u := c :: u ++ after) front fun d here => first d here
    rw [kept]
    exact trimRight_append back last

theorem strips_iff : t.Strips u ↔ t.strip = u :=
  ⟨Strips.eq, fun h => h ▸ strips_strip t⟩

theorem startsWith_iff (opening t : Text) : startsWith opening t = true ↔ opening <+: t := by
  induction opening generalizing t with
  | nil => exact iff_of_true rfl List.nil_prefix
  | cons c opening ih =>
    cases t with
    | nil => exact iff_of_false nofun (fun h => nomatch List.prefix_nil.mp h)
    | cons d t =>
      unfold startsWith
      rw [Bool.and_eq_true, decide_eq_true_iff, ih t, List.cons_prefix_cons]

end Text

namespace Address

variable {t u : Text}

def Plain (u : Text) : Prop :=
  ∀ c ∈ u, 97 ≤ c.val ∧ c.val ≤ 122 ∨ 48 ≤ c.val ∧ c.val ≤ 57

theorem Grammar.plain (h : Grammar u) : Plain u := by
  obtain ⟨body, rfl, -, -, small⟩ := h
  intro c here
  rcases List.mem_append.mp here with opening | here
  · have all : (("tb1" : Text).all fun c => 97 ≤ c.val && c.val ≤ 122 || 48 ≤ c.val && c.val ≤ 57) =
        true := rfl
    simpa using List.all_eq_true.mp all c opening
  · have letters := small c here
    simp only [isBody, CodePoint.isLowerLetter, CodePoint.isDigit, Bool.or_eq_true,
      Bool.and_eq_true, decide_eq_true_eq] at letters
    exact letters

theorem Plain.isBlank (h : Plain u) {c : CodePoint} (here : c ∈ u) : c.isBlank = false := by
  have range := h c here
  simp only [CodePoint.isBlank, CodePoint.isSpace, Bool.or_eq_false_iff, Bool.and_eq_false_iff,
    decide_eq_false_iff_not]
  omega

theorem Grammar.strip (h : Grammar u) : u.strip = u :=
  Text.strip_of_none fun _ here => h.plain.isBlank here

theorem Grammar.strips (h : Grammar u) (before after : Text)
    (front : ∀ c ∈ before, c.isBlank = true) (back : ∀ c ∈ after, c.isBlank = true) :
    (before ++ (u ++ after)).Strips u where
  around := ⟨before, after, rfl, front, back⟩
  first _ here := h.plain.isBlank (List.mem_of_mem_head? here)
  last _ here := h.plain.isBlank (List.mem_of_getLast? here)

theorem validate_ok_iff : validate t = .ok u ↔ t.Strips u ∧ Grammar u := by
  rw [Text.strips_iff]
  by_cases valid : Grammar t.strip
  · rw [validate_ok valid]
    constructor
    · rintro ⟨⟩
      exact ⟨rfl, valid⟩
    · rintro ⟨rfl, -⟩
      rfl
  · obtain ⟨fault, refused⟩ := validate_error valid
    rw [refused]
    refine iff_of_false nofun ?_
    rintro ⟨rfl, grammar⟩
    exact valid grammar

/-- Why a text is no destination: it is blank, it has the opening of another chain, or it is something
else. -/
structure Refuses (t : Text) (fault : AddressFault) : Prop where
  refused : validate t = .error fault
  empty : fault = .empty ↔ t.strip = []
  mainnet : fault = .mainnet ↔ ∃ opening ∈ mainnetOpenings, opening <+: t.strip
  other : fault = .empty ∨ fault = .mainnet ∨ fault = .malformed

theorem refuses_of_not (h : ¬Grammar t.strip) : ∃ fault, Refuses t fault := by
  have form : isLineOf isSignet t.strip = false := by
    rw [isLineOf_strip]
    exact Bool.eq_false_iff.mpr fun signet => h ((isSignet_iff t.strip).mp signet)
  have opens : (mainnetOpenings.any fun opening => opening.startsWith t.strip) = true ↔
      ∃ opening ∈ mainnetOpenings, opening <+: t.strip := by
    simp only [List.any_eq_true, Text.startsWith_iff]
  by_cases blank : t.strip = []
  · have none : ¬∃ opening ∈ mainnetOpenings, opening <+: t.strip := by
      rintro ⟨opening, here, start⟩
      rw [blank, List.prefix_nil] at start
      subst start
      exact absurd here (by decide)
    refine ⟨.empty, ?_, iff_of_true rfl blank, iff_of_false nofun none, .inl rfl⟩
    unfold validate
    dsimp only
    rw [blank]
    rfl
  · have filled : t.strip.isEmpty = false := Bool.eq_false_iff.mpr (mt List.isEmpty_iff.mp blank)
    by_cases other : ∃ opening ∈ mainnetOpenings, opening <+: t.strip
    · refine ⟨.mainnet, ?_, iff_of_false nofun blank, iff_of_true rfl other, .inr (.inl rfl)⟩
      unfold validate
      dsimp only
      rw [filled, opens.mpr other]
      rfl
    · refine ⟨.malformed, ?_, iff_of_false nofun blank, iff_of_false nofun other, .inr (.inr rfl)⟩
      unfold validate
      dsimp only
      rw [filled, Bool.eq_false_iff.mpr (mt opens.mp other), form]
      rfl

theorem Grammar.not_memoKey (h : Grammar u) : u ≠ Outputs.memoKey :=
  ne_memoKey ((isSignet_iff u).mpr h)

/-- In the outputs of a payment a destination has its amount, and the memo has a place of its own. -/
structure Apart (u : Text) : Prop where
  key : u ≠ Outputs.memoKey
  amount : ∀ amount memo outputs, Outputs.payment u amount memo = .ok outputs →
    Entries.get? outputs u = some amount.fixed8
  memo : ∀ amount memo outputs, Outputs.payment u amount memo = .ok outputs →
    Entries.get? outputs Outputs.memoKey =
      if memo = [] then none else memo.utf8?.map Text.ofOctetsHex

theorem Grammar.apart (h : Grammar u) : Apart u where
  key := h.not_memoKey
  amount amount memo outputs paid := by
    rcases Outputs.payment_eq paid with ⟨-, rfl⟩ | ⟨octets, -, -, rfl⟩
    · simp [Entries.get?]
    · rw [Outputs.put_ne _ _ h.not_memoKey]
      simp [Entries.get?]
  memo amount memo outputs paid := by
    rcases Outputs.payment_eq paid with ⟨rfl, rfl⟩ | ⟨octets, filled, encoded, rfl⟩
    · simp [Entries.get?, h.not_memoKey]
    · rw [Outputs.put_ne _ _ h.not_memoKey, if_neg filled, encoded]
      simp [Entries.get?, h.not_memoKey]

/-- A text is accepted exactly if it is of the grammar without the blanks around it, and then it is
taken for what is left. Everything else is refused with a reason. What was accepted is accepted again
as it is; two texts are the same destination if they differ in blanks around them only; and no
destination gets in the way of a memo. -/
theorem validate_decides (t : Text) :
    (∀ u, validate t = .ok u ↔ t.Strips u ∧ Grammar u) ∧
    ((¬∃ u, t.Strips u ∧ Grammar u) ↔ ∃ fault, Refuses t fault) ∧
    ∀ u, validate t = .ok u → u = t.strip ∧ Plain u ∧ validate u = .ok u ∧ Apart u ∧
      ∀ t' u', validate t' = .ok u' → (u = u' ↔ t.strip = t'.strip) := by
  refine ⟨fun u => validate_ok_iff, ⟨fun none => ?_, ?_⟩, fun u accepted => ?_⟩
  · exact refuses_of_not fun valid => none ⟨t.strip, Text.strips_strip t, valid⟩
  · rintro ⟨fault, refuses⟩ ⟨u, taken⟩
    cases refuses.refused.symm.trans (validate_ok_iff.mpr taken)
  · obtain ⟨strips, grammar⟩ := validate_ok_iff.mp accepted
    obtain rfl := strips.eq
    refine ⟨rfl, grammar.plain, ?_, grammar.apart, fun t' u' accepted' => ?_⟩
    · rw [validate_ok (grammar.strip.symm ▸ grammar), grammar.strip]
    · rw [(validate_ok_iff.mp accepted').1.eq]

theorem validate_decides_line :
    validate (" " ++ (Intake.shortest ++ "\n")) = .ok Intake.shortest ∧
      ∀ u', validate Intake.shortest = .ok u' → u' = Intake.shortest := by
  have grammar : Grammar Intake.shortest := (isSignet_iff _).mp (by decide +kernel)
  have blank {s : Text} (all : s.all CodePoint.isBlank = true) : ∀ c ∈ s, c.isBlank = true :=
    List.all_eq_true.mp all
  have strips := grammar.strips " " "\n" (blank rfl) (blank rfl)
  obtain ⟨accepts, -, destination⟩ := validate_decides (" " ++ (Intake.shortest ++ "\n"))
  have accepted := (accepts Intake.shortest).mpr ⟨strips, grammar⟩
  obtain ⟨-, -, -, -, same⟩ := destination _ accepted
  refine ⟨accepted, fun u' again => ?_⟩
  exact ((same _ u' again).mpr (strips.eq.trans grammar.strip.symm)).symm

end Address

end Faucet
