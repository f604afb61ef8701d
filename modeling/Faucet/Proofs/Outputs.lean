import Faucet.Proofs.Spending
import Faucet.Proofs.Coin

/-!
What is handed to the node. The outputs of a payment are the amount under its address and, if there
is a memo, its octets in hexadecimal; both can be read back.
-/

set_option autoImplicit false

namespace Faucet

namespace Text

def octetsOfHex? : Text → Option Octets
  | [] => some []
  | [_] => none
  | a :: b :: rest => do
    let high ← a.hexValue?
    let low ← b.hexValue?
    return (16 * high + low).toUInt8 :: (← octetsOfHex? rest)

theorem hexValue?_hexDigit {n : Nat} (h : n < 16) : (hexDigit n).hexValue? = some n := by
  have all : ∀ i : Fin 16, (hexDigit i).hexValue? = some i.val := by decide
  exact all ⟨n, h⟩

theorem octetsOfHex?_ofOctetsHex (bs : Octets) : octetsOfHex? (ofOctetsHex bs) = some bs := by
  induction bs with
  | nil => rfl
  | cons b bs ih =>
    have size : b.toNat < 256 := b.toNat_lt
    have joined : 16 * (b.toNat / 16 % 16) + b.toNat % 16 = b.toNat := by omega
    change octetsOfHex? (hexDigit (b.toNat / 16 % 16) :: hexDigit (b.toNat % 16) :: ofOctetsHex bs) = _
    unfold octetsOfHex?
    rw [hexValue?_hexDigit (Nat.mod_lt _ (by decide)), hexValue?_hexDigit (Nat.mod_lt _ (by decide)), ih]
    change some ((16 * (b.toNat / 16 % 16) + b.toNat % 16).toUInt8 :: bs) = _
    rw [joined]
    exact congrArg (fun c => some (c :: bs)) (UInt8.ofNat_toNat)

end Text

namespace Outputs

/-- The texts of the amounts that outputs ask for. What stands under the key of a memo is none. -/
def asked (o : Outputs) : List Text := (o.filter fun p => p.1 ≠ memoKey).map Prod.snd

variable {address memo : Text} {amount : Decimal} {outputs : Outputs}

theorem payment_eq (h : payment address amount memo = .ok outputs) :
    memo = [] ∧ outputs = [(address, amount.fixed8)] ∨
      ∃ octets, memo ≠ [] ∧ memo.utf8? = some octets ∧
        outputs = Entries.put [(address, amount.fixed8)] memoKey (Text.ofOctetsHex octets) := by
  unfold payment at h
  dsimp only at h
  split at h
  · rename_i empty
    cases h
    exact .inl ⟨List.isEmpty_iff.mp empty, rfl⟩
  · rename_i filled
    split at h
    · cases h
      exact .inr ⟨_, fun none => filled (List.isEmpty_iff.mpr none), ‹_›, rfl⟩
    · cases h

theorem payment_of_utf8 (address : Text) (amount : Decimal) (encoded : memo.utf8?.isSome = true) :
    ∃ outputs, payment address amount memo = .ok outputs := by
  unfold payment
  dsimp only
  split
  · exact ⟨_, rfl⟩
  · obtain ⟨octets, here⟩ := Option.isSome_iff_exists.mp encoded
    rw [here]
    exact ⟨_, rfl⟩

theorem put_ne (text value : Text) (ne : address ≠ memoKey) :
    Entries.put [(address, text)] memoKey value = [(address, text), (memoKey, value)] :=
  if_neg ne

theorem put_self (text value : Text) :
    Entries.put [(memoKey, text)] memoKey value = [(memoKey, value)] :=
  if_pos rfl

theorem asked_payment (h : payment address amount memo = .ok outputs) :
    asked outputs = if address = memoKey then [] else [amount.fixed8] := by
  rcases payment_eq h with ⟨_, rfl⟩ | ⟨octets, _, _, rfl⟩
  · by_cases ne : address = memoKey <;> simp [asked, ne]
  · by_cases ne : address = memoKey
    · subst ne
      rw [put_self]
      simp [asked]
    · rw [put_ne _ _ ne]
      simp [asked, ne]

end Outputs

end Faucet
