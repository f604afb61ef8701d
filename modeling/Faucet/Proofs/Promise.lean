import Faucet.Proofs.Desk
import Faucet.Proofs.Outputs

/-!
From the promise of an amount to its payment. The amount that a request answers, the satoshis of its
row and the text that the node is handed all stand for the same number, since nothing on the way
rounds: a drawn amount has whole satoshis and 28 digits at most.
-/

set_option autoImplicit false

namespace Faucet

namespace Decimal

theorem quantize_finite {mode : Rounding} {x : Decimal} {n : Bool} {c : Nat} {target e : Int}
    (h : quantize mode x target = .ok (.finite n c e)) : e = target ∧ c < 10 ^ 28 := by
  unfold quantize at h
  split at h
  · unfold passNaN at h
    split at h
    · cases h
    · cases h
  · cases h
  · split at h
    · cases h
      exact ⟨rfl, by decide⟩
    · split at h
      · cases h
      · dsimp only at h
        split at h
        · cases h
        · rename_i short
          cases h
          have few : Text.digitCount (rescale mode _ _ target) ≤ 28 := Nat.not_lt.mp short
          exact ⟨rfl, (lt_tenTo_digitCount _).trans_le (Nat.pow_le_pow_right (by decide) few)⟩

end Decimal

namespace Money

theorem toRat_sats (negative : Bool) (c : Nat) :
    (Decimal.finite negative c (-8)).toRat = ((if negative then -(c : Int) else c : Int) : ℚ) / 10 ^ 8 := by
  have place : ((10 : ℚ) ^ (-8 : Int)) = (10 ^ 8)⁻¹ := zpow_neg 10 8
  unfold Decimal.toRat Decimal.scaled
  cases negative
  · simp [place, div_eq_mul_inv]
  · simp [place, div_eq_mul_inv]

theorem worth_of_rounded {amount : Decimal} {sats : Int} (h : Intake.Rounded amount)
    (counted : toSats amount = .ok sats) : amount.Worth (sats / 10 ^ 8) ∧ sats.natAbs < 10 ^ 28 := by
  obtain ⟨negative, c, e, rfl, _⟩ := toSats_ok counted
  obtain ⟨x, rounded⟩ := h
  obtain ⟨rfl, few⟩ := Decimal.quantize_finite rounded
  have worth : (Decimal.finite negative c (-8)).Worth
      ((if negative then -(c : Int) else c : Int) / 10 ^ 8) := ⟨rfl, toRat_sats negative c⟩
  have size : (if negative then -(c : Int) else c : Int).natAbs = c := by cases negative <;> simp
  have turned := toSats_exact worth (size.trans_lt few)
  cases counted.symm.trans turned
  exact ⟨worth, size.trans_lt few⟩

theorem hasPlaces_ofSats (n : Nat) : Decimal.HasPlaces 8 (ofSats n).fixed8 := by
  obtain ⟨c, e, eq, size⟩ := ofSats_eq n
  rw [eq]
  exact Decimal.hasPlaces_fixed8 size

theorem sats_round_trip {n : Nat} (some : 1 ≤ n) (few : n < 2 ^ 63) :
    Decimal.div (Decimal.ofInt n) coin = .ok (ofSats n) ∧
      (∀ x : Decimal, x.Worth (n / 10 ^ 8) → toSats x = .ok n) ∧
      (ofSats n).Worth (n / 10 ^ 8) ∧ Decimal.HasPlaces 8 (ofSats n).fixed8 ∧
      Decimal.Names (n / 10 ^ 8) (ofSats n).fixed8 := by
  have short : n < 10 ^ 28 := few.trans (by norm_num)
  have worth := worth_ofSats n
  refine ⟨div_coin (by omega) short, fun x h => toSats_exact h short, worth, hasPlaces_ofSats n, ?_⟩
  exact worth.2 ▸ names_ofSats (short.trans (by norm_num))

end Money

namespace Outputs

/-- Outputs that send an amount, shown with eight places, to an address, and the octets of a memo
along with it if there is one. -/
def Pay (address : Text) (q : ℚ) (memo : Text) (outputs : Outputs) : Prop :=
  ∃ text, Decimal.Names q text ∧ Decimal.HasPlaces 8 text ∧
    if memo = [] then outputs = [(address, text)]
    else ∃ hex, outputs = [(address, text), (memoKey, hex)] ∧ memo.utf8?.isSome = true ∧
      Text.octetsOfHex? hex = memo.utf8?

theorem pay_of_payment {address memo : Text} {outputs : Outputs} {n : Nat} (few : n < 10 ^ 28)
    (spare : address ≠ memoKey) (h : payment address (Money.ofSats n) memo = .ok outputs) :
    Pay address (n / 10 ^ 8) memo outputs := by
  have worth := Money.worth_ofSats n
  refine ⟨_, worth.2 ▸ Money.names_ofSats (few.trans (by norm_num)),
    Money.hasPlaces_ofSats n, ?_⟩
  rcases payment_eq h with ⟨rfl, rfl⟩ | ⟨octets, filled, encoded, rfl⟩
  · exact if_pos rfl ▸ rfl
  · rw [if_neg filled, put_ne _ _ spare, encoded]
    exact ⟨_, rfl, rfl, Text.octetsOfHex?_ofOctetsHex octets⟩

end Outputs

namespace Crowd

open Intake (Stage Rounded)
open Intake.Stage (Moves)

/-- A request that has an amount has one of whole satoshis, and once it is queued there is a row of
as many satoshis. -/
def Backs (l : Ledger) (address source : Text) : Stage → Prop
  | .priced _ amount | .dated _ amount _ => Rounded amount
  | .queued amount row => Rounded amount ∧ l.Recalls row ∧ row.address = address ∧
    row.source = source ∧ Money.toSats amount = .ok row.sats
  | _ => True

section
variable {l l' : Ledger} {address source : Text} {i : Intake} {st st' : Stage} {q : Query}
  {r : q.Answer}

theorem Backs.edited {told : Option Edit} (backs : Backs l address source st)
    (accounts : Edit.Accounts l l' told) : Backs l' address source st := by
  cases st with
  | queued amount row =>
    obtain ⟨rounded, recalls, rest⟩ := backs
    exact ⟨rounded, recalls.edited accounts, rest⟩
  | priced | dated => exact backs
  | _ => trivial

theorem Backs.moved {ρ : Reaction} {d d' : Database} (hold : d.Holds l)
    (backs : Backs l address source st) (m : Moves i address source st q r st')
    (done : ρ.answer d q = (r, d')) : Backs d'.rows address source st' := by
  cases m with
  | log _ level message =>
    exact backs.edited (ρ.accounts (q := .log level message) hold trivial done).2
  | clock now =>
    unfold Stage.ofClock
    split <;> trivial
  | count now since n =>
    unfold Stage.ofCount
    split <;> trivial
  | draw leave most n amount rounded => exact rounded
  | enterCreate | createClock => exact backs
  | insert leave amount now sats row worth =>
    have added := (ρ.accounts (q := .session (.insert (some address) source sats now)) hold trivial
      done).2
    obtain ⟨_, asked, isOf⟩ := ρ.edit_isOf hold done rfl
    cases asked
    obtain ⟨id, _, same, rfl⟩ := isOf
    cases same
    obtain ⟨eq, _⟩ := added
    refine ⟨backs, ⟨_, ?_, .refl _⟩, rfl, rfl, worth⟩
    rw [eq]
    exact List.mem_append_right l (List.mem_singleton_self _)
  | _ => trivial

end

/-- Outputs that the node was handed are those of a row, made by a cycle. -/
def Handed (s : Crowd) : Prop :=
  ∀ e ∈ s.history, ∀ outputs rate inputs, e.turn = .called (.broadcast outputs rate inputs) →
    ∃ b x, s.workOf? e.process = some (.cycle b) ∧ s.rows.Recalls x ∧ b.outputs x = .ok outputs

section
variable {s s' : Crowd} {a : Act}

theorem Moved.workOf? (m : s.Moved a s') {i : Nat} {w : Work} (h : s.workOf? i = some w) :
    s'.workOf? i = some w := by
  cases m with
  | still => exact h
  | started j w' free =>
    rw [workOf?_put]
    split
    · subst i
      rw [Crowd.workOf?, free] at h
      cases h
    · exact h
  | quit j p here | called j ρ w' c next here | answered j ρ w' q next r d here
  | returned j ρ w' c next here =>
    refine (workOf?_put_of_here here ?_ i).trans h
    rfl

theorem Handed.moved {on : Ground} (h : s.Handed) (ruled : Ruled Accounted Proceeds s)
    (attended : s.Attended on) (m : s.Moved a s') : s'.Handed := by
  intro e he outputs rate inputs told
  obtain ⟨edit, accounts, _⟩ := ruled.accounts attended m
  have keeps {i : Nat} {w : Work} : s.workOf? i = some w → s'.workOf? i = some w := m.workOf?
  have old (he : e ∈ s.history) : ∃ b x, s'.workOf? e.process = some (.cycle b) ∧
      s'.rows.Recalls x ∧ b.outputs x = .ok outputs := by
    obtain ⟨b, x, work, recalls, sends⟩ := h e he outputs rate inputs told
    exact ⟨b, x, keeps work, recalls.edited accounts, sends⟩
  cases m with
  | still | started | quit => exact old he
  | answered | returned =>
    rcases List.mem_cons.mp he with rfl | he
    · cases told
    · exact old he
  | called i ρ w c next here =>
    rcases List.mem_cons.mp he with rfl | he
    · cases told
      have own := ruled.each i _ here
      cases w with
      | submit | sweep =>
        obtain ⟨_, asked, _⟩ := own (.error (.faucet []))
        cases asked
      | cycle b =>
        obtain ⟨st, follows, proceeds⟩ := own
        obtain ⟨st', m, _⟩ := follows (.error (.faucet []))
        cases m with
        | call past x moment _ rest =>
          obtain ⟨hand, _, sends, _⟩ := proceeds.busy
          obtain ⟨t, ht, becomes, _⟩ := hand.row
          exact ⟨b, x, keeps (workOf?_of_here here), ⟨t, ht, becomes⟩, sends⟩
    · exact old he

structure Kept (s : Crowd) : Prop where
  ruled : Ruled Accounted Proceeds s
  backed : s.Attended fun _ _ address source st => Backs s.rows address source st
  handed : s.Handed

theorem Kept.moved (h : s.Kept) (m : s.Moved a s') : s'.Kept where
  ruled := h.ruled.moved accounted_rule (fun _ _ _ => trivial) m
  handed := h.handed.moved h.ruled h.backed m
  backed := by
    obtain ⟨edit, accounts, _⟩ := h.ruled.accounts h.backed m
    refine h.backed.moved m ⟨?_, ?_, ?_⟩
    · intro i intake t tier address source _
      unfold Stage.first
      split <;> trivial
    · exact fun _ _ _ _ _ _ _ backs => backs.edited accounts
    · exact fun _ _ _ _ _ _ _ _ _ _ _ m done _ backs => backs.moved h.ruled.sound.holds m done

theorem kept_run (lasting : Bool) (acts : List Act) :
    (run { lasting, table := some [] } acts).Kept := by
  refine run_keeps ⟨?_, (fun _ _ here => nomatch here), fun _ he => nomatch he⟩
    fun s a s' _ h m => h.moved m
  exact ruled_run lasting []

end

theorem Kept.row {s : Crowd} (kept : s.Kept) {i : Nat} {intake : Intake} {t source : Text}
    {tier : Option Int} {receipt : Receipt}
    (here : s.processes i = some ⟨.submit intake t tier source, .ready (.done receipt)⟩)
    (queued : receipt.queued = true) : ∃ address amount, Address.validate t = .ok address ∧
      receipt.amount = some amount ∧ ∃ row ∈ s.rows, row.address = address ∧ row.source = source ∧
        Rounded amount ∧ Money.toSats amount = .ok row.sats := by
  have stands := kept.backed i _ here
  unfold Upholds Stands at stands
  dsimp only at stands
  split at stands
  · rename_i address valid
    obtain ⟨st, ended, backs⟩ := stands
    cases st with
    | queued amount row =>
      obtain ⟨rounded, ⟨u, hu, becomes⟩, rfl, rfl, counted⟩ := backs
      exact ⟨_, amount, valid, congrArg Receipt.amount (Receipt.eq_of_accepted ended), u, hu, becomes.address,
        becomes.source, rounded, becomes.sats ▸ counted⟩
    | limited => cases queued.symm.trans ended
    | _ => cases queued.symm.trans ended.1
  · cases stands
    cases queued

/-- Whole satoshis survive division into coin, the ledger and the text of an amount. From an empty
store on, whatever is requested, drawn, run, swept and cancelled, and however the store and the node
answer: a request that is answered as queued has a row for its address and source. The amount that it
answered, that of the row, and the text for its address in the outputs that any memo in UTF-8 gives,
and in whatever outputs the node is ever handed, are the same number. These outputs hold besides only
the memo, if there is one. -/
theorem nothing_lost :
    (∀ n : Nat, 1 ≤ n → n < 2 ^ 63 → ∀ row : Row, row.sats = n →
      Decimal.div (Decimal.ofInt n) Money.coin = .ok row.amount ∧
        (∀ x : Decimal, x.Worth (n / 10 ^ 8) → Money.toSats x = .ok n) ∧
        row.amount.Worth (n / 10 ^ 8) ∧ Decimal.HasPlaces 8 row.amount.fixed8 ∧
        Decimal.Names (n / 10 ^ 8) row.amount.fixed8) ∧
      ∀ (lasting : Bool) (acts : List Act), let s := run { lasting, table := some [] } acts
        ∀ i intake t tier source receipt,
          s.processes i = some ⟨.submit intake t tier source, .ready (.done receipt)⟩ →
          receipt.queued = true → ∃ address amount, Address.validate t = .ok address ∧
            receipt.amount = some amount ∧ ∃ row ∈ s.rows, row.address = address ∧
              row.source = source ∧ amount.Worth (row.sats / 10 ^ 8) ∧
              row.amount.Worth (row.sats / 10 ^ 8) ∧
              (∀ memo : Text, memo.utf8?.isSome = true → ∃ outputs,
                Outputs.payment address row.amount memo = .ok outputs ∧
                  Outputs.Pay address (row.sats / 10 ^ 8) memo outputs) ∧
              ∀ e ∈ s.history, ∀ outputs rate inputs,
                e.turn = .called (.broadcast outputs rate inputs) →
                (outputs.any fun o => o.1 = address) = true → ∃ b,
                  s.workOf? e.process = some (.cycle b) ∧
                    Outputs.Pay address (row.sats / 10 ^ 8) b.memo outputs := by
  constructor
  · intro n some few row same
    have own : row.amount = Money.ofSats n := congrArg Money.ofSats same
    rw [own]
    exact Money.sats_round_trip some few
  · intro lasting acts s i intake t tier source receipt here queued
    have kept : s.Kept := kept_run lasting acts
    obtain ⟨address, amount, valid, answered, row, hrow, rfl, rfl, rounded, counted⟩ :=
      kept.row here queued
    obtain ⟨worth, few⟩ := Money.worth_of_rounded rounded counted
    have sound : s.Sound := kept.ruled.sound
    have spare := sound.payable.spare row hrow
    have pays {memo : Text} {outputs : Outputs}
        (h : Outputs.payment row.address row.amount memo = .ok outputs) :
        Outputs.Pay row.address (row.sats / 10 ^ 8) memo outputs := by
      obtain ⟨n, sats⟩ := Int.eq_ofNat_of_zero_le (kept.ruled.all.worth row hrow)
      have own : row.amount = Money.ofSats n := congrArg Money.ofSats sats
      rw [own] at h
      rw [sats] at few ⊢
      exact Outputs.pay_of_payment few spare h
    refine ⟨_, amount, valid, answered, row, hrow, rfl, rfl, worth, Money.worth_ofSats row.sats,
      fun memo encoded => ?_, ?_⟩
    · obtain ⟨outputs, made⟩ := Outputs.payment_of_utf8 row.address row.amount encoded
      exact ⟨outputs, made, pays made⟩
    · intro e he outputs rate inputs told key
      obtain ⟨b, x, work, ⟨u, hu, becomes⟩, sends⟩ := kept.handed e he outputs rate inputs told
      -- The outputs are those of a row with this address, and there is but one.
      have made := Batch.payment_of_outputs sends
      have address := Outputs.eq_of_any_payment made key spare
      obtain rfl := sound.payable.eq_of_address hrow hu (address.trans becomes.address.symm)
      have same : x.amount = row.amount := congrArg Money.ofSats becomes.sats.symm
      rw [same, ← address] at made
      exact ⟨b, work, pays made⟩

/-! A request, and a cycle that pays it with a memo. -/

def memoed : List Act :=
  [.start 0 paidRequest] ++ List.replicate 8 (.turn 0 paidReaction) ++
    [.start 1 (.cycle { size := 1, memo := "hi" })] ++ List.replicate 20 (.turn 1 paidReaction)

theorem exists_of_hands {a : Text} {e : Note} (h : e.hands a = true) : ∃ outputs rate inputs,
    e.turn = .called (.broadcast outputs rate inputs) ∧
      (outputs.any fun o => o.1 = a) = true := by
  obtain ⟨i, turn⟩ := e
  unfold Note.hands at h
  split at h
  · exact ⟨_, _, _, by assumption, h⟩
  · cases h

theorem nothing_lost_memoed :
    Decimal.div (Decimal.ofInt 1) Money.coin = .ok (Money.ofSats 1) ∧
      let s := run { table := some [] } memoed
      ∃ row ∈ s.rows, ∃ e ∈ s.history, ∃ outputs rate inputs,
        e.turn = .called (.broadcast outputs rate inputs) ∧ ∃ b,
          s.workOf? e.process = some (.cycle b) ∧
            Outputs.Pay row.address (row.sats / 10 ^ 8) b.memo outputs := by
  refine ⟨(nothing_lost.1 1 (by decide) (by decide) (Ledger.newRow 1 [] [] 1 0) rfl).1, ?_⟩
  intro s
  have handed : (s.rows.all fun r => s.history.any (Note.hands r.address)) = true := by
    decide +kernel
  obtain ⟨intake, t, tier, source, receipt, here, queued⟩ :=
    exists_of_answers (fun _ _ receipt => receipt.queued) (p := s.processes 0) (by decide +kernel)
  obtain ⟨address, amount, _, _, row, hrow, rfl, _, _, _, _, same⟩ :=
    nothing_lost.2 false memoed 0 intake t tier source receipt here queued
  obtain ⟨e, he, hands⟩ := List.any_eq_true.mp (List.all_eq_true.mp handed row hrow)
  obtain ⟨outputs, rate, inputs, told, key⟩ := exists_of_hands hands
  exact ⟨row, hrow, e, he, outputs, rate, inputs, told, same e he outputs rate inputs told key⟩

end Crowd

end Faucet
