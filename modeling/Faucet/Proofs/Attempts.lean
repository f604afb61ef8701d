import Faucet.Proofs.Conduct
import Faucet.Proofs.Records

/-!
Attempts to pay a payout. A history keeps what was asked of the node for an address and what it
answered; a process has a payout in hand from its claim to the record of its end, and nobody else
has it in hand in the meantime, though a sweep may give it up.
-/

set_option autoImplicit false

namespace Faucet

namespace Outputs

variable {address : Text} {amount : Decimal} {memo : Text} {outputs : Outputs}

theorem any_payment (h : payment address amount memo = .ok outputs) :
    (outputs.any fun o => o.1 = address) = true := by
  unfold payment at h
  dsimp only at h
  split at h
  · cases h
    simp
  · split at h
    · cases h
      rw [any_put]
      simp
    · cases h

theorem get?_payment (h : payment address amount memo = .ok outputs) (spare : address ≠ memoKey) :
    Entries.get? outputs address = some amount.fixed8 := by
  unfold payment at h
  dsimp only at h
  split at h
  · cases h
    simp [Entries.get?]
  · split at h
    · cases h
      simp [Entries.put, Entries.get?, spare]
    · cases h

end Outputs

abbrev Batch.callFor (outputs : Outputs) : WalletCall :=
  .broadcast outputs (some Fee.payoutRate) none

namespace Note

/-- The node is asked for a transaction with an output under this key, or has answered. -/
def concerns (a : Text) (e : Note) : Bool :=
  match e.turn with
  | .called (.broadcast outputs _ _) => outputs.any fun o => o.1 = a
  | .answered (.wallet (.broadcast outputs _ _)) _ => outputs.any fun o => o.1 = a
  | _ => false

def settles (a : Text) (e : Note) : Bool :=
  match e.txid? with
  | some (outputs, _) => outputs.any fun o => o.1 = a
  | none => false

theorem concerns_atOnce {i : Nat} {q : Query} {r : q.Answer} (atOnce : ∀ c, q ≠ .wallet c)
    (a : Text) : (Note.mk i (.answered q r)).concerns a = false := by
  cases q with
  | wallet c => exact absurd rfl (atOnce c)
  | _ => rfl

theorem concerns_of_edit {e : Note} {edit : Edit} (told : e.edit? = some edit) (a : Text) :
    e.concerns a = false := by
  obtain ⟨i, turn⟩ := e
  cases turn with
  | called c => cases told
  | answered q r =>
    refine concerns_atOnce (fun c hc => ?_) a
    subst hc
    cases told

end Note

namespace Row.Becomes

variable {step : Status → Status → Prop} {r t : Row}

theorem amount (h : r.Becomes step t) : t.amount = r.amount := congrArg Money.ofSats h.sats

theorem outputs (h : r.Becomes step t) (b : Batch) : b.outputs t = b.outputs r := by
  unfold Batch.outputs
  rw [h.amount, h.address]

end Row.Becomes

def Ledger.Recalls (l : Ledger) (x : Row) : Prop :=
  ∃ t ∈ l, x.Becomes (Relation.TransGen Status.Edge) t

theorem Ledger.Recalls.edited {l l' : Ledger} {x : Row} (h : l.Recalls x) {told : Option Edit}
    (accounts : Edit.Accounts l l' told) : l'.Recalls x := by
  obtain ⟨t, ht, becomes⟩ := h
  obtain ⟨u, hu, next⟩ := accounts.evolves.exists_mem ht
  exact ⟨u, hu, becomes.trans (next.mono fun _ _ => .single)⟩

namespace Crowd

def trail (a : Text) (h : List Note) : List Note := h.filter (Note.concerns a)

theorem trail_cons_silent {a : Text} {e : Note} (silent : e.concerns a = false) (h : List Note) :
    trail a (e :: h) = trail a h := List.filter_cons_of_neg (by rw [silent]; exact nofun)

theorem trail_cons {a : Text} {e : Note} (concerns : e.concerns a = true) (h : List Note) :
    trail a (e :: h) = e :: trail a h := List.filter_cons_of_pos concerns

/-- How a payment came out, and all that the node was asked for it. -/
inductive Tried (h : List Note) (i : Nat) (b : Batch) (x : Row) : Except Failure Text → Prop
  | unsent (e : Failure) (stopped : b.outputs x = .error e) (silent : trail x.address h = []) :
    Tried h i b x (.error e)
  | sent (outputs : Outputs) (payment : Except Failure Text) (sends : b.outputs x = .ok outputs)
    (once : trail x.address h = [⟨i, .answered (.wallet (Batch.callFor outputs)) payment⟩,
      ⟨i, .called (Batch.callFor outputs)⟩]) :
    Tried h i b x payment

def Announced (h : List Note) (i : Nat) (x : Row) : Prop :=
  ⟨i, .answered (.payment x.address x.amount) ()⟩ ∈ h

/-- A payout was claimed by a process, which then announced its payment and tried to make it. -/
structure Attempt (h : List Note) (i : Nat) (b : Batch) (x : Row)
    (payment : Except Failure Text) : Prop where
  claimed : Claimed h i x.id
  announced : Announced h i x
  tried : Tried h i b x payment

/-- A row that a process has claimed and has not ended. A sweep may have given it up. -/
structure InHand (l : Ledger) (h : List Note) (i : Nat) (x : Row) : Prop where
  row : ∃ t ∈ l, x.Becomes (Relation.TransGen Status.Edge) t ∧
    (t.status = .processing ∨ t.status = .failed ∧ t.error = some Store.interrupted)
  claimed : Claimed h i x.id

section
variable {h : List Note} {i : Nat} {b : Batch} {x t : Row} {payment : Except Failure Text}

theorem Tried.noted (tried : Tried h i b x payment) {e : Note}
    (silent : e.concerns x.address = false) : Tried (e :: h) i b x payment := by
  cases tried with
  | unsent f stopped none => exact .unsent f stopped ((trail_cons_silent silent h).trans none)
  | sent outputs payment sends once =>
    exact .sent outputs payment sends ((trail_cons_silent silent h).trans once)

theorem Attempt.noted (attempt : Attempt h i b x payment) {e : Note}
    (silent : e.concerns x.address = false) : Attempt (e :: h) i b x payment where
  claimed := claimed_cons.mpr (.inr attempt.claimed)
  announced := List.mem_cons_of_mem e attempt.announced
  tried := attempt.tried.noted silent

theorem Attempt.becomes (attempt : Attempt h i b x payment) {step : Status → Status → Prop}
    (becomes : x.Becomes step t) : Attempt h i b t payment where
  claimed := becomes.id ▸ attempt.claimed
  announced := by
    unfold Announced
    rw [becomes.address, becomes.amount]
    exact attempt.announced
  tried := by
    cases attempt.tried with
    | unsent e stopped none =>
      exact .unsent e ((becomes.outputs b).trans stopped) (becomes.address ▸ none)
    | sent outputs payment sends once =>
      exact .sent outputs payment ((becomes.outputs b).trans sends) (becomes.address ▸ once)

theorem Attempt.sent {txid : Text} (attempt : Attempt h i b x (.ok txid)) :
    ∃ outputs, b.outputs x = .ok outputs ∧
      trail x.address h = [⟨i, .answered (.wallet (Batch.callFor outputs)) (.ok txid)⟩,
        ⟨i, .called (Batch.callFor outputs)⟩] := by
  cases attempt.tried with
  | sent outputs payment sends once => exact ⟨outputs, sends, once⟩

theorem InHand.still {l : Ledger} (hand : InHand l h i x) (e : Note) : InHand l (e :: h) i x where
  row := hand.row
  claimed := claimed_cons.mpr (.inr hand.claimed)

/-- An edit leaves a payout in hand unless it ends it. -/
theorem InHand.edited {l l' : Ledger} (hand : InHand l h i x) {told : Option Edit}
    (accounts : Edit.Accounts l l' told)
    (others : ∀ c now, told = some (.changed c now) → c.source = .processing → c.id = x.id →
      ∃ r, c = Store.failInterrupted r) (e : Note) : InHand l' (e :: h) i x where
  claimed := claimed_cons.mpr (.inr hand.claimed)
  row := by
    obtain ⟨t, ht, becomes, status⟩ := hand.row
    match told, accounts with
    | none, same =>
      obtain rfl : l' = l := same
      exact ⟨t, ht, becomes, status⟩
    | some (.added row), makes =>
      obtain ⟨rfl, _⟩ := makes
      exact ⟨t, List.mem_append_left [row] ht, becomes, status⟩
    | some (.changed c now), makes =>
      obtain ⟨allowed, _, rfl⟩ := makes
      have edge := ((Store.permit_ok_iff c).mp allowed).1
      refine ⟨_, (Ledger.mem_apply l c now).mpr ⟨t, ht, rfl⟩, ?_⟩
      split
      · rename_i applies
        obtain ⟨own, source⟩ := (Ledger.applies_iff c).mp applies
        rcases status with processing | ⟨failed, _⟩
        · obtain ⟨r, rfl⟩ :=
            others c now rfl (source.symm.trans processing) (own.symm.trans becomes.id)
          exact ⟨becomes.trans (Ledger.Change.becomes _ source (.single edge) now), .inr ⟨rfl, rfl⟩⟩
        · rw [← source, failed] at edge
          exact absurd edge (Status.not_edge_of_isTerminal rfl _)
      · exact ⟨becomes, status⟩

end

section
variable {s : Crowd} {i j : Nat} {x y : Row}

theorem InHand.spare (sound : s.Sound) (hand : InHand s.rows s.history i x) :
    x.address ≠ Outputs.memoKey := by
  obtain ⟨t, ht, becomes, _⟩ := hand.row
  exact becomes.address ▸ sound.payable.spare t ht

theorem InHand.sole (sound : s.Sound) (hand : InHand s.rows s.history i x)
    (hand' : InHand s.rows s.history j y) (same : x.address = y.address) : i = j := by
  obtain ⟨t, ht, becomes, _⟩ := hand.row
  obtain ⟨u, hu, becomes', _⟩ := hand'.row
  have address : t.address = u.address :=
    becomes.address.trans (same.trans becomes'.address.symm)
  obtain rfl := sound.payable.eq_of_address ht hu address
  have id : y.id = x.id := becomes'.id.symm.trans becomes.id
  exact sound.sole i j x.id hand.claimed (id ▸ hand'.claimed)

end

end Crowd

end Faucet
