import Faucet.Proofs.Crowd

/-!
What a history tells of the payouts of a process, and the statuses that the rows stand in. A record
of an end is for good.
-/

set_option autoImplicit false

namespace Faucet

namespace Note

def listed? (n : Note) : Option (List Row) :=
  match n.turn with
  | .answered (.session (.list ..)) (.ok rows) => some rows
  | _ => none

def txid? (n : Note) : Option (Outputs × Text) :=
  match n.turn with
  | .answered (.wallet (.broadcast outputs _ _)) (.ok txid) => some (outputs, txid)
  | _ => none

def change? (n : Note) : Option Ledger.Change :=
  match n.turn with
  | .answered (.session (.update c _)) (.ok true) => some c
  | _ => none

def storeFails (n : Note) : Bool :=
  match n.turn with
  | .answered (.enter _) (.error _) => true
  | .answered (.session _) (.error _) => true
  | _ => false

end Note

section
variable (h : List Note) (p : Nat)

def Listed (rows : List Row) : Prop := ∃ n ∈ h, n.process = p ∧ n.listed? = some rows

def Returned (outputs : Outputs) (txid : Text) : Prop :=
  ∃ n ∈ h, n.process = p ∧ n.txid? = some (outputs, txid)

def Changed (c : Ledger.Change) : Prop := ∃ n ∈ h, n.process = p ∧ n.change? = some c

def Swept (r : Row) : Prop := ∃ n ∈ h, n.process ≠ p ∧ n.change? = some (Store.failInterrupted r)

instance (rows : List Row) : Decidable (Listed h p rows) := by
  unfold Listed
  infer_instance

instance (outputs : Outputs) (txid : Text) : Decidable (Returned h p outputs txid) := by
  unfold Returned
  infer_instance

instance (r : Row) : Decidable (Swept h p r) := by
  unfold Swept
  infer_instance

end

namespace Ledger

def Stands (l : Ledger) (id : Int) (status : Status) : Prop :=
  ∃ t ∈ l, t.id = id ∧ t.status = status

instance (l : Ledger) (id : Int) (status : Status) : Decidable (l.Stands id status) := by
  unfold Stands
  infer_instance

theorem Keyed.status_eq {l : Ledger} (k : l.Keyed) {id : Int} {s s' : Status} (h : l.Stands id s)
    (h' : l.Stands id s') : s = s' := by
  obtain ⟨t, ht, htid, rfl⟩ := h
  obtain ⟨u, hu, huid, rfl⟩ := h'
  rw [k.eq_of_id ht hu (htid.trans huid.symm)]

theorem Stands.apply {l : Ledger} {id : Int} {status : Status} (h : l.Stands id status)
    {c : Change} (now : Moment) (other : c.source ≠ status ∨ c.id ≠ id) :
    (l.apply c now).Stands id status := by
  obtain ⟨t, ht, rfl, rfl⟩ := h
  refine ⟨_, (mem_apply l c now).mpr ⟨t, ht, rfl⟩, ?_⟩
  rw [if_neg]
  · exact ⟨rfl, rfl⟩
  · intro ha
    obtain ⟨hid, hs⟩ := (applies_iff c).mp ha
    rcases other with other | other
    · exact other hs.symm
    · exact other hid.symm

theorem stands_target {l : Ledger} {c : Change} (now : Moment) (h : l.Stands c.id c.source) :
    (l.apply c now).Stands c.id c.target := by
  obtain ⟨t, ht, hid, hs⟩ := h
  refine ⟨_, (mem_apply l c now).mpr ⟨t, ht, rfl⟩, ?_⟩
  rw [if_pos ((applies_iff c).mpr ⟨hid, hs⟩)]
  exact ⟨hid, rfl⟩

/-- A change is on record: its row is where the change moved it, with the transaction it brought. -/
def Records (l : Ledger) (c : Change) : Prop :=
  ∃ t ∈ l, t.id = c.id ∧ t.status = c.target ∧ ∀ txid, c.txid = some txid → t.txid = some txid

theorem records_apply {l : Ledger} {c : Change} (now : Moment) (h : l.touches c = true) :
    (l.apply c now).Records c := by
  obtain ⟨t, ht, hid, hs⟩ := (touches_iff l c).mp h
  refine ⟨_, (mem_apply l c now).mpr ⟨t, ht, rfl⟩, ?_⟩
  rw [if_pos ((applies_iff c).mpr ⟨hid, hs⟩)]
  refine ⟨hid, rfl, fun txid htx => ?_⟩
  change (c.txid.orElse fun _ => t.txid) = some txid
  rw [htx]
  rfl

theorem Records.apply {l : Ledger} {c c' : Change} (h : l.Records c)
    (final : c.target.isTerminal = true) (now : Moment) (open' : c'.source.isTerminal = false) :
    (l.apply c' now).Records c := by
  obtain ⟨t, ht, hid, hs, htx⟩ := h
  refine ⟨_, (mem_apply l c' now).mpr ⟨t, ht, rfl⟩, ?_⟩
  rw [if_neg]
  · exact ⟨hid, hs, htx⟩
  · intro ha
    obtain ⟨_, hs'⟩ := (applies_iff c').mp ha
    rw [← hs', hs, final] at open'
    cases open'

end Ledger

end Faucet
