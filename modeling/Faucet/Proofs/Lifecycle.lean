import Mathlib.Logic.Relation
import Faucet.Ledger.Store
import Faucet.Proofs.Rows

/-!
The life of a row. It stands in a status, and moves on from there along an edge of its life. As long
as rows are only added and moved so, none is lost and none is reordered, and what tells a row apart
from others, its source, its amount and its time of creation are for good.
-/

set_option autoImplicit false

namespace Faucet

namespace Status

def Edge (s s' : Status) : Prop := s' ∈ s.next

def rank : Status → Nat
  | .pending => 0
  | .processing => 1
  | .broadcast | .failed => 2

theorem rank_lt_of_edge {s s' : Status} (h : s.Edge s') : s.rank < s'.rank := by
  cases s with
  | pending =>
    obtain rfl := List.mem_singleton.mp h
    decide
  | processing =>
    rcases List.mem_pair.mp h with rfl | rfl
    · decide
    · decide
  | broadcast | failed => exact absurd h List.not_mem_nil

theorem ne_pending_of_edge {s s' : Status} (h : s.Edge s') : s' ≠ .pending := by
  rintro rfl
  exact Nat.not_lt_zero _ (rank_lt_of_edge h)

theorem rank_lt_of_later {s s' : Status} (h : Relation.TransGen Edge s s') : s.rank < s'.rank := by
  induction h with
  | single h => exact rank_lt_of_edge h
  | tail _ h ih => exact Nat.lt_trans ih (rank_lt_of_edge h)

theorem not_edge_of_isTerminal {s : Status} (h : s.isTerminal = true) (s' : Status) :
    ¬s.Edge s' := by
  cases s with
  | pending | processing => cases h
  | broadcast | failed => exact List.not_mem_nil

theorem not_later_of_isTerminal {s : Status} (h : s.isTerminal = true) (s' : Status) :
    ¬Relation.TransGen Edge s s' := fun later => by
  obtain ⟨next, edge, _⟩ := Relation.TransGen.head'_iff.mp later
  exact not_edge_of_isTerminal h next edge

end Status

/-- The life of a payout allows a change along an edge that brings the text its end needs. -/
theorem Store.permit_ok_iff (c : Ledger.Change) :
    Store.permit c = .ok () ↔ c.source.Edge c.target ∧
      (c.target = .broadcast → isFilled c.txid = true) ∧
      (c.target = .failed → isFilled c.error = true) := by
  unfold permit
  split
  · rename_i terminal
    exact ⟨nofun, fun h => absurd h.1 (Status.not_edge_of_isTerminal terminal _)⟩
  · split
    · rename_i stray
      exact ⟨nofun, fun h => absurd h.1 stray⟩
    · rename_i edge
      split
      · rename_i untold
        exact ⟨nofun, fun h => by rw [h.2.1 untold.1] at untold; cases untold.2⟩
      · rename_i told
        split
        · rename_i unsaid
          exact ⟨nofun, fun h => by rw [h.2.2 unsaid.1] at unsaid; cases unsaid.2⟩
        · rename_i said
          refine ⟨fun _ => ⟨Classical.not_not.mp edge, fun h => ?_, fun h => ?_⟩, fun _ => rfl⟩
          · exact Classical.byContradiction fun hn => told ⟨h, by simpa using hn⟩
          · exact Classical.byContradiction fun hn => said ⟨h, by simpa using hn⟩

/-- What may become of a row whose status moves by steps of a kind. The time of its last change and
the texts of its end change with its status only. -/
structure Row.Becomes (step : Status → Status → Prop) (r t : Row) : Prop where
  id : t.id = r.id
  address : t.address = r.address
  source : t.source = r.source
  sats : t.sats = r.sats
  created : t.created = r.created
  moves : t = r ∨ step r.status t.status

namespace Row.Becomes

variable {step : Status → Status → Prop} {r t u : Row}

theorem refl (r : Row) : r.Becomes step r := ⟨rfl, rfl, rfl, rfl, rfl, .inl rfl⟩

theorem mono {step' : Status → Status → Prop} (h : r.Becomes step t)
    (sub : ∀ s s', step s s' → step' s s') : r.Becomes step' t :=
  { h with moves := h.moves.imp_right (sub _ _) }

theorem trans (h : r.Becomes (Relation.TransGen Status.Edge) t)
    (h' : t.Becomes (Relation.TransGen Status.Edge) u) :
    r.Becomes (Relation.TransGen Status.Edge) u where
  id := h'.id.trans h.id
  address := h'.address.trans h.address
  source := h'.source.trans h.source
  sats := h'.sats.trans h.sats
  created := h'.created.trans h.created
  moves := by
    rcases h'.moves with rfl | moved
    · exact h.moves
    · rcases h.moves with rfl | before
      · exact .inr moved
      · exact .inr (before.trans moved)

theorem eq_of_isTerminal (h : r.Becomes (Relation.TransGen Status.Edge) t)
    (ended : r.status.isTerminal = true) : t = r :=
  h.moves.resolve_right (Status.not_later_of_isTerminal ended _)

end Row.Becomes

namespace Ledger

def Evolves (step : Status → Status → Prop) (l l' : Ledger) : Prop :=
  ∀ (k : Nat) (r : Row), l[k]? = some r → ∃ t, l'[k]? = some t ∧ r.Becomes step t

namespace Evolves

variable {step : Status → Status → Prop} {l l' l'' : Ledger}

theorem refl (l : Ledger) : l.Evolves step l := fun _ r hr => ⟨r, hr, .refl r⟩

theorem mono {step' : Status → Status → Prop} (h : l.Evolves step l')
    (sub : ∀ s s', step s s' → step' s s') : l.Evolves step' l' := fun k r hr => by
  obtain ⟨t, ht, becomes⟩ := h k r hr
  exact ⟨t, ht, becomes.mono sub⟩

theorem trans (h : l.Evolves (Relation.TransGen Status.Edge) l')
    (h' : l'.Evolves (Relation.TransGen Status.Edge) l'') :
    l.Evolves (Relation.TransGen Status.Edge) l'' := fun k r hr => by
  obtain ⟨t, ht, first⟩ := h k r hr
  obtain ⟨u, hu, second⟩ := h' k t ht
  exact ⟨u, hu, first.trans second⟩

theorem exists_mem (h : l.Evolves step l') {r : Row} (hr : r ∈ l) :
    ∃ t ∈ l', r.Becomes step t := by
  obtain ⟨k, hk⟩ := List.mem_iff_getElem?.mp hr
  obtain ⟨t, ht, becomes⟩ := h k r hk
  exact ⟨t, List.mem_of_getElem? ht, becomes⟩

theorem mem_of_isTerminal (h : l.Evolves (Relation.TransGen Status.Edge) l') {r : Row} (hr : r ∈ l)
    (ended : r.status.isTerminal = true) : r ∈ l' := by
  obtain ⟨t, ht, becomes⟩ := h.exists_mem hr
  rwa [becomes.eq_of_isTerminal ended] at ht

end Evolves

theorem evolves_append (step : Status → Status → Prop) (l new : Ledger) :
    l.Evolves step (l ++ new) := fun _ r hr =>
  ⟨r, (List.getElem?_append_left (List.getElem?_eq_some_iff.mp hr).1).trans hr, .refl r⟩

theorem Change.becomes {step : Status → Status → Prop} (c : Change) {r : Row}
    (source : r.status = c.source) (h : step c.source c.target) (now : Moment) :
    r.Becomes step (c.row now r) := ⟨rfl, rfl, rfl, rfl, rfl, .inr (source ▸ h)⟩

theorem evolves_apply {step : Status → Status → Prop} (l : Ledger) {c : Change}
    (h : step c.source c.target) (now : Moment) : l.Evolves step (l.apply c now) := by
  intro k r hr
  refine ⟨_, (List.getElem?_map ..).trans (congrArg _ hr), ?_⟩
  dsimp only
  split
  · rename_i applies
    exact c.becomes ((applies_iff c).mp applies).2 h now
  · exact .refl r

theorem Keyed.apply_eq {l : Ledger} (k : l.Keyed) {c : Change} (h : l.touches c = true)
    (now : Moment) : ∃ older r younger, l = older ++ r :: younger ∧ r.id = c.id ∧
      r.status = c.source ∧ l.apply c now = older ++ c.row now r :: younger := by
  obtain ⟨r, hr, hid, hs⟩ := (touches_iff l c).mp h
  obtain ⟨older, younger, rfl⟩ := List.append_of_mem hr
  have others : ∀ t ∈ older ++ younger, c.applies t = false := by
    intro t ht
    refine Bool.eq_false_iff.mpr fun ha => ?_
    have ids := k.ids
    rw [List.map_append, List.map_cons, List.nodup_middle, ← List.map_append] at ids
    refine (List.nodup_cons.mp ids).1 (List.mem_map.mpr ⟨t, ht, ?_⟩)
    exact ((applies_iff c).mp ha).1.trans hid.symm
  have still : ∀ rows : List Row, rows ⊆ older ++ younger →
      rows.map (fun r => if c.applies r then c.row now r else r) = rows := by
    intro rows sub
    refine (List.map_congr_left fun t ht => ?_).trans (List.map_id rows)
    rw [others t (sub ht)]
    rfl
  refine ⟨older, r, younger, rfl, hid, hs, ?_⟩
  unfold Ledger.apply
  rw [List.map_append, List.map_cons, still older (List.subset_append_left _ _),
    still younger (List.subset_append_right _ _), if_pos ((applies_iff c).mpr ⟨hid, hs⟩)]

end Ledger

end Faucet
