import Faucet.Proofs.Machine

/-!
How far a job has come. A walk leads from a job to what is left of it, along the questions that it
has asked and the answers that it has got, whoever gave them.
-/

set_option autoImplicit false

namespace Faucet

structure Asked where
  query : Query
  answer : query.Answer

namespace Job

inductive Walks {α : Type} : Job α → List Asked → Job α → Prop
  | stay (j : Job α) : Walks j [] j
  | turn {q : Query} {next : q.Answer → Job α} (r : q.Answer) {log : List Asked} {j' : Job α}
    (rest : Walks (next r) log j') : Walks (.ask q next) (⟨q, r⟩ :: log) j'

variable {α β : Type} {j j' : Job α} {log : List Asked}

theorem Walks.snoc {q : Query} {next : q.Answer → Job α} (h : j.Walks log (.ask q next))
    (r : q.Answer) : j.Walks (log ++ [⟨q, r⟩]) (next r) := by
  generalize here : Job.ask q next = k at h
  induction h with
  | stay j =>
    subst here
    exact .turn r (.stay _)
  | turn r' rest ih => exact .turn r' (ih here)

theorem Walks.asks {kind : Query → Prop} (h : j.Walks log j') (asks : j.Asks kind) :
    j'.Asks kind ∧ ∀ a ∈ log, kind a.query := by
  induction h with
  | stay j => exact ⟨asks, List.forall_mem_nil _⟩
  | turn r rest ih =>
    obtain ⟨_, own, next⟩ := asks r
    obtain ⟨left, later⟩ := ih next
    exact ⟨left, List.forall_mem_cons.mpr ⟨own, later⟩⟩

theorem Walks.of_bind {j : Job α} {f : α → Job β} {b : β} (h : (j.bind f).Walks log (.done b)) :
    ∃ first a rest, log = first ++ rest ∧ j.Walks first (.done a) ∧ (f a).Walks rest (.done b) := by
  induction j generalizing log with
  | done a => exact ⟨[], a, log, rfl, .stay _, h⟩
  | fail e => cases h
  | ask q next ih =>
    cases h with
    | turn r later =>
      obtain ⟨first, a, rest, rfl, walks, goes⟩ := ih r later
      exact ⟨_ :: first, a, rest, rfl, .turn r walks, goes⟩

/-- What a machine lets a job ask, as long as its states keep to an invariant. -/
theorem asks_of_follows {σ : Type} {move : Machine σ} {ends : σ → Except Failure α → Prop}
    {kind : Query → Prop} {I : σ → Prop} {s : σ} (h : j.Follows move ends s) (first : I s)
    (step : ∀ {s q r s'}, I s → move s q r s' → kind q ∧ I s') : j.Asks kind := by
  induction j generalizing s with
  | done a => trivial
  | fail e => trivial
  | ask q next ih =>
    intro r
    obtain ⟨s', moved, rest⟩ := h r
    obtain ⟨own, kept⟩ := step first moved
    exact ⟨(), own, ih r rest kept⟩

theorem asks_wallet {kind : Query → Prop} {c : WalletCall} (h : kind (.wallet c)) :
    (wallet c).Asks kind := fun r => ⟨(), h, asks_ofExcept r⟩

end Job

end Faucet
