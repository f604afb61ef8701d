import Faucet.Proofs.Machine
import Faucet.Proofs.Rows

/-!
What the world does to one question of a job. A store call fails before it does anything, or goes to
the database; the clock, the wallet and the transport answer whatever they like.
-/

set_option autoImplicit false

namespace Faucet

structure Reaction where
  fault : Option StoreFault := none
  clock : Moment
  wallet : (c : WalletCall) → Except Failure c.Answer
  reply : Except Failure Reply
  number : Nat
  purse : Decimal

namespace Reaction

def answer (ρ : Reaction) (d : Database) : (q : Query) → q.Answer × Database
  | .enter _ => match ρ.fault with
    | some fault => (.error (.store fault), d)
    | none => (.ok (), d)
  | .session s => match ρ.fault with
    | some fault => (.error (.store fault), d)
    | none => d.run s
  | .prepare => match ρ.fault with
    | some fault => (.error (.store fault), d)
    | none => d.prepare
  | .closeStore => ((), d.close)
  | .wallet c => (ρ.wallet c, d)
  | .payment .. => ((), d)
  | .send _ => (ρ.reply, d)
  | .requestId => (ρ.number, d)
  | .log .. => ((), d)
  | .notify _ => ((), d)
  | .now => (.ok ρ.clock, d)
  | .draw most => (⟨ρ.number % (most + 1), Nat.mod_lt _ (Nat.succ_pos most)⟩, d)
  | .cached => (ρ.purse, d)
  | .cache _ => ((), d)
  | .sleep _ => ((), d)
  | .rest => ((), d)

variable (ρ : Reaction) {d : Database} {l : Ledger}

theorem session_cases (h : d.Holds l) (s : Statement) :
    (∃ e, ρ.answer d (.session s) = (.error e, d)) ∨
      ρ.answer d (.session s) =
        ((Database.perform l s).1, { d with table := some (Database.perform l s).2 }) := by
  unfold answer
  cases ρ.fault with
  | some fault => exact .inl ⟨_, rfl⟩
  | none =>
    dsimp only
    cases hb : Database.bind s with
    | error e => exact .inl ⟨e, h.run_error hb⟩
    | ok _ => exact .inr (h.run_ok hb)

theorem update_holds (h : d.Holds l) {c : Ledger.Change} {now : Moment} {won : Bool}
    {d' : Database} (done : ρ.answer d (.session (.update c now)) = (.ok won, d')) :
    won = l.touches c ∧ d'.Holds (l.apply c now) := by
  rcases ρ.session_cases h (.update c now) with ⟨e, he⟩ | hs
  · rw [he] at done
    cases done
  · rw [hs] at done
    cases done
    exact ⟨rfl, h.refusal, h.readOnly, rfl⟩

theorem update_ok (h : d.Holds l) {c : Ledger.Change} {now : Moment} {won : Bool} {d' : Database}
    (done : ρ.answer d (.session (.update c now)) = (.ok won, d')) :
    won = l.touches c ∧ d'.rows = l.apply c now := by
  obtain ⟨touched, holds⟩ := ρ.update_holds h done
  exact ⟨touched, holds.rows_eq⟩

theorem update_error (h : d.Holds l) {c : Ledger.Change} {now : Moment} {e : Failure}
    {d' : Database} (done : ρ.answer d (.session (.update c now)) = (.error e, d')) : d' = d := by
  rcases ρ.session_cases h (.update c now) with ⟨e', he⟩ | hs
  · rw [he] at done
    cases done
    rfl
  · rw [hs] at done
    cases done

theorem list_ok (h : d.Holds l) {status : Option Status} {order : Option Order}
    {limit : Option Int} {rows : List Row} {d' : Database}
    (done : ρ.answer d (.session (.list status order limit)) = (.ok rows, d')) :
    rows = l.list status order limit ∧ d'.rows = l := by
  rcases ρ.session_cases h (.list status order limit) with ⟨e, he⟩ | hs
  · rw [he] at done
    cases done
  · rw [hs] at done
    cases done
    exact ⟨rfl, rfl⟩

section
variable {ρ : Reaction} (healthy : ρ.fault = none)
include healthy

theorem enter_eq (d : Database) (m : StoreMethod) : ρ.answer d (.enter m) = (.ok (), d) := by
  unfold answer
  rw [healthy]

theorem session_eq (h : d.Holds l) {s : Statement} (hb : Database.bind s = .ok ()) :
    ρ.answer d (.session s) =
      ((Database.perform l s).1, { d with table := some (Database.perform l s).2 }) := by
  unfold answer
  rw [healthy]
  exact h.run_ok hb

theorem enter_ok (m : StoreMethod) : (ρ.answer d (.enter m)).1 = .ok () := by
  rw [enter_eq healthy d m]

theorem session_ok (h : d.Holds l) {s : Statement} (hb : Database.bind s = .ok ()) :
    (ρ.answer d (.session s)).1 = (Database.perform l s).1 := by
  rw [session_eq healthy h hb]

theorem session_error_eq (h : d.Holds l) {s : Statement} {e : Failure}
    (hb : Database.bind s = .error e) : (ρ.answer d (.session s)).1 = .error e := by
  unfold answer
  rw [healthy]
  dsimp only
  rw [h.run_error hb]

end

end Reaction

structure Exchange where
  reaction : Reaction
  query : Query
  answer : query.Answer

/-- A database, and all that was asked of the world, the latest first. -/
structure Scene where
  database : Database
  log : List Exchange := []

namespace Scene

def asked (s : Scene) (ρ : Reaction) (q : Query) : Scene :=
  { database := (ρ.answer s.database q).2
    log := { reaction := ρ, query := q, answer := (ρ.answer s.database q).1 } :: s.log }

end Scene

namespace Job

variable {σ α : Type} {move : Machine σ} {ends : σ → Except Failure α → Prop}

/-- Runs a job by itself. The reactions are those to its first question, its second, and so on. -/
def play (env : Nat → Reaction) : Job α → Scene → Except Failure α × Scene
  | .done a, s => (.ok a, s)
  | .fail e, s => (.error e, s)
  | .ask q next, s =>
    play env (next ((env s.log.length).answer s.database q).1) (s.asked (env s.log.length) q)

theorem play_keeps (env : Nat → Reaction) {I : σ → Scene → Prop}
    (step : ∀ s c q s', I s c →
      move s q ((env c.log.length).answer c.database q).1 s' → I s' (c.asked (env c.log.length) q))
    {j : Job α} {s : σ} {c : Scene} (h : j.Follows move ends s) (first : I s c) :
    ∃ s', ends s' (j.play env c).1 ∧ I s' (j.play env c).2 := by
  induction j generalizing s c with
  | done a => exact ⟨s, h, first⟩
  | fail e => exact ⟨s, h, first⟩
  | ask q next ih =>
    obtain ⟨s', hm, hn⟩ := h ((env c.log.length).answer c.database q).1
    exact ih _ hn (step s c q s' first hm)

/-! Single questions to a store that does not fail. -/

section
variable {β : Type} {env : Nat → Reaction} {s : Scene} {l : Ledger}

theorem session_play (st : Statement) (healthy : ∀ n, (env n).fault = none)
    (hold : s.database.Holds l) (bound : Database.bind st = .ok ()) {r : st.Answer} {l' : Ledger}
    (done : Database.perform l st = (.ok r, l')) :
    ∃ s', (Job.session st).play env s = (.ok r, s') ∧ s'.database.Holds l' := by
  have answer := Reaction.session_eq (healthy s.log.length) hold bound
  rw [done] at answer
  refine ⟨s.asked (env s.log.length) (.session st), ?_, ?_⟩
  · change Job.play env (Job.ofExcept ((env s.log.length).answer s.database (.session st)).1) _ = _
    rw [answer]
    rfl
  · change ((env s.log.length).answer s.database (.session st)).2.Holds l'
    rw [answer]
    exact ⟨hold.refusal, hold.readOnly, rfl⟩

theorem play_enter (healthy : ∀ n, (env n).fault = none) (hold : s.database.Holds l)
    (m : StoreMethod) (f : Unit → Job β) :
    ∃ s', ((Job.enter m).bind f).play env s = (f ()).play env s' ∧ s'.database.Holds l := by
  have done := Reaction.enter_eq (healthy s.log.length) s.database m
  refine ⟨s.asked (env s.log.length) (.enter m), ?_, ?_⟩
  · change Job.play env
      ((Job.ofExcept ((env s.log.length).answer s.database (.enter m)).1).bind f) _ = _
    rw [done]
    rfl
  · change ((env s.log.length).answer s.database (.enter m)).2.Holds l
    rw [done]
    exact hold

theorem play_now (env : Nat → Reaction) (hold : s.database.Holds l) (f : Moment → Job β) :
    ∃ s' now, (Job.now.bind f).play env s = (f now).play env s' ∧ s'.database.Holds l :=
  ⟨s.asked (env s.log.length) .now, (env s.log.length).clock, rfl, hold⟩

theorem play_session (healthy : ∀ n, (env n).fault = none) (hold : s.database.Holds l)
    {st : Statement} (bound : Database.bind st = .ok ()) {r : st.Answer} {l' : Ledger}
    (done : Database.perform l st = (.ok r, l')) (f : st.Answer → Job β) :
    ∃ s', ((Job.session st).bind f).play env s = (f r).play env s' ∧ s'.database.Holds l' := by
  have answer := Reaction.session_eq (healthy s.log.length) hold bound
  rw [done] at answer
  refine ⟨s.asked (env s.log.length) (.session st), ?_, ?_⟩
  · change Job.play env
      ((Job.ofExcept ((env s.log.length).answer s.database (.session st)).1).bind f) _ = _
    rw [answer]
    rfl
  · change ((env s.log.length).answer s.database (.session st)).2.Holds l'
    rw [answer]
    exact ⟨hold.refusal, hold.readOnly, rfl⟩

end

end Job

end Faucet
