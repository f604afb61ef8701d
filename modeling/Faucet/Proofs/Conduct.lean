import Faucet.Proofs.Edits
import Faucet.Proofs.PaidOnce

/-!
A rule for what holds of a store and of all who work on it. An invariant speaks of the ledger, of
the history and of the stages of the cycles under way. Whoever states one shows what a turn of each
kind of work makes of it: for the process that takes the turn, and for the others, who only see the
ledger and the history change. The rule then carries it through every run.
-/

set_option autoImplicit false

namespace Faucet

namespace Query

theorem lawful_of_isRequest {q : Query} (h : q.isRequest) : q.Lawful := by
  cases q with
  | session s =>
    cases s with
    | update => cases h
    | _ => trivial
  | prepare | closeStore => cases h
  | _ => trivial

theorem lawful_of_isSweep {q : Query} (h : q.isSweep) : q.Lawful := by
  cases q with
  | session s =>
    cases s with
    | update c now =>
      obtain ⟨r, rfl⟩ := h
      rfl
    | _ => trivial
  | prepare | closeStore => cases h
  | _ => trivial

theorem lawful_of_errand {q : Query} (h : q.isRequest ∨ q.isSweep) : q.Lawful :=
  h.elim lawful_of_isRequest lawful_of_isSweep

theorem edit_of_errand {q : Query} {r : q.Answer} (h : q.isRequest ∨ q.isSweep) {edit : Edit}
    (told : q.edit? r = some edit) :
    (∃ row, edit = .added row) ∨ ∃ x now, edit = .changed (Store.failInterrupted x) now := by
  cases q with
  | session s =>
    cases s with
    | insert =>
      match r, told with
      | .ok (.ok row), told => exact .inl ⟨row, (Option.some.inj told).symm⟩
    | update c now =>
      rcases h with h | ⟨x, rfl⟩
      · cases h
      · match r, told with
        | .ok true, told => exact .inr ⟨x, now, (Option.some.inj told).symm⟩
    | _ => cases told
  | _ => cases told

end Query

def Note.edit? (e : Note) : Option Edit :=
  match e.turn with
  | .called _ => none
  | .answered q r => q.edit? r

namespace Batch.Stage

/-- The end of a payout is only recorded if the life of a payout allows it. -/
def Permitted : Stage → Prop
  | .closing _ r _ payment _ => Store.permit (endOf r payment) = .ok ()
  | _ => True

variable {b : Batch} {s s' : Stage} {q : Query} {r : q.Answer}

theorem Moves.permitted (m : Moves b s q r s') (h : s.Permitted) : s'.Permitted := by
  cases m with
  | log | notify => exact h
  | enterListFails e | listFails e => exact unlisted_cases e (fun _ => trivial) trivial
  | list rows => exact ofRows_cases rows (fun _ => trivial) (fun _ => trivial) fun _ => trivial
  | balances rows needed answer =>
    exact ofBalances_cases rows needed answer (fun _ _ => trivial) (fun _ => trivial) trivial
  | enterClaimFails past x rest e | claimClockFails past x rest e | claimFails past x rest now e =>
    exact unclaimed_cases past x rest e trivial trivial
  | payment past x moment rest =>
    exact ofPayment_cases past x moment rest (fun _ _ => trivial) fun _ _ => trivial
  | enterEnd past x moment payment rest =>
    exact ofEntry_cases past x moment payment rest (fun _ _ => trivial) id
  | endClock => exact h
  | enterEndFails past x moment payment rest e | endClockFails past x moment payment rest e
  | closeFails past x moment payment rest now e =>
    exact unclosed_cases past x moment payment rest e trivial trivial
  | _ => trivial

theorem Moves.lawful (m : Moves b s q r s') (h : s.Permitted) : q.Lawful := by
  cases m with
  | claim | claimLate | claimFails => rfl
  | close | closeLate | closeFails => exact h
  | _ => trivial

theorem Moves.edit_cases (m : Moves b s q r s') {edit : Edit} (told : q.edit? r = some edit) :
    (∃ past x rest now, s = .claiming past x rest ∧ edit = .changed (claimOf x) now ∧
        s' = .claimed past x now rest) ∨
      ∃ past x moment payment rest now, s = .closing past x moment payment rest ∧
        edit = .changed (endOf x payment) now ∧
          s' = .ready (past ++ [.closed x moment payment (.done now)]) rest := by
  cases m with
  | claim past x rest moment =>
    cases told
    exact .inl ⟨past, x, rest, moment, rfl, rfl, rfl⟩
  | close past x moment payment rest now =>
    cases told
    exact .inr ⟨past, x, moment, payment, rest, now, rfl, rfl, rfl⟩
  | _ => cases told

end Batch.Stage

namespace Crowd

/-- What an invariant may speak of besides stages: the ledger, what was done, and who does what. -/
structure Sight where
  rows : Ledger
  history : List Note
  work : Nat → Option Work

namespace Sight

def after (v : Sight) (rows : Ledger) (i : Nat) (turn : Turn) : Sight :=
  { v with rows, history := ⟨i, turn⟩ :: v.history }

end Sight

def sight (s : Crowd) : Sight := ⟨s.rows, s.history, s.workOf?⟩

/-- What holds of a cycle at a stage. A call of the node is under way or not. -/
abbrev Footing := Nat → Batch → Bool → Batch.Stage → Prop

/-- Requests and sweeps keep to their questions, and a cycle stands where it has a footing. -/
def Conducts (on : Footing) (i : Nat) : Process → Prop
  | ⟨.submit .., .ready j⟩ => j.Asks Query.isRequest
  | ⟨.sweep .., .ready j⟩ => j.Asks Query.isSweep
  | ⟨.cycle b, .ready j⟩ => ∃ st, j.Follows (Batch.Stage.Moves b) Batch.Stage.Ends st ∧
      on i b false st
  | ⟨.cycle b, .calling c next⟩ => ∃ st, (∀ r, ∃ st', Batch.Stage.Moves b st (.wallet c) r st' ∧
      (next r).Follows (Batch.Stage.Moves b) Batch.Stage.Ends st') ∧ on i b true st
  | ⟨_, .calling ..⟩ => False
  | ⟨_, .gone⟩ => True

theorem Conducts.mono {on on' : Footing} {i : Nat} {p : Process} (h : Conducts on i p)
    (sub : ∀ b calling st, on i b calling st → on' i b calling st) : Conducts on' i p := by
  obtain ⟨w, phase⟩ := p
  cases phase with
  | gone => cases w <;> trivial
  | calling c next =>
    cases w with
    | submit | sweep => exact h
    | cycle b =>
      obtain ⟨st, follows, footing⟩ := h
      exact ⟨st, follows, sub b true st footing⟩
  | ready job =>
    cases w with
    | submit | sweep => exact h
    | cycle b =>
      obtain ⟨st, follows, footing⟩ := h
      exact ⟨st, follows, sub b false st footing⟩

section
variable (G : Sight → Prop) (on : Sight → Footing)

/-- A turn of a process has kept what holds of all, and what holds of the others. -/
def Passes (v v' : Sight) (i : Nat) : Prop :=
  G v' ∧ ∀ j b calling st, j ≠ i → on v j b calling st → on v' j b calling st

structure Rule (allowed : Reaction → Prop) : Prop where
  begins : ∀ v i b, G v → v.work i = some (.cycle b) → on v i b false .listing
  joined : ∀ v work, (∀ j w, v.work j = some w → work j = some w) → G v →
    G { v with work } ∧ ∀ j b calling st, on v j b calling st → on { v with work } j b calling st
  errand : ∀ s : Crowd, s.Sound → G s.sight → ∀ i q r ρ d, q.isRequest ∨ q.isSweep → allowed ρ →
    ρ.answer s.database q = (r, d) →
      Passes G on s.sight (s.sight.after d.rows i (.answered q r)) i
  called : ∀ s : Crowd, s.Sound → G s.sight → ∀ i b st c r st', on s.sight i b false st →
    Batch.Stage.Moves b st (.wallet c) r st' →
      Passes G on s.sight (s.sight.after s.rows i (.called c)) i ∧
        on (s.sight.after s.rows i (.called c)) i b true st
  returned : ∀ s : Crowd, s.Sound → G s.sight → ∀ i b st c r st', on s.sight i b true st →
    Batch.Stage.Moves b st (.wallet c) r st' →
      Passes G on s.sight (s.sight.after s.rows i (.answered (.wallet c) r)) i ∧
        on (s.sight.after s.rows i (.answered (.wallet c) r)) i b false st'
  answered : ∀ s : Crowd, s.Sound → G s.sight → ∀ i b st q r st' ρ d,
    on s.sight i b false st → (∀ c, q ≠ .wallet c) → Batch.Stage.Moves b st q r st' → allowed ρ →
    ρ.answer s.database q = (r, d) →
      Passes G on s.sight (s.sight.after d.rows i (.answered q r)) i ∧
        on (s.sight.after d.rows i (.answered q r)) i b false st'

structure Ruled (s : Crowd) : Prop where
  sound : s.Sound
  all : G s.sight
  each : ∀ i p, s.processes i = some p → Conducts (on s.sight) i p

end

variable {G : Sight → Prop} {on : Sight → Footing} {allowed : Reaction → Prop} {s s' : Crowd}

namespace Ruled

theorem noted (h : Ruled G on s) {i : Nat} {w : Work} {phase phase' : Standing w.Result}
    {turn : Turn} {d : Database} (here : s.processes i = some ⟨w, phase⟩)
    (sound : Sound { (s.put i ⟨w, phase'⟩).note i turn with database := d })
    (passes : Passes G on s.sight (s.sight.after d.rows i turn) i)
    (own : Conducts (on (s.sight.after d.rows i turn)) i ⟨w, phase'⟩) :
    Ruled G on { (s.put i ⟨w, phase'⟩).note i turn with database := d } := by
  have same : sight { (s.put i ⟨w, phase'⟩).note i turn with database := d } =
      s.sight.after d.rows i turn := by
    have work : (s.put i ⟨w, phase'⟩).workOf? = s.workOf? := funext (workOf?_put_of_here here rfl)
    exact congrArg (Sight.mk d.rows (⟨i, turn⟩ :: s.history)) work
  constructor
  case sound => exact sound
  case all => exact same ▸ passes.1
  case each =>
    intro j p hp
    rw [same]
    change (if j = i then some ⟨w, phase'⟩ else s.processes j) = some p at hp
    split at hp
    · subst j
      cases hp
      exact own
    · rename_i other
      exact (h.each j p hp).mono fun b calling st => passes.2 j b calling st other

theorem moved (h : Ruled G on s) (rule : Rule G on allowed) {a : Act}
    (healthy : ∀ i ρ, a = .turn i ρ → allowed ρ) (m : s.Moved a s') : Ruled G on s' := by
  have sound := h.sound.moved m
  cases m with
  | still => exact h
  | started i w free =>
    have joined := rule.joined s.sight (s.put i ⟨w, .ready w.job⟩).workOf? (fun j w' hw => by
      rw [workOf?_put]
      split
      · subst j
        change s.workOf? i = some w' at hw
        rw [workOf?, free] at hw
        cases hw
      · exact hw) h.all
    refine ⟨sound, joined.1, fun j p hp => ?_⟩
    change (if j = i then some _ else s.processes j) = some p at hp
    split at hp
    · subst j
      cases hp
      cases w with
      | submit intake address tier source => exact intake.submit_requests address tier source
      | sweep olderThan now => exact Store.failStale_asks olderThan now
      | cycle b =>
        exact ⟨.listing, b.cycle_follows,
          rule.begins _ i b joined.1 ((workOf?_put i).trans (if_pos rfl))⟩
    · exact (h.each j p hp).mono (joined.2 j)
  | quit i p here =>
    have same (j : Nat) : (s.put i ⟨p.work, .gone⟩).workOf? j = s.workOf? j := by
      refine workOf?_put_of_here here ?_ j
      rfl
    have joined := rule.joined s.sight (s.put i ⟨p.work, .gone⟩).workOf?
      (fun j w' hw => (same j).trans hw) h.all
    refine ⟨sound, joined.1, fun j p' hp => ?_⟩
    change (if j = i then some _ else s.processes j) = some p' at hp
    split at hp
    · subst j
      cases hp
      cases p.work <;> trivial
    · exact (h.each j p' hp).mono (joined.2 j)
  | called i ρ w c next here =>
    have own := h.each i _ here
    cases w with
    | submit | sweep =>
      -- Neither asks the node for anything.
      obtain ⟨_, asked, _⟩ := own (.error (.faucet []))
      cases asked
    | cycle b =>
      obtain ⟨st, follows, footing⟩ := own
      obtain ⟨st', m, _⟩ := follows (.error (.faucet []))
      obtain ⟨passes, footing'⟩ := rule.called s h.sound h.all i b st c _ st' footing m
      exact h.noted here sound passes ⟨st, follows, footing'⟩
  | answered i ρ w q next r d here atOnce done =>
    have own := h.each i _ here
    cases w with
    | submit =>
      obtain ⟨_, asked, rest⟩ := own r
      exact h.noted here sound
        (rule.errand s h.sound h.all i q r ρ d (.inl asked) (healthy i ρ rfl) done) rest
    | sweep =>
      obtain ⟨_, asked, rest⟩ := own r
      exact h.noted here sound
        (rule.errand s h.sound h.all i q r ρ d (.inr asked) (healthy i ρ rfl) done) rest
    | cycle b =>
      obtain ⟨st, follows, footing⟩ := own
      obtain ⟨st', m, rest⟩ := follows r
      obtain ⟨passes, footing'⟩ := rule.answered s h.sound h.all i b st q r st' ρ d footing atOnce m
        (healthy i ρ rfl) done
      exact h.noted here sound passes ⟨st', rest, footing'⟩
  | returned i ρ w c next here =>
    have own := h.each i _ here
    cases w with
    | submit | sweep => cases own
    | cycle b =>
      obtain ⟨st, follows, footing⟩ := own
      obtain ⟨st', m, rest⟩ := follows (ρ.wallet c)
      obtain ⟨passes, footing'⟩ := rule.returned s h.sound h.all i b st c _ st' footing m
      exact h.noted here sound passes ⟨st', rest, footing'⟩

end Ruled

theorem Rule.run (rule : Rule G on allowed) (first : G ⟨[], [], fun _ => none⟩) (lasting : Bool)
    {acts : List Act} (healthy : ∀ i ρ, .turn i ρ ∈ acts → allowed ρ) :
    Ruled G on (Crowd.run { lasting, table := some [] } acts) := by
  refine run_keeps ⟨sound_empty lasting, first, fun i p hp => by cases hp⟩ fun s a s' ha h m => ?_
  exact h.moved rule (fun i ρ eq => healthy i ρ (eq ▸ ha)) m

end Crowd

end Faucet
