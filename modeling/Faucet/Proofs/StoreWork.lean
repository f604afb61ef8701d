import Faucet.Proofs.Manners
import Faucet.World.Step

/-!
Steps on the store that are taken in the middle of something else. What shows neither the database
nor the faults, the clock, the draws and the log is left alone by them.
-/

set_option autoImplicit false

namespace Faucet

namespace Query

def isStoreWork : Query → Prop
  | .enter _ | .session _ | .prepare | .closeStore | .now | .draw _ | .log .. => True
  | _ => False

theorem isStoreWork_of_isRequest (q : Query) (h : q.isRequest) : q.isStoreWork := by
  cases q with
  | enter | session | now | draw | log => trivial
  | _ => cases h

theorem isStoreWork_of_isSweep (q : Query) (h : q.isSweep) : q.isStoreWork := by
  cases q with
  | enter | session | now | log => trivial
  | _ => cases h

end Query

namespace World

variable {β : Type} {view : World → β} {step : Stepper}

/-- A view of the world in which work on the store does not show. -/
structure Aloof (view : World → β) : Prop where
  database : ∀ (w : World) (database : Database), view { w with database } = view w
  faults : ∀ (w : World) (faults : List Fault), view { w with faults } = view w
  clock : ∀ (w : World) (clock : Int), view { w with clock } = view w
  draws : ∀ (w : World) (draws : List Int), view { w with draws } = view w
  logs : ∀ (w : World) (level : Level) (message : Text), view (w.logLine level message) = view w

def Spares (view : World → β) (step : Stepper) : Prop := ∀ s w, view (step s w).2 = view w

theorem takeAll_spares (spares : Spares view step) (steps : List StoreStep) (w : World) :
    view (takeAll step steps w).2 = view w := by
  induction steps generalizing w with
  | nil => rfl
  | cons s rest ih =>
    have own := spares s w
    unfold takeAll
    split
    · rename_i e w' taken
      rw [taken] at own
      exact own
    · rename_i u w' taken
      rw [taken] at own
      exact (ih w').trans own

theorem Aloof.draw (aloof : Aloof view) (most : Nat) (w : World) :
    view (w.draw most).2 = view w := by
  unfold World.draw
  split
  · rfl
  · exact aloof.draws w _

section
variable (aloof : Aloof view) (spares : Spares view step)
include aloof spares

theorem strike_spares (isHit : FaultPoint → Bool) (left i : Nat) (w : World) :
    view (strike step isHit left i w).2 = view w := by
  have sets (w : World) (i : Nat) (f : Fault) : view (w.setFault i f) = view w := aloof.faults w _
  induction left generalizing i w with
  | zero => rfl
  | succ left ih =>
    unfold strike
    cases w.faults[i]? with
    | none => rfl
    | some f =>
      obtain ⟨point, skip, times, effect⟩ := f
      dsimp only
      split
      · exact ih _ _
      · split
        · exact (ih _ _).trans (sets w i _)
        · split
          · cases effect with
            | refuse message => exact sets w i _
            | run steps =>
              have own := (takeAll_spares spares steps
                (w.setFault i (.mk point skip (times - 1) (.run steps)))).trans (sets w i _)
              dsimp only
              split
              · rename_i e w' taken
                rw [taken] at own
                exact own
              · rename_i u w' taken
                rw [taken] at own
                exact (ih _ _).trans own
          · exact ih _ _

theorem enter_spares (isHit : FaultPoint → Bool) (w : World) :
    view (enter step isHit w).2 = view w := strike_spares aloof spares isHit _ _ w

theorem session_spares (s : Statement) (w : World) : view (w.session step s).2 = view w := by
  have own := enter_spares aloof spares FaultPoint.atSession w
  unfold session
  split
  · rename_i e w' entered
    rw [entered] at own
    exact own
  · rename_i u w' entered
    rw [entered] at own
    exact (aloof.database w' _).trans own

theorem complete_spares {α : Type} {j : Job α} (asks : j.Asks Query.isStoreWork) (w : World) :
    view (j.complete step w).2 = view w := by
  induction j generalizing w with
  | done a => rfl
  | fail e => rfl
  | ask q next ih =>
    have later (r : q.Answer) : q.isStoreWork ∧ (next r).Asks Query.isStoreWork := by
      obtain ⟨_, own, rest⟩ := asks r
      exact ⟨own, rest⟩
    cases q with
    | enter m => exact (ih _ (later _).2 _).trans (enter_spares aloof spares _ w)
    | session s => exact (ih _ (later _).2 _).trans (session_spares aloof spares s w)
    | prepare => exact (ih _ (later _).2 _).trans (aloof.database w _)
    | closeStore => exact (ih _ (later _).2 _).trans (aloof.database w _)
    | draw most => exact (ih _ (later _).2 _).trans (aloof.draw most w)
    | now => exact ih _ (later _).2 w
    | log level message => exact (ih _ (later _).2 _).trans (aloof.logs w level message)
    | wallet c => exact (later (.error (.faucet []))).1.elim
    | send r => exact (later (.error (.faucet []))).1.elim
    | requestId => exact (later 0).1.elim
    | cached => exact (later .zero).1.elim
    | payment | notify | cache | sleep | rest => exact (later ()).1.elim

end

end World

open Job

namespace Job

variable {kind : Query → Prop}

theorem asks_prepare (h : kind .prepare) : prepare.Asks kind := by
  intro r
  cases r <;> exact ⟨(), h, trivial⟩

theorem asks_closeStore (h : kind .closeStore) : closeStore.Asks kind := fun _ => ⟨(), h, trivial⟩

end Job

namespace Store

theorem create_isStoreWork (address : Option Text) (amount : Decimal) (source : Text) :
    (create address amount source).Asks Query.isStoreWork := by
  refine asks_bind (asks_enter trivial) fun _ => asks_bind (asks_ofArithmetic _) fun low => ?_
  cases low with
  | true => trivial
  | false =>
    change Job.Asks Query.isStoreWork (Job.now.bind _)
    refine asks_bind (asks_now trivial) fun now => asks_bind (asks_ofExcept _) fun sats =>
      asks_bind (asks_session trivial) fun inserted => ?_
    cases inserted with
    | ok row => trivial
    | error conflict =>
      refine asks_bind (asks_session trivial) fun found => ?_
      cases found <;> trivial

theorem list_isStoreWork (status : Option Status) (orderBy : Option Text) (limit : Option Int) :
    (list status orderBy limit).Asks Query.isStoreWork :=
  asks_bind (asks_enter trivial) fun _ => asks_bind (asks_ofExcept _) fun _ => asks_session trivial

theorem transition_isStoreWork (c : Ledger.Change) : (transition c).Asks Query.isStoreWork := by
  refine asks_bind (asks_enter trivial) fun _ => ?_
  split
  · trivial
  · exact asks_bind (asks_now trivial) fun now => asks_session trivial

theorem ping_isStoreWork : ping.Asks Query.isStoreWork := by
  have asks : (session .ping).Asks Query.isStoreWork := asks_session trivial
  refine asks_bind (asks_rescue (asks_bind asks fun _ => trivial) fun e => ?_) fun r => ?_
  · split
    · exact asks_bind (asks_log trivial) fun _ => trivial
    · trivial
  · cases r <;> trivial

end Store

theorem Quota.allows_isStoreWork (q : Quota) (source : Text) (now : Option Moment) :
    (q.allows source now).Asks Query.isStoreWork := by
  have tail (now : Moment) : Job.Asks Query.isStoreWork
      ((ofExcept (now.before q.window)).bind fun since =>
        (Store.countFrom (some source) since).bind fun count =>
          if q.most ≤ count then
            (log .info ("Rate limit hit for " ++ source ++ ": " ++ Text.ofNat count
              ++ " requests in the last " ++ q.window.text)).bind fun _ => .done false
          else .done true) := by
    refine asks_bind (asks_ofExcept _) fun since => asks_bind
      ((Store.countFrom_asks _ _).mono Query.isStoreWork_of_isRequest) fun count => ?_
    split
    · exact asks_bind (asks_log trivial) fun _ => trivial
    · trivial
  unfold allows
  split
  · trivial
  · cases now with
    | none => exact asks_bind (asks_now trivial) tail
    | some now => exact tail now

namespace StoreStep

theorem job_isStoreWork (quota : Quota) (s : StoreStep) : (s.job quota).Asks Query.isStoreWork := by
  cases s with
  | create address amount source =>
    exact asks_bind (asks_ofArithmetic _) fun _ =>
      asks_bind (Store.create_isStoreWork _ _ _) fun _ => trivial
  | get id | getByAddress address => exact asks_bind (asks_session trivial) fun _ => trivial
  | total =>
    have total : Store.totalBroadcast.Asks Query.isStoreWork :=
      asks_bind (asks_session trivial) fun _ => trivial
    exact asks_bind total fun _ => trivial
  | label id =>
    refine asks_bind (asks_session trivial) fun found => ?_
    cases found <;> trivial
  | count s =>
    exact asks_bind (asks_ofExcept _) fun _ => asks_bind (asks_session trivial) fun _ => trivial
  | list s orderBy limit =>
    exact asks_bind (asks_ofExcept _) fun _ =>
      asks_bind (Store.list_isStoreWork _ _ _) fun _ => trivial
  | countFrom source since =>
    exact asks_bind (asks_ofExcept _) fun _ => asks_bind
      ((Store.countFrom_asks _ _).mono Query.isStoreWork_of_isRequest) fun _ => trivial
  | transition id source target txid error =>
    exact asks_bind (asks_ofExcept _) fun _ => asks_bind (asks_ofExcept _) fun _ =>
      asks_bind (Store.transition_isStoreWork _) fun _ => trivial
  | failStale olderThan now =>
    exact asks_bind (asks_ofExcept _) fun _ => asks_bind (asks_ofExcept _) fun _ =>
      asks_bind ((Store.failStale_asks _ _).mono Query.isStoreWork_of_isSweep) fun _ => trivial
  | ping => exact asks_bind Store.ping_isStoreWork fun _ => trivial
  | createTables => exact asks_bind (asks_prepare trivial) fun _ => trivial
  | closeStore => exact asks_bind (asks_closeStore trivial) fun _ => trivial
  | allowed source now =>
    exact asks_bind (asks_ofExcept _) fun _ =>
      asks_bind (quota.allows_isStoreWork _ _) fun _ => trivial
  | dropTable | fault faults | clock us | advance us => trivial

variable {β : Type} {view : World → β}

theorem take_spares (aloof : World.Aloof view) {stepper : World.Stepper}
    (spares : World.Spares view stepper) (s : StoreStep) (w : World) :
    view (s.take stepper w).2 = view w := by
  have works := World.complete_spares aloof spares (s.job_isStoreWork w.quota) w
  cases s with
  | dropTable => exact aloof.database w _
  | fault faults => exact aloof.faults w faults
  | clock us => exact aloof.clock w us
  | advance us => exact aloof.clock w _
  | _ => exact works

/-- However deep faults and hooks set each other off, a view that is aloof stays as it is. -/
theorem takeWithin_spares (aloof : World.Aloof view) (depth : Nat) :
    World.Spares view (takeWithin depth) := by
  induction depth with
  | zero => exact fun s w => rfl
  | succ depth ih => exact fun s w => take_spares aloof ih s w

theorem stepper_spares (aloof : World.Aloof view) : World.Spares view stepper :=
  takeWithin_spares aloof depth

end StoreStep

end Faucet
