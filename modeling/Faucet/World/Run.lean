import Faucet.World.Script

/-!
Running jobs in a world. Every question but two is answered on the spot. Waiting and calls of the
wallet take time: a job can be run up to the next of them, so that others may run meanwhile, or right
to its end. Virtual time has no wait without an end; nothing that is run here asks for one, and it
would be over at once.
-/

set_option autoImplicit false

namespace Faucet

namespace World

abbrev Stepper := StoreStep → World → Except Failure Unit × World

def takeAll (step : Stepper) : List StoreStep → World → Except Failure Unit × World
  | [], w => (.ok (), w)
  | s :: rest, w => match step s w with
    | (.error e, w) => (.error e, w)
    | (.ok (), w) => takeAll step rest w

def setFault (w : World) (i : Nat) (f : Fault) : World := { w with faults := w.faults.set i f }

/-- Goes through the faults at a point, by their place in the list, before a call does anything. -/
def strike (step : Stepper) (isHit : FaultPoint → Bool) : Nat → Nat → World →
    Except Failure Unit × World
  | 0, _, w => (.ok (), w)
  | left + 1, i, w =>
    match w.faults[i]? with
    | none => (.ok (), w)
    | some (.mk point skip times effect) =>
      if !isHit point then strike step isHit left (i + 1) w
      else if 0 < skip then
        strike step isHit left (i + 1) (w.setFault i (.mk point (skip - 1) times effect))
      else if 0 < times then
        let w := w.setFault i (.mk point skip (times - 1) effect)
        match effect with
        | .refuse message => (.error (.store (.other message)), w)
        | .run steps => match takeAll step steps w with
          | (.error e, w) => (.error e, w)
          | (.ok (), w) => strike step isHit left (i + 1) w
      else strike step isHit left (i + 1) w

def enter (step : Stepper) (isHit : FaultPoint → Bool) (w : World) : Except Failure Unit × World :=
  strike step isHit w.faults.length 0 w

def draw (w : World) (most : Nat) : Fin (most + 1) × World :=
  match w.draws with
  | [] => (0, w)
  | d :: rest => (⟨(d.emod (most + 1)).toNat, by
      have := Int.emod_nonneg d (by omega : ((most : Int) + 1) ≠ 0)
      have := Int.emod_lt_of_pos d (by omega : (0 : Int) < most + 1)
      change (d % (most + 1)).toNat < most + 1
      omega⟩, { w with draws := rest })

def session (step : Stepper) (s : Statement) (w : World) : Except Failure s.Answer × World :=
  match enter step FaultPoint.atSession w with
  | (.error e, w) => (.error e, w)
  | (.ok (), w) =>
    let (r, database) := w.database.run s
    (r, { w with database })

def startCall (step : Stepper) (c : WalletCall) (w : World) : Except Failure Unit × World :=
  let w := w.record (.call c)
  let (steps, wallet) := w.wallet.takeHook c
  takeAll step steps { w with wallet }

def finishCall (c : WalletCall) (w : World) : Except Failure c.Answer × World :=
  match w.wallet.errorOf? c with
  | some e => (.error e, w)
  | none =>
    let (r, wallet) := w.wallet.answer c
    (r, { w with wallet })

def sendRequest (r : Request) (w : World) : Scripted × World :=
  let (s, transport) := w.transport.next r.method
  (s, { w.record (.request r) with transport })

end World

/-- A job that stopped to wait, and the time at which it goes on. -/
inductive Paused (α : Type) where
  | ended (r : Except Failure α)
  | waiting (wake : Nat) (rest : Job α)
  | calling (wake : Nat) (call : WalletCall) (next : Except Failure call.Answer → Job α)

namespace Job

variable {α : Type}

/-- Runs a job up to where it has to wait. -/
def advance (step : World.Stepper) : Job α → World → Paused α × World
  | .done a, w => (.ended (.ok a), w)
  | .fail e, w => (.ended (.error e), w)
  | .ask (.enter m) next, w =>
    let (r, w) := w.enter step fun p => p.atMethod m
    advance step (next r) w
  | .ask (.session s) next, w =>
    let (r, w) := w.session step s
    advance step (next r) w
  | .ask .prepare next, w =>
    let (r, database) := w.database.prepare
    advance step (next r) { w with database }
  | .ask .closeStore next, w => advance step (next ()) { w with database := w.database.close }
  | .ask (.wallet c) next, w =>
    match w.startCall step c with
    | (.error e, w) => advance step (next (.error e)) w
    | (.ok (), w) =>
      let delay := w.wallet.delayOf c
      if delay = 0 then
        let (r, w) := w.finishCall c
        advance step (next r) w
      else (.calling (w.elapsed + delay) c next, w)
  | .ask (.payment ..) next, w => advance step (next ()) w
  | .ask (.send r) next, w =>
    let (s, w) := w.sendRequest r
    if s.delay = 0 then advance step (next (Transport.replyTo r.id s.reply)) w
    else (.waiting (w.elapsed + s.delay) (next (Transport.replyTo r.id s.reply)), w)
  | .ask .requestId next, w =>
    advance step (next (w.requests + 1)) { w with requests := w.requests + 1 }
  | .ask (.log level message) next, w => advance step (next ()) (w.logLine level message)
  | .ask (.notify e) next, w => advance step (next ()) (w.notify e)
  | .ask .now next, w => advance step (next w.now) w
  | .ask (.draw most) next, w =>
    let (n, w) := w.draw most
    advance step (next n) w
  | .ask .cached next, w => advance step (next w.purse) w
  | .ask (.cache d) next, w => advance step (next ()) { w with purse := d }
  | .ask (.sleep us) next, w =>
    if us = 0 then advance step (next ()) w else (.waiting (w.elapsed + us) (next ()), w)
  | .ask .rest next, w => advance step (next ()) w

/-- Runs a job to its end, time passing where it waits. -/
def complete (step : World.Stepper) : Job α → World → Except Failure α × World
  | .done a, w => (.ok a, w)
  | .fail e, w => (.error e, w)
  | .ask (.enter m) next, w =>
    let (r, w) := w.enter step fun p => p.atMethod m
    complete step (next r) w
  | .ask (.session s) next, w =>
    let (r, w) := w.session step s
    complete step (next r) w
  | .ask .prepare next, w =>
    let (r, database) := w.database.prepare
    complete step (next r) { w with database }
  | .ask .closeStore next, w => complete step (next ()) { w with database := w.database.close }
  | .ask (.wallet c) next, w =>
    match w.startCall step c with
    | (.error e, w) => complete step (next (.error e)) w
    | (.ok (), w) =>
      let (r, w) := (w.elapse (w.wallet.delayOf c)).finishCall c
      complete step (next r) w
  | .ask (.payment ..) next, w => complete step (next ()) w
  | .ask (.send r) next, w =>
    let (s, w) := w.sendRequest r
    complete step (next (Transport.replyTo r.id s.reply)) (w.elapse s.delay)
  | .ask .requestId next, w =>
    complete step (next (w.requests + 1)) { w with requests := w.requests + 1 }
  | .ask (.log level message) next, w => complete step (next ()) (w.logLine level message)
  | .ask (.notify e) next, w => complete step (next ()) (w.notify e)
  | .ask .now next, w => complete step (next w.now) w
  | .ask (.draw most) next, w =>
    let (n, w) := w.draw most
    complete step (next n) w
  | .ask .cached next, w => complete step (next w.purse) w
  | .ask (.cache d) next, w => complete step (next ()) { w with purse := d }
  | .ask (.sleep us) next, w => complete step (next ()) (w.elapse us)
  | .ask .rest next, w => complete step (next ()) w

end Job

namespace Paused

variable {α : Type}

def wake? : Paused α → Option Nat
  | .ended _ => none
  | .waiting wake _ => some wake
  | .calling wake _ _ => some wake

def resume (step : World.Stepper) : Paused α → World → Paused α × World
  | .ended r, w => (.ended r, w)
  | .waiting _ rest, w => rest.advance step w
  | .calling _ c next, w =>
    let (r, w) := w.finishCall c
    (next r).advance step w

end Paused

end Faucet
