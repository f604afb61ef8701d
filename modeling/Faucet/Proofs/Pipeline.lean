import Faucet.Proofs.Exchange

/-!
The steps of a broadcast. A transaction is created, funded unless it has inputs of its own, signed
and sent. Each step works on the transaction that the step before it has handed on, and a step that
goes wrong is the last one.
-/

set_option autoImplicit false

namespace Faucet

namespace Rpc

/-- A reply that reports no error, and the result in it. -/
def Accepted (reply : Reply) (v : Json) : Prop :=
  ∃ body t fields, reply = .response 200 body ∧ Json.decode body = .ok t ∧
    Json.ofText t = .ok (.object fields) ∧
      ((Json.lookup "error" fields).getD .null).truthy = false ∧
        v = (Json.lookup "result" fields).getD .null

theorem reported?_eq_none {fields : List (Text × Json)} : reported? (.object fields) = none ↔
    ((Json.lookup "error" fields).getD .null).truthy = false := by
  unfold reported? Json.field?
  dsimp only
  generalize (Json.lookup "error" fields).getD .null = v
  cases v with
  | object fields => cases fields <;> simp [Json.truthy]
  | _ => dsimp only; split <;> simp_all

theorem readBody_ok_iff {method : Text} {status : Nat} {body : Octets} {v : Json} :
    readBody method status body = .ok v ↔
      ∃ t, Json.decode body = .ok t ∧ Json.ofText t = .ok v := by
  unfold readBody
  cases Json.decode body with
  | error fault => simp
  | ok t => cases parsed : Json.ofText t <;> simp [parsed]

theorem result_ok_iff {method : Text} {status : Nat} {body : Octets} {v : Json} :
    result method status body = .ok v ↔ Accepted (.response status body) v := by
  constructor
  · intro taken
    unfold result at taken
    split at taken
    · cases taken
    · split at taken
      · cases taken
      · obtain ⟨reply, read, rest⟩ := bind_eq_ok.mp taken
        cases reply with
        | object fields =>
          dsimp only at rest
          split at rest
          · cases rest
          · rename_i silent
            split at rest
            · cases rest
            · rename_i fine
              have status : status = 200 := not_not.mp fine
              subst status
              cases rest
              obtain ⟨t, decoded, parsed⟩ := readBody_ok_iff.mp read
              exact ⟨body, t, fields, rfl, decoded, parsed, reported?_eq_none.mp silent, rfl⟩
        | _ => cases rest
  · rintro ⟨body, t, fields, ⟨⟩, decoded, parsed, silent, rfl⟩
    unfold result
    rw [if_neg (by decide), if_neg (by decide), readBody_ok_iff.mpr ⟨t, decoded, parsed⟩]
    dsimp only [bind, Except.bind]
    rw [reported?_eq_none.mpr silent]
    rfl

/-- A step of a broadcast: what it asks for besides the transaction that it works on, and the
transaction that its result hands on. -/
structure Step where
  method : Text
  options : List Json := []
  pick : Json → Option Text

def fundOptions : Option Decimal → List Json
  | none => []
  | some rate =>
    if Decimal.zero.lt rate = .ok true then [.object [("fee_rate", .text rate.fixed8)]] else []

namespace Step

def create (outputs : Outputs) : Step :=
  { method := "createrawtransaction", options := [outputsJson outputs], pick := textOf }

def fund (feeRate : Option Decimal) : Step :=
  { method := "fundrawtransaction", options := fundOptions feeRate, pick := hexOf }

def sign : Step := { method := "signrawtransactionwithwallet", pick := signedOf }

def send : Step := { method := "sendrawtransaction", pick := textOf }

end Step

def steps (outputs : Outputs) (feeRate : Option Decimal) : Option (List Json) → List Step
  | none => [.create outputs, .fund feeRate, .sign, .send]
  | some _ => [.create outputs, .sign, .send]

def Comparable (feeRate : Option Decimal) : Prop :=
  ∀ rate ∈ feeRate, ∃ positive, Decimal.zero.lt rate = .ok positive

/-- What keeps the request of a step from being sent to a node that can be reached: its parameters
have no UTF-8 form, or it is to fund at a rate that cannot be compared with zero. -/
def Step.Blocked (feeRate : Option Decimal) (step : Step) (given : Json) : Prop :=
  ¬Sends (given :: step.options) ∨ step = .fund feeRate ∧ ¬Comparable feeRate

/-- The exchanges with the node at an address, of steps that are taken one after another, in their
order, and what comes of them. The first step works on what is given, each other one on what the step
before it has handed on. -/
inductive Passage (url : Text) (feeRate : Option Decimal) :
    List Step → Json → List (Request × Reply) → Except Failure Text → Prop
  | unsent {step : Step} {rest : List Step} {given : Json} (d : Defect)
    (blocked : Reaches url → step.Blocked feeRate given) :
    Passage url feeRate (step :: rest) given [] (.error (.defect d))
  | stopped {step : Step} {rest : List Step} {given : Json} {request : Request} {reply : Reply}
    {e : Failure} (own : request.method = step.method)
    (params : request.params = given :: step.options)
    (refused : rest = [] ∨ Reaches url → ∀ v, Accepted reply v → step.pick v = none)
    (blames : ∀ method fault, e = .node method fault → method = step.method) :
    Passage url feeRate (step :: rest) given [(request, reply)] (.error e)
  | passed {step : Step} {rest : List Step} {given : Json} {request : Request} {reply : Reply}
    {v : Json} {t : Text} {later : List (Request × Reply)} {out : Except Failure Text}
    (own : request.method = step.method) (params : request.params = given :: step.options)
    (accepted : Accepted reply v) (picked : step.pick v = some t)
    (next : Passage url feeRate rest (.text t) later out) :
    Passage url feeRate (step :: rest) given ((request, reply) :: later) out
  | finished (t : Text) : Passage url feeRate [] (.text t) [] (.ok t)

theorem Accepted.same {reply : Reply} {v w : Json} (hv : Accepted reply v) (hw : Accepted reply w) :
    v = w := by
  obtain ⟨body, t, fields, rfl, decoded, parsed, -, rfl⟩ := hv
  obtain ⟨_, _, _, ⟨⟩, decoded', parsed', -, rfl⟩ := hw
  cases decoded.symm.trans decoded'
  cases parsed.symm.trans parsed'
  rfl

namespace Passage

variable {url : Text} {feeRate : Option Decimal} {steps : List Step} {given : Json}
  {made : List (Request × Reply)} {out : Except Failure Text}

theorem order (h : Passage url feeRate steps given made out) :
    made.map (·.1.method) <+: steps.map Step.method := by
  induction h with
  | unsent d => exact List.nil_prefix
  | stopped own => simp [own]
  | passed own _ _ _ _ ih => simpa [own] using ih
  | finished t => exact List.nil_prefix

theorem method_eq (h : Passage url feeRate steps given made out) {i : Nat} {p : Request × Reply}
    (here : made[i]? = some p) : ∃ step, steps[i]? = some step ∧ p.1.method = step.method := by
  obtain ⟨later, same⟩ := h.order
  have named : (made.map (·.1.method))[i]? = some p.1.method := by
    rw [List.getElem?_map, here]
    rfl
  have taken : (steps.map Step.method)[i]? = some p.1.method := by
    rw [← same, List.getElem?_append_left (List.getElem?_eq_some_iff.mp named).1]
    exact named
  rw [List.getElem?_map, Option.map_eq_some_iff] at taken
  obtain ⟨step, found, own⟩ := taken
  exact ⟨step, found, own.symm⟩

theorem opens (h : Passage url feeRate steps given made out) {p : Request × Reply}
    (first : made[0]? = some p) :
    ∃ step, steps[0]? = some step ∧ p.1.params = given :: step.options := by
  cases h with
  | unsent d => cases first
  | stopped own params =>
    cases first
    exact ⟨_, rfl, params⟩
  | passed own params =>
    cases first
    exact ⟨_, rfl, params⟩
  | finished t => cases first

theorem starts (h : Passage url feeRate steps given made out) {step : Step} {rest : List Step}
    (first : steps = step :: rest) :
    (∃ p, made[0]? = some p) ∨
      (∃ d, out = .error (.defect d)) ∧ (Reaches url → step.Blocked feeRate given) := by
  cases h with
  | unsent d blocked =>
    cases first
    exact .inr ⟨⟨d, rfl⟩, blocked⟩
  | stopped | passed => exact .inl ⟨_, rfl⟩
  | finished t => cases first

/-- A step that is accepted is followed by the next one, unless this one is blocked. -/
theorem follows (h : Passage url feeRate steps given made out) (reach : Reaches url) {i : Nat}
    {p : Request × Reply} {step next : Step} {v : Json} {t : Text} (here : made[i]? = some p)
    (stepped : steps[i]? = some step) (after : steps[i + 1]? = some next) (accepted : Accepted p.2 v)
    (picked : step.pick v = some t) :
    (∃ q, made[i + 1]? = some q) ∨
      (∃ d, out = .error (.defect d)) ∧ next.Blocked feeRate (.text t) := by
  induction h generalizing i with
  | unsent d => cases here
  | stopped own params refused =>
    cases i with
    | succ i => cases here
    | zero =>
      cases here
      cases stepped
      cases (refused (.inr reach) v accepted).symm.trans picked
  | @passed step' rest given request reply v' t' later out own params accepted' picked' passage ih =>
    cases i with
    | succ i => exact ih here stepped after
    | zero =>
      cases here
      cases stepped
      cases accepted.same accepted'
      cases picked.symm.trans picked'
      cases rest with
      | nil => cases after
      | cons next' rest =>
        cases after
        exact (passage.starts rfl).imp id fun ⟨failed, blocked⟩ => ⟨failed, blocked reach⟩
  | finished t => cases here

theorem threaded (h : Passage url feeRate steps given made out) {i : Nat} {p q : Request × Reply}
    (here : made[i]? = some p) (after : made[i + 1]? = some q) :
    ∃ step next v t, steps[i]? = some step ∧ steps[i + 1]? = some next ∧ Accepted p.2 v ∧
      step.pick v = some t ∧ q.1.params = .text t :: next.options := by
  induction h generalizing i with
  | unsent d => cases here
  | stopped => cases after
  | passed own params accepted picked next ih =>
    cases i with
    | succ i => exact ih here after
    | zero =>
      cases here
      obtain ⟨step, first, params⟩ := next.opens after
      exact ⟨_, step, _, _, rfl, first, accepted, picked, params⟩
  | finished t => cases here

theorem blamed (h : Passage url feeRate steps given made out) {method : Text} {fault : NodeFault}
    (failed : out = .error (.node method fault)) :
    ∃ p, made.getLast? = some p ∧ p.1.method = method := by
  induction h with
  | unsent d => cases failed
  | stopped own _ _ blames =>
    cases failed
    exact ⟨_, rfl, own.trans (blames method fault rfl).symm⟩
  | passed own params accepted picked next ih =>
    obtain ⟨p, last, same⟩ := ih failed
    exact ⟨p, by simp [List.getLast?_cons, last], same⟩
  | finished t => cases failed

def Handed (steps : List Step) (given : Json) (made : List (Request × Reply)) (t : Text) : Prop :=
  match made.getLast? with
  | none => given = .text t
  | some p => ∃ step v, steps.getLast? = some step ∧ Accepted p.2 v ∧ step.pick v = some t

theorem handed_cons {step : Step} {rest : List Step} {request : Request} {reply : Reply} {v : Json}
    {t u : Text} (accepted : Accepted reply v) (picked : step.pick v = some t)
    (even : made.length = rest.length) :
    Handed (step :: rest) given ((request, reply) :: made) u ↔ Handed rest (.text t) made u := by
  cases made with
  | nil =>
    have none : rest = [] := List.eq_nil_of_length_eq_zero even.symm
    subst none
    constructor
    · rintro ⟨_, w, ⟨⟩, accepted', picked'⟩
      cases accepted.same accepted'
      exact congrArg Json.text (Option.some.inj (picked.symm.trans picked'))
    · rintro ⟨⟩
      exact ⟨step, v, rfl, accepted, picked⟩
  | cons p made =>
    cases rest with
    | nil => cases even
    | cons next rest =>
      unfold Handed
      rw [List.getLast?_cons_cons, List.getLast?_cons_cons, List.getLast?_cons]

theorem succeeds (h : Passage url feeRate steps given made out) (txid : Text) :
    out = .ok txid ↔ made.length = steps.length ∧ Handed steps given made txid := by
  induction h with
  | unsent d => exact iff_of_false nofun fun ⟨even, _⟩ => nomatch even
  | @stopped step rest given request reply e own params refused blames =>
    refine iff_of_false nofun ?_
    rintro ⟨even, handed⟩
    have none : rest = [] := List.eq_nil_of_length_eq_zero (Nat.succ.inj even).symm
    subst none
    obtain ⟨_, v, ⟨⟩, accepted, picked⟩ := handed
    cases (refused (.inl rfl) v accepted).symm.trans picked
  | passed own params accepted picked next ih =>
    rw [ih, List.length_cons, List.length_cons, Nat.add_right_cancel_iff]
    exact and_congr_right fun even => (handed_cons accepted picked even).symm
  | finished t =>
    constructor
    · rintro ⟨⟩
      exact ⟨rfl, rfl⟩
    · rintro ⟨-, ⟨⟩⟩
      rfl

end Passage

/-! ### One call -/

section
variable {α : Type} {env : Nat → Reaction} {r : Rpc} {method : Text} {params : List Json}

theorem replies_asked_of_ne {s : Scene} {ρ : Reaction} {q : Query}
    (other : ∀ request, q ≠ .send request) : (s.asked ρ q).replies = s.replies := by
  unfold Scene.replies Scene.asked
  rw [List.filterMap_cons]
  cases q with
  | send request => exact absurd rfl (other request)
  | _ => rfl

theorem replies_log (s : Scene) (ρ : Reaction) (level : Level) (message : Text) :
    (s.asked ρ (.log level message)).replies = s.replies := replies_asked_of_ne nofun

theorem replies_asked_send {s : Scene} {ρ : Reaction} {request : Request} {reply : Reply}
    (answered : ρ.reply = .ok reply) :
    (s.asked ρ (.send request)).replies = (request, reply) :: s.replies := by
  unfold Scene.replies Scene.asked Reaction.answer
  rw [List.filterMap_cons, answered]

/-- What goes wrong is no failure of the node or one of a request by this method. -/
def Concerns (method : Text) (x : Except Failure α) : Prop :=
  ∀ step fault, x = .error (.node step fault) → step = method

theorem concerns_ok (a : α) : Concerns method (.ok a) := nofun

theorem concerns_node (fault : NodeFault) :
    Concerns method (.error (.node method fault) : Except Failure α) := by
  rintro _ _ ⟨⟩
  rfl

theorem concerns_bind {β : Type} {x : Except Failure α} {f : α → Except Failure β}
    (hx : Concerns method x) (hf : ∀ a, Concerns method (f a)) : Concerns method (x >>= f) := by
  cases x with
  | ok a => exact hf a
  | error e =>
    rintro step fault ⟨⟩
    exact hx step fault rfl

theorem concerns_readBody (status : Nat) (body : Octets) :
    Concerns method (readBody method status body) := by
  unfold readBody
  split
  · exact nofun
  · split
    · exact concerns_ok _
    · rename_i e _
      cases e with
      | malformed => exact concerns_node _
      | _ => exact nofun

theorem concerns_result (status : Nat) (body : Octets) :
    Concerns method (result method status body) := by
  unfold result
  split
  · exact concerns_node _
  · split
    · exact concerns_node _
    · refine concerns_bind (concerns_readBody status body) fun reply => ?_
      split
      · split
        · exact concerns_node _
        · split
          · exact concerns_node _
          · exact concerns_ok _
      · exact concerns_node _

theorem blames_target (url : Text) : Blames (target url) := by
  unfold target
  refine blames_bind ?_ fun u => blames_ok _
  cases Url.ofText url with
  | ok u => exact blames_ok u
  | error d => exact blames_defect d

theorem blames_checkBody (id : Nat) : Blames (checkBody id method params) := by
  unfold checkBody
  split
  · exact blames_defect _
  · dsimp only
    split
    · exact blames_ok ()
    · exact blames_defect _

theorem blames_checkService (u : Url) : Blames (checkService u) := by
  unfold checkService
  split
  · exact blames_defect _
  · exact blames_ok ()

theorem blames_checkTarget (u : Url) : Blames (checkTarget u) := by
  unfold checkTarget
  split
  · exact blames_ok ()
  · exact blames_defect _

def checked (url : Text) (id : Nat) (method : Text) (params : List Json) : Except Failure Url := do
  let u ← target url
  checkBody id method params
  checkService u
  return u

theorem blames_checked (url : Text) (id : Nat) : Blames (checked url id method params) :=
  blames_bind (blames_target url) fun u => blames_bind (blames_checkBody id) fun _ =>
    blames_bind (blames_checkService u) fun _ => blames_ok u

theorem checked_ok {url : Text} {id : Nat} {u : Url} (h : checked url id method params = .ok u) :
    target url = .ok u ∧ checkBody id method params = .ok () ∧ checkService u = .ok () := by
  obtain ⟨u', found, rest⟩ := bind_eq_ok.mp h
  obtain ⟨_, body, rest⟩ := bind_eq_ok.mp rest
  obtain ⟨_, service, rest⟩ := bind_eq_ok.mp rest
  cases rest
  exact ⟨found, body, service⟩

def received (method url : Text) (u : Url) (reply : Reply) : Job Json :=
  match reply with
  | .response status body => do
    Job.ofExcept (checkTarget u)
    Job.ofExcept (result method status body)
  | lost => taken method url lost

theorem call_checked : r.call method params = Job.requestId.bind fun id =>
    (Job.ofExcept (checked r.walletUrl id method params)).bind fun u =>
      (Job.send { url := u, authorization := r.authorization, id, method, params }).bind
        (received method r.walletUrl u) := by
  refine congrArg (Job.bind _) (funext fun id => ?_)
  change (Job.ofExcept (target r.walletUrl)).bind _ = _
  unfold checked
  cases target r.walletUrl with
  | error e => rfl
  | ok u =>
    change (Job.ofExcept (checkBody id method params)).bind _ =
      (Job.ofExcept (checkBody id method params >>= _)).bind _
    cases checkBody id method params with
    | error e => rfl
    | ok _ =>
      change (Job.ofExcept (checkService u)).bind _ =
        (Job.ofExcept (checkService u >>= _)).bind _
      cases checkService u with
      | error e => rfl
      | ok _ =>
        change (Job.send _).bind _ = (Job.send _).bind _
        refine congrArg (Job.bind _) (funext fun reply => ?_)
        cases reply <;> rfl

/-- What becomes of a call from a scene if `f` goes on with its result: nothing is sent, or one
request is, and `f` is reached if the reply to it is accepted. -/
inductive Called (r : Rpc) (method : Text) (params : List Json) (env : Nat → Reaction)
    (f : Json → Job α) (s : Scene) : Except Failure α × Scene → Prop
  | unsent (d : Defect) {s' : Scene} (same : s'.replies = s.replies)
    (unsendable : Reaches r.walletUrl → ¬Sends params) :
    Called r method params env f s (.error (.defect d), s')
  | refused {request : Request} {reply : Reply} {e : Failure} {s' : Scene}
    (own : request.method = method) (given : request.params = params)
    (sent : s'.replies = (request, reply) :: s.replies)
    (concerns : Concerns method (.error e : Except Failure α))
    (refused : Reaches r.walletUrl → ∀ v, ¬Accepted reply v) :
    Called r method params env f s (.error e, s')
  | accepted {request : Request} {reply : Reply} {v : Json} {s' : Scene}
    (own : request.method = method) (given : request.params = params)
    (sent : s'.replies = (request, reply) :: s.replies) (reach : Reaches r.walletUrl)
    (accepted : Accepted reply v) :
    Called r method params env f s ((f v).play env s')

theorem called_of_received {f : Json → Job α} {s s' : Scene} {u : Url} {request : Request}
    {reply : Reply} (found : target r.walletUrl = .ok u) (service : checkService u = .ok ())
    (own : request.method = method) (given : request.params = params)
    (sent : s'.replies = (request, reply) :: s.replies) : Called r method params env f s
      (((received method r.walletUrl u reply).bind f).play env s') := by
  have lost (reply : Reply) (none : ∀ status body, reply ≠ .response status body) (v : Json) :
      ¬Accepted reply v := by
    rintro ⟨body, _, _, same, _⟩
    exact none 200 body same
  have logged (message : Text) : (s'.asked (env s'.log.length) (.log .error message)).replies =
      s'.replies := replies_log s' _ .error message
  cases reply with
  | timedOut detail =>
    exact .refused own given ((logged _).trans sent) (concerns_node _) fun _ => lost _ nofun
  | lost detail =>
    exact .refused own given ((logged _).trans sent) (concerns_node _) fun _ => lost _ nofun
  | response status body =>
    change Called r method params env f s (Job.play env
      (((Job.ofExcept (checkTarget u)).bind fun _ =>
        Job.ofExcept (result method status body)).bind f) s')
    cases answers : checkTarget u with
    | error e =>
      refine .refused own given sent ?_ ?_
      · rintro step fault ⟨⟩
        obtain ⟨d, same⟩ := blames_checkTarget u _ answers
        cases same
      · rintro ⟨_, found', _, answers'⟩
        cases found.symm.trans found'
        cases answers.symm.trans answers'
    | ok _ =>
      change Called r method params env f s
        (Job.play env ((Job.ofExcept (result method status body)).bind f) s')
      cases taken : result method status body with
      | ok v =>
        exact .accepted own given sent ⟨u, found, service, answers⟩ (result_ok_iff.mp taken)
      | error e =>
        refine .refused own given sent ?_ fun _ v accepted => ?_
        · rintro step fault ⟨⟩
          exact concerns_result status body step fault taken
        · cases taken.symm.trans (result_ok_iff.mpr accepted)

theorem called (transport : ∀ n, ∃ reply, (env n).reply = .ok reply)
    (named : method.isEncodable = true) (f : Json → Job α)
    (s : Scene) : Called r method params env f s (((r.call method params).bind f).play env s) := by
  rw [call_checked]
  let numbered := s.asked (env s.log.length) .requestId
  have same : numbered.replies = s.replies := replies_asked_of_ne nofun
  change Called r method params env f s (Job.play env
    (((Job.ofExcept (checked r.walletUrl (env s.log.length).number method params)).bind _).bind f)
    numbered)
  cases start : checked r.walletUrl (env s.log.length).number method params with
  | error e =>
    obtain ⟨d, rfl⟩ := blames_checked _ _ e start
    refine .unsent d same fun ⟨u, found, service, _⟩ sends => ?_
    have passed : checked r.walletUrl (env s.log.length).number method params = .ok u := by
      unfold checked
      rw [found, checkBody_ok named sends]
      change (checkService u >>= _) = _
      rw [service]
      rfl
    cases start.symm.trans passed
  | ok u =>
    obtain ⟨found, -, service⟩ := checked_ok start
    obtain ⟨reply, answered⟩ := transport numbered.log.length
    change Called r method params env f s (Job.play env
      (((Job.ofExcept (env numbered.log.length).reply).bind (received method r.walletUrl u)).bind f)
      (numbered.asked (env numbered.log.length) (.send _)))
    rw [answered]
    have sent : ∀ request, (numbered.asked (env numbered.log.length) (.send request)).replies =
        (request, reply) :: s.replies := by
      intro request
      rw [replies_asked_send answered, same]
    exact called_of_received found service rfl rfl (sent _)

end

/-! ### The steps of a broadcast -/

section
variable {url : Text} {feeRate : Option Decimal} {env : Nat → Reaction} {r : Rpc} {step : Step}
  {f : Json → Job Text} {k : Text → Job Text}

def Takes (url : Text) (feeRate : Option Decimal) (env : Nat → Reaction) (steps : List Step)
    (given : Json) (j : Job Text) (s : Scene) : Prop :=
  ∃ made, (j.play env s).2.replies = made.reverse ++ s.replies ∧
    Passage url feeRate steps given made (j.play env s).1

theorem takes_done (t : Text) (s : Scene) : Takes url feeRate env [] (.text t) (.done t) s :=
  ⟨[], rfl, .finished t⟩

/-- What a step makes of a result: it goes on with the transaction handed on, or is at fault. -/
structure Step.Handles (step : Step) (env : Nat → Reaction) (f : Json → Job Text)
    (k : Text → Job Text) : Prop where
  handed : ∀ v t s, step.pick v = some t → ∃ s', s'.replies = s.replies ∧
    (f v).play env s = (k t).play env s'
  refused : ∀ v s, step.pick v = none → ∃ s' fault, s'.replies = s.replies ∧
    (f v).play env s = (.error (.node step.method fault), s')

theorem Step.Handles.takes (transport : ∀ n, ∃ reply, (env n).reply = .ok reply)
    (handles : step.Handles env f k) (named : step.method.isEncodable = true) (rest : List Step)
    (sound : rest = [] → Reaches r.walletUrl)
    (next : Reaches r.walletUrl → ∀ t s, Takes r.walletUrl feeRate env rest (.text t) (k t) s)
    (given : Json) (s : Scene) : Takes r.walletUrl feeRate env (step :: rest) given
      ((r.call step.method (given :: step.options)).bind f) s := by
  have called : Called r step.method (given :: step.options) env f s
      (((r.call step.method (given :: step.options)).bind f).play env s) :=
    called transport named f s
  generalize ran : ((r.call step.method (given :: step.options)).bind f).play env s = run at called
  unfold Takes
  rw [ran]
  cases called with
  | unsent d same unsendable => exact ⟨[], same, .unsent d fun reach => .inl (unsendable reach)⟩
  | @refused request reply e s' own params sent concerns refused =>
    refine ⟨[(request, reply)], sent, .stopped own params (fun last v accepted => ?_) ?_⟩
    · exact absurd accepted (refused (last.elim sound id) v)
    · rintro method fault rfl
      exact concerns method fault rfl
  | @accepted request reply v s' own params sent reach accepted =>
    cases picked : step.pick v with
    | none =>
      obtain ⟨s'', fault, same, failed⟩ := handles.refused v s' picked
      rw [failed]
      refine ⟨[(request, reply)], same.trans sent, .stopped own params (fun _ w accepted' => ?_) ?_⟩
      · rw [accepted'.same accepted]
        exact picked
      · rintro method fault ⟨⟩
        rfl
    | some t =>
      obtain ⟨s'', same, goes⟩ := handles.handed v t s' picked
      obtain ⟨made, later, passage⟩ := next reach t s''
      rw [goes]
      refine ⟨(request, reply) :: made, ?_, .passed own params accepted picked passage⟩
      rw [later, same, sent, List.reverse_cons, List.append_assoc]
      rfl

/-! What each step makes of its result. -/

theorem expectText_of_none {v : Json} (none : textOf v = none) (method : Text) :
    expectText method v = .error (wrongType method "str" v) := by
  cases v with
  | text t => cases none
  | _ => rfl

theorem handles_create (outputs : Outputs) : (Step.create outputs).Handles env
    (fun v => (Job.ofExcept (expectText "createrawtransaction" v)).bind k) k where
  handed v t s picked := by
    rw [expectText_of_textOf picked]
    exact ⟨s, rfl, rfl⟩
  refused v s none := by
    rw [expectText_of_none none]
    exact ⟨s, _, rfl, rfl⟩

theorem fundedThen_object (fields : List (Text × Json)) : ∃ message,
    fundedThen k (.object fields) = (Job.log .debug message).bind fun _ =>
      (Job.ofExcept (expectText "fundrawtransaction"
        ((Json.lookup "hex" fields).getD .null))).bind k :=
  ⟨_, rfl⟩

theorem handles_fund (feeRate : Option Decimal) :
    (Step.fund feeRate).Handles env (fundedThen k) k where
  handed v t s picked := by
    cases v with
    | object fields =>
      obtain ⟨message, eq⟩ := fundedThen_object (k := k) fields
      rw [eq, expectText_of_textOf picked]
      exact ⟨_, replies_log s (env s.log.length) .debug message, rfl⟩
    | _ => cases picked
  refused v s none := by
    cases v with
    | object fields =>
      obtain ⟨message, eq⟩ := fundedThen_object (k := k) fields
      rw [eq, expectText_of_none none]
      exact ⟨_, _, replies_log s (env s.log.length) .debug message, rfl⟩
    | _ => exact ⟨s, _, rfl, rfl⟩

theorem signedThen_object (fields : List (Text × Json)) : signedThen k (.object fields) =
    if ((Json.lookup "complete" fields).getD .null).truthy then
      (Job.ofExcept (expectText "signrawtransactionwithwallet"
        ((Json.lookup "hex" fields).getD .null))).bind k
    else .fail (.node "signrawtransactionwithwallet" .unsigned) := rfl

theorem signedOf_object (fields : List (Text × Json)) : signedOf (.object fields) =
    if ((Json.lookup "complete" fields).getD .null).truthy then hexOf (.object fields)
    else none := rfl

theorem handles_sign : Step.sign.Handles env (signedThen k) k where
  handed v t s picked := by
    cases v with
    | object fields =>
      change signedOf (.object fields) = some t at picked
      rw [signedOf_object] at picked
      split at picked
      · rename_i complete
        rw [signedThen_object, if_pos complete, expectText_of_textOf picked]
        exact ⟨s, rfl, rfl⟩
      · cases picked
    | _ => cases picked
  refused v s none := by
    cases v with
    | object fields =>
      change signedOf (.object fields) = .none at none
      rw [signedOf_object] at none
      rw [signedThen_object]
      split
      · rename_i complete
        rw [if_pos complete] at none
        rw [expectText_of_none none]
        exact ⟨s, _, rfl, rfl⟩
      · exact ⟨s, _, rfl, rfl⟩
    | _ => exact ⟨s, _, rfl, rfl⟩

theorem handles_send : Step.send.Handles env broadcastId .done where
  handed v t s picked := by
    cases v with
    | text t' =>
      cases picked
      exact ⟨_, replies_log s (env s.log.length) .info _, rfl⟩
    | _ => cases picked
  refused v s none := by
    cases v with
    | text t => cases none
    | _ => exact ⟨s, _, rfl, rfl⟩

section
variable (transport : ∀ n, ∃ reply, (env n).reply = .ok reply)
include transport

theorem takes_finish (reach : Reaches r.walletUrl) (t : Text) (s : Scene) :
    Takes r.walletUrl feeRate env [.sign, .send] (.text t) (r.finish t) s := by
  unfold finish
  rw [sign_bind]
  refine handles_sign.takes transport rfl [.send] nofun (fun _ t s => ?_) _ s
  exact handles_send.takes transport rfl [] (fun _ => reach) (fun _ t s => takes_done t s) _ s

theorem takes_fundWith (feeRate : Option Decimal) (reach : Reaches r.walletUrl) (t : Text)
    (s : Scene) : Takes r.walletUrl feeRate env [.fund feeRate, .sign, .send] (.text t)
      ((r.fundWith (fundOptions feeRate) t).bind r.finish) s := by
  rw [fundWith_bind]
  refine (handles_fund feeRate).takes transport rfl [.sign, .send] nofun (fun _ t s => ?_) _ s
  exact takes_finish transport reach t s

theorem takes_fund (feeRate : Option Decimal) (reach : Reaches r.walletUrl) (t : Text) (s : Scene) :
    Takes r.walletUrl feeRate env [.fund feeRate, .sign, .send] (.text t)
      ((r.fund t feeRate).bind r.finish) s := by
  have funded := takes_fundWith transport feeRate reach t s
  cases feeRate with
  | none => exact funded
  | some rate =>
    cases compared : Decimal.zero.lt rate with
    | error fault =>
      have stopped : (r.fund t (some rate)).bind r.finish =
          .fail (.defect (.arithmetic fault)) := by
        unfold fund
        dsimp only
        rw [compared]
        rfl
      rw [stopped]
      refine ⟨[], rfl, .unsent (.arithmetic fault) fun _ => .inr ⟨rfl, fun comparable => ?_⟩⟩
      obtain ⟨positive, other⟩ := comparable rate rfl
      cases compared.symm.trans other
    | ok positive =>
      have same : r.fund t (some rate) = r.fundWith (fundOptions (some rate)) t := by
        unfold fund fundOptions
        dsimp only
        rw [compared]
        cases positive <;> rfl
      rw [same]
      exact funded

theorem takes_broadcast (outputs : Outputs) (feeRate : Option Decimal) (inputs : Option (List Json))
    (s : Scene) : Takes r.walletUrl feeRate env (steps outputs feeRate inputs)
      (.list (inputs.getD [])) (r.broadcast outputs feeRate inputs) s := by
  rw [broadcast_eq]
  cases inputs with
  | none =>
    refine (handles_create outputs).takes transport rfl [.fund feeRate, .sign, .send] nofun
      (fun reach t s => ?_) _ s
    exact takes_fund transport feeRate reach t s
  | some inputs =>
    refine (handles_create outputs).takes transport rfl [.sign, .send] nofun (fun reach t s => ?_) _ s
    exact takes_finish transport reach t s

end

end

/-! ### The whole of a broadcast -/

theorem steps_nodup (outputs : Outputs) (feeRate : Option Decimal) (inputs : Option (List Json)) :
    ((steps outputs feeRate inputs).map Step.method).Nodup := by
  cases inputs with
  | none =>
    change (["createrawtransaction", "fundrawtransaction", "signrawtransactionwithwallet",
      "sendrawtransaction"] : List Text).Nodup
    decide
  | some inputs =>
    change (["createrawtransaction", "signrawtransactionwithwallet", "sendrawtransaction"] :
      List Text).Nodup
    decide

theorem sends_fundOptions (feeRate : Option Decimal) : Sends (fundOptions feeRate) := by
  cases feeRate with
  | none => exact sends_nil
  | some rate =>
    unfold fundOptions
    dsimp only
    split
    · exact sends_feeRate rate
    · exact sends_nil

theorem steps_blocked_iff {outputs : Outputs} {feeRate : Option Decimal}
    {inputs : Option (List Json)} {i : Nat} {next : Step}
    (after : (steps outputs feeRate inputs)[i + 1]? = some next) (t : Text) :
    next.Blocked feeRate (.text t) ↔
      t.isEncodable = false ∨ next = .fund feeRate ∧ ¬Comparable feeRate := by
  have sends : ∀ step ∈ (steps outputs feeRate inputs).tail, Sends step.options := by
    cases inputs with
    | none => simp [steps, Step.fund, Step.sign, Step.send, sends_fundOptions, sends_nil]
    | some inputs => simp [steps, Step.sign, Step.send, sends_nil]
  have later : next ∈ (steps outputs feeRate inputs).tail := by
    refine List.mem_of_getElem? (i := i) ?_
    rw [List.getElem?_tail]
    exact after
  unfold Step.Blocked
  rw [sends_cons_text_iff t (sends next later), Bool.not_eq_true]

theorem steps_before_send {outputs : Outputs} {feeRate : Option Decimal}
    {inputs : Option (List Json)} {i : Nat} {step next : Step}
    (here : (steps outputs feeRate inputs)[i]? = some step)
    (after : (steps outputs feeRate inputs)[i + 1]? = some next)
    (sends : next.method = "sendrawtransaction") : step = .sign ∧ next = .send := by
  have create : (Step.create outputs).method ≠ "sendrawtransaction" := by
    change ("createrawtransaction" : Text) ≠ "sendrawtransaction"
    decide
  have fund : (Step.fund feeRate).method ≠ "sendrawtransaction" := by
    change ("fundrawtransaction" : Text) ≠ "sendrawtransaction"
    decide
  have sign : Step.sign.method ≠ "sendrawtransaction" := by decide
  cases inputs with
  | none =>
    rcases i with _ | _ | _ | i
    · have same : .fund feeRate = next := Option.some.inj after
      exact absurd sends (same ▸ fund)
    · have same : .sign = next := Option.some.inj after
      exact absurd sends (same ▸ sign)
    · exact ⟨(Option.some.inj here).symm, (Option.some.inj after).symm⟩
    · cases i <;> cases after
  | some inputs =>
    rcases i with _ | _ | i
    · have same : .sign = next := Option.some.inj after
      exact absurd sends (same ▸ sign)
    · exact ⟨(Option.some.inj here).symm, (Option.some.inj after).symm⟩
    · cases i <;> cases after

theorem textOf_eq_some {v : Json} {t : Text} (h : textOf v = some t) : v = .text t := by
  cases v with
  | text => exact congrArg Json.text (Option.some.inj h)
  | _ => cases h

theorem signedOf_eq_some {v : Json} {t : Text} (h : signedOf v = some t) : ∃ fields,
    v = .object fields ∧ ((Json.lookup "complete" fields).getD .null).truthy = true ∧
      Json.lookup "hex" fields = some (.text t) := by
  cases v with
  | object fields =>
    rw [signedOf_object] at h
    split at h
    · rename_i complete
      refine ⟨fields, rfl, complete, ?_⟩
      change textOf ((Json.lookup "hex" fields).getD .null) = some t at h
      cases found : Json.lookup "hex" fields with
      | none =>
        rw [found] at h
        cases h
      | some w =>
        rw [found] at h
        exact congrArg some (textOf_eq_some h)
    · cases h
  | _ => cases h

namespace Passage

section
variable {url : Text} {outputs : Outputs} {feeRate : Option Decimal} {inputs : Option (List Json)}
  {given : Json} {made : List (Request × Reply)} {out : Except Failure Text}
  (h : Passage url feeRate (steps outputs feeRate inputs) given made out)
include h

theorem started (reach : Reaches url)
    (sends : Sends [given, outputsJson outputs]) : ∃ p, made[0]? = some p := by
  obtain ⟨rest, opening⟩ : ∃ rest, steps outputs feeRate inputs = .create outputs :: rest := by
    cases inputs <;> exact ⟨_, rfl⟩
  refine (h.starts opening).resolve_right fun ⟨_, blocked⟩ => ?_
  obtain unsent | ⟨funding, -⟩ := blocked reach
  · exact unsent sends
  · have other : (Step.create outputs).method ≠ (Step.fund feeRate).method := by
      change ("createrawtransaction" : Text) ≠ "fundrawtransaction"
      decide
    exact other (congrArg Step.method funding)

theorem continued (reach : Reaches url)
    {i : Nat} {p : Request × Reply} {step next : Step} {v : Json} {t : Text}
    (here : made[i]? = some p) (stepped : (steps outputs feeRate inputs)[i]? = some step)
    (after : (steps outputs feeRate inputs)[i + 1]? = some next) (accepted : Accepted p.2 v)
    (picked : step.pick v = some t) :
    (∃ q, made[i + 1]? = some q) ∨ (∃ d, out = .error (.defect d)) ∧
      (t.isEncodable = false ∨ next = .fund feeRate ∧ ¬Comparable feeRate) := by
  have follows := h.follows reach here stepped after accepted picked
  rwa [steps_blocked_iff after t] at follows

theorem signed {q : Request × Reply} (here : q ∈ made)
    (sends : q.1.method = "sendrawtransaction") :
    ∃ p ∈ made, ∃ fields t, p.1.method = "signrawtransactionwithwallet" ∧
      Accepted p.2 (.object fields) ∧ ((Json.lookup "complete" fields).getD .null).truthy = true ∧
        Json.lookup "hex" fields = some (.text t) ∧ q.1.params = [.text t] := by
  obtain ⟨i, there⟩ := List.mem_iff_getElem?.mp here
  obtain ⟨next, after, own⟩ := h.method_eq there
  cases i with
  | zero =>
    have first : next = .create outputs := by cases inputs <;> exact (Option.some.inj after).symm
    rw [own, first] at sends
    exact absurd sends (by change ("createrawtransaction" : Text) ≠ _; decide)
  | succ i =>
    have within : i < made.length := by
      have bound := (List.getElem?_eq_some_iff.mp there).1
      omega
    have before : made[i]? = some made[i] := List.getElem?_eq_getElem within
    obtain ⟨step, next', v, t, stepped, after', accepted, picked, params⟩ := h.threaded before there
    obtain ⟨step', stepped', signing⟩ := h.method_eq before
    cases after.symm.trans after'
    cases stepped.symm.trans stepped'
    obtain ⟨rfl, rfl⟩ := steps_before_send stepped after (own.symm.trans sends)
    obtain ⟨fields, rfl, complete, hex⟩ := signedOf_eq_some picked
    exact ⟨made[i], List.getElem_mem within, fields, t, signing, accepted, complete, hex, params⟩

theorem answers (txid : Text) :
    out = .ok txid ↔ made.length = (steps outputs feeRate inputs).length ∧
      ∃ p, made.getLast? = some p ∧ Accepted p.2 (.text txid) := by
  have last : (steps outputs feeRate inputs).getLast? = some .send := by cases inputs <;> rfl
  rw [h.succeeds txid]
  refine and_congr_right fun even => ?_
  unfold Handed
  cases made with
  | nil => cases inputs <;> cases even
  | cons p made =>
    rw [List.getLast?_cons, last]
    constructor
    · rintro ⟨_, v, ⟨⟩, accepted, picked⟩
      exact ⟨_, rfl, textOf_eq_some picked ▸ accepted⟩
    · rintro ⟨_, ⟨⟩, accepted⟩
      exact ⟨_, _, rfl, accepted, rfl⟩

end

end Passage

/-- Whatever the transport does, the requests of a broadcast are the first ones of its steps, and
each of them waits for the one before it to be accepted and works on the transaction that this has
handed on. If the node can be reached, then an accepted request is followed by the next one unless
what it has handed on has no UTF-8 form or funding has a rate that cannot be compared. Only a
transaction that is signed in full is sent. The answer is the text that sending has resulted in if
all steps were taken, and a failure of the node is one of the last request. -/
theorem broadcast_pipeline (r : Rpc) (outputs : Outputs) (feeRate : Option Decimal)
    (inputs : Option (List Json)) {env : Nat → Reaction}
    (transport : ∀ n, ∃ reply, (env n).reply = .ok reply) (d : Database) :
    let run := (r.broadcast outputs feeRate inputs).play env { database := d }
    let made := run.2.replies.reverse
    let steps := steps outputs feeRate inputs
    (made.map (·.1.method) <+: steps.map Step.method) ∧ (made.map (·.1.method)).Nodup ∧
    (∀ p, made[0]? = some p → p.1.params = [.list (inputs.getD []), outputsJson outputs]) ∧
    (∀ i p q, made[i]? = some p → made[i + 1]? = some q →
      ∃ step next v t, steps[i]? = some step ∧ steps[i + 1]? = some next ∧ Accepted p.2 v ∧
        step.pick v = some t ∧ q.1.params = .text t :: next.options) ∧
    (Reaches r.walletUrl → Sends [.list (inputs.getD []), outputsJson outputs] →
      ∃ p, made[0]? = some p) ∧
    (Reaches r.walletUrl → ∀ i p step next v t, made[i]? = some p → steps[i]? = some step →
      steps[i + 1]? = some next → Accepted p.2 v → step.pick v = some t →
      (∃ q, made[i + 1]? = some q) ∨ (∃ d, run.1 = .error (.defect d)) ∧
        (t.isEncodable = false ∨ next = .fund feeRate ∧ ¬Comparable feeRate)) ∧
    (∀ q ∈ made, q.1.method = "sendrawtransaction" → ∃ p ∈ made, ∃ fields t,
      p.1.method = "signrawtransactionwithwallet" ∧ Accepted p.2 (.object fields) ∧
        ((Json.lookup "complete" fields).getD .null).truthy = true ∧
          Json.lookup "hex" fields = some (.text t) ∧ q.1.params = [.text t]) ∧
    (∀ txid, run.1 = .ok txid ↔ made.length = steps.length ∧
      ∃ p, made.getLast? = some p ∧ Accepted p.2 (.text txid)) ∧
    (∀ method fault, run.1 = .error (.node method fault) →
      ∃ p, made.getLast? = some p ∧ p.1.method = method) := by
  intro run made steps
  obtain ⟨made', replies, passage⟩ :=
    takes_broadcast (r := r) transport outputs feeRate inputs { database := d }
  have same : made = made' := by
    change run.2.replies.reverse = made'
    rw [replies, List.reverse_append, List.reverse_reverse]
    rfl
  rw [← same] at passage
  have first (p : Request × Reply) (here : made[0]? = some p) :
      p.1.params = [.list (inputs.getD []), outputsJson outputs] := by
    obtain ⟨step, opening, params⟩ := passage.opens here
    have create : step = .create outputs := by cases inputs <;> exact (Option.some.inj opening).symm
    rw [params, create]
    rfl
  exact ⟨passage.order, passage.order.sublist.nodup (steps_nodup outputs feeRate inputs), first,
    fun _ _ _ here after => passage.threaded here after,
    fun reach sends => passage.started reach sends,
    fun reach _ _ _ _ _ _ here stepped after accepted picked =>
      passage.continued reach here stepped after accepted picked,
    fun _ here sends => passage.signed here sends, passage.answers,
    fun _ _ failed => passage.blamed failed⟩

/-- A node that funds and signs the transactions it is given, and answers all else by the text ab. -/
def signer (n : Nat) : Reaction :=
  if n = 3 ∨ n = 6 then answering
    (("\x7b\"result\":\x7b\"complete\":true,\"hex\":\"00\"\x7d\x7d" : Text).flatMap
      CodePoint.utf8) n
  else answering (("\x7b\"result\":\"ab\"\x7d" : Text).flatMap CodePoint.utf8) n

theorem signer_reply (n : Nat) : ∃ reply, (signer n).reply = .ok reply := by
  unfold signer
  split <;> exact answering_reply _ n

theorem broadcast_pipeline_signer :
    let run := (localNode.broadcast [] (some Fee.payoutRate) none).play signer { database := {} }
    (∀ n, ∃ reply, (signer n).reply = .ok reply) ∧ run.1 = .ok "ab" ∧
      run.2.replies.reverse.map (·.1.method) = ["createrawtransaction", "fundrawtransaction",
        "signrawtransactionwithwallet", "sendrawtransaction"] ∧
      ∃ p, run.2.replies.reverse.getLast? = some p ∧ Accepted p.2 (.text "ab") := by
  intro run
  obtain ⟨order, -, -, -, -, -, -, answers, -⟩ :=
    broadcast_pipeline localNode [] (some Fee.payoutRate) none signer_reply {}
  have sent : run.1.toOption = some "ab" := by decide +kernel
  have sent : run.1 = .ok "ab" := by
    cases out : run.1 with
    | ok txid =>
      rw [out] at sent
      exact congrArg Except.ok (Option.some.inj sent)
    | error e =>
      rw [out] at sent
      cases sent
  obtain ⟨all, last⟩ := (answers "ab").mp sent
  refine ⟨signer_reply, sent, order.eq_of_length ?_, last⟩
  rw [List.length_map, List.length_map, all]

end Rpc

end Faucet
