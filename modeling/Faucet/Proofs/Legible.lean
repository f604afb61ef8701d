import Faucet.Proofs.Wire

/-!
Which replies of the node end a call of the wallet in a value or in a failure of the node. The body
has to be JSON that the reader takes, or plainly no JSON; and what a call goes on to compute with or
to send has to be of a kind that bears it. All else that the node may answer is refused by name.
-/

set_option autoImplicit false

namespace Faucet

/-- A value, or a failure of the node. -/
def Surfaces {α : Type} : Except Failure α → Prop
  | .ok _ => True
  | .error (.node ..) => True
  | .error _ => False

instance {α : Type} : (x : Except Failure α) → Decidable (Surfaces x)
  | .ok _ => .isTrue trivial
  | .error (.node ..) => .isTrue trivial
  | .error (.faucet _) | .error (.configuration _) | .error (.store _) | .error (.tier _)
  | .error (.address _) | .error (.defect _) => .isFalse id

theorem surfaces_error_iff {α β : Type} (e : Failure) :
    Surfaces (.error e : Except Failure α) ↔ Surfaces (.error e : Except Failure β) := by
  cases e <;> exact Iff.rfl

namespace Rpc

/-- The body is JSON within the limits of the reader, or no JSON. -/
def Readable (body : Octets) : Prop :=
  ∃ t, Json.decode body = .ok t ∧ ((∃ v, Json.ofText t = .ok v) ∨ Json.ofText t = .error .malformed)

def IsAmount (v : Json) : Prop := ∃ d, amount v = .ok d

/-- The parts of a balance, as far as they are there, are amounts. -/
def Balanced (v : Json) : Prop :=
  ∀ reply mine, v = .object reply →
    (Json.lookup "mine" reply).getD (.object []) = .object mine →
      ∀ part ∈ (["trusted", "untrusted_pending", "immature"] : List Text),
        IsAmount ((Json.lookup part mine).getD (.int 0))

/-- Every output that is listed has a transaction, a place in it and an amount. -/
def Listed (v : Json) : Prop :=
  ∀ outputs, v = .list outputs → ∀ output ∈ outputs, ∃ fields sum, output = .object fields ∧
    (Json.lookup "txid" fields).isSome = true ∧ (Json.lookup "vout" fields).isSome = true ∧
      Json.lookup "amount" fields = some sum ∧ IsAmount sum

/-! What a result hands on to the next request: a transaction that it is, or that it holds. -/

def textOf : Json → Option Text
  | .text t => some t
  | _ => none

def hexOf : Json → Option Text
  | .object fields => textOf ((Json.lookup "hex" fields).getD .null)
  | _ => none

def signedOf : Json → Option Text
  | .object fields =>
    if ((Json.lookup "complete" fields).getD .null).truthy then hexOf (.object fields) else none
  | _ => none

def Passes (pick : Json → Option Text) (v : Json) : Prop :=
  ∀ t, pick v = some t → t.isEncodable = true

/-- What calls ask of the results that they go on to work with. -/
def demands : List (Text × (Json → Prop)) :=
  [("getbalances", Balanced), ("listunspent", Listed), ("createrawtransaction", Passes textOf),
   ("fundrawtransaction", Passes hexOf), ("signrawtransactionwithwallet", Passes signedOf)]

def Usable (method : Text) (v : Json) : Prop :=
  match Entries.get? demands method with
  | some demand => demand v
  | none => True

theorem usable_of_free {method : Text} (free : Entries.get? demands method = none) (v : Json) :
    Usable method v := by
  unfold Usable
  rw [free]
  trivial

def Legible (method : Text) : Reply → Prop
  | .timedOut _ | .lost _ => True
  | .response status body => status = 401 ∨ status = 403 ∨
    Readable body ∧ ∀ v, result method status body = .ok v → Usable method v

def Blames {α : Type} (x : Except Failure α) : Prop := ∀ e, x = .error e → ∃ d, e = .defect d

theorem Blames.surfaces_iff {α : Type} {x : Except Failure α} (h : Blames x) :
    Surfaces x ↔ ∃ a, x = .ok a := by
  cases x with
  | ok a => exact iff_of_true trivial ⟨a, rfl⟩
  | error e =>
    obtain ⟨d, rfl⟩ := h e rfl
    exact iff_of_false id nofun

theorem blames_ok {α : Type} (a : α) : Blames (.ok a : Except Failure α) := nofun

theorem blames_defect {α : Type} (d : Defect) : Blames (.error (.defect d) : Except Failure α) := by
  rintro _ ⟨⟩
  exact ⟨d, rfl⟩

theorem blames_bind {α β : Type} {x : Except Failure α} {f : α → Except Failure β} (hx : Blames x)
    (hf : ∀ a, Blames (f a)) : Blames (x >>= f) := by
  cases x with
  | ok a => exact hf a
  | error e =>
    obtain ⟨d, rfl⟩ := hx e rfl
    exact blames_defect d

theorem blames_map {α β : Type} {x : Except Failure α} (f : α → β) (hx : Blames x) :
    Blames (x.map f) := by
  cases x with
  | ok a => exact blames_ok _
  | error e =>
    obtain ⟨d, rfl⟩ := hx e rfl
    exact blames_defect d

theorem blames_tupleWord (word refusal : Text) (v : Json) : Blames (tupleWord word refusal v) := by
  unfold tupleWord malformedTuple
  split
  · split
    · exact blames_ok _
    · exact blames_defect _
  · exact blames_ok _
  · exact blames_defect _

theorem mapM_cons_eq {α β : Type} (f : α → Except Failure β) (a : α) (l : List α) :
    (a :: l).mapM f = f a >>= fun b => l.mapM f >>= fun bs => .ok (b :: bs) := List.mapM_cons

theorem blames_mapM {α β : Type} {f : α → Except Failure β} (hf : ∀ a, Blames (f a)) (l : List α) :
    Blames (l.mapM f) := by
  induction l with
  | nil => exact blames_ok _
  | cons a l ih =>
    rw [mapM_cons_eq]
    exact blames_bind (hf a) fun b => blames_bind ih fun bs => blames_ok _

theorem mapM_ok_iff {α β : Type} {f : α → Except Failure β} (l : List α) :
    (∃ bs, l.mapM f = .ok bs) ↔ ∀ a ∈ l, ∃ b, f a = .ok b := by
  induction l with
  | nil => exact iff_of_true ⟨[], rfl⟩ nofun
  | cons a l ih =>
    rw [mapM_cons_eq, List.forall_mem_cons, ← ih]
    simp only [bind_eq_ok]
    constructor
    · rintro ⟨_, b, hb, bs, hbs, _⟩
      exact ⟨⟨b, hb⟩, bs, hbs⟩
    · rintro ⟨⟨b, hb⟩, bs, hbs⟩
      exact ⟨_, b, hb, bs, hbs, rfl⟩

theorem blames_tupleSign (v : Json) : Blames (tupleSign v) := by
  refine blames_bind (blames_tupleWord _ _ v) fun n => ?_
  split
  · exact blames_ok _
  · split
    · exact blames_ok _
    · exact blames_defect _

theorem blames_tupleKind (v : Json) : Blames (tupleKind v) := by
  unfold tupleKind malformedTuple
  split
  · split
    · exact blames_ok _
    · split
      · exact blames_ok _
      · split
        · exact blames_ok _
        · exact blames_defect _
  · exact blames_map _ (blames_tupleWord _ _ _)

theorem blames_tupleDigits (v : Json) : Blames (tupleDigits v) := by
  unfold tupleDigits
  split
  · refine blames_mapM (fun v => blames_bind (blames_tupleWord _ _ v) fun n => ?_) _
    split
    · exact blames_ok _
    · exact blames_defect _
  · exact blames_defect _

theorem blames_tupleAmount (sign digits exponent : Json) :
    Blames (tupleAmount sign digits exponent) := by
  refine blames_bind (blames_tupleSign sign) fun negative =>
    blames_bind (blames_tupleKind exponent) fun kind =>
      blames_bind (blames_tupleDigits digits) fun ds => ?_
  cases kind with
  | infinite => exact blames_ok _
  | nan => exact blames_ok _
  | finite e =>
    dsimp only
    split
    · exact blames_ok _
    · exact blames_defect _

theorem blames_amount (v : Json) : Blames (amount v) := by
  unfold amount malformedTuple
  split
  · exact blames_ok _
  · exact blames_ok _
  · exact blames_ok _
  · exact blames_ok _
  · rename_i t
    cases Decimal.ofText t with
    | ok d => exact blames_ok d
    | error fault => exact blames_defect (.arithmetic fault)
  · exact blames_tupleAmount _ _ _
  · exact blames_defect _
  · exact blames_defect _

theorem blames_need (name : Text) (fields : List (Text × Json)) :
    Blames (match Json.lookup name fields with
      | some v => .ok v
      | none => .error (.defect (.key name))) := by
  split
  · exact blames_ok _
  · exact blames_defect _

theorem blames_unspentOf (v : Json) : Blames (unspentOf v) := by
  cases v with
  | object fields =>
    refine blames_bind (blames_need "txid" fields) fun txid =>
      blames_bind (blames_need "vout" fields) fun vout =>
        blames_bind (blames_need "amount" fields) fun sum =>
          blames_bind (blames_amount sum) fun d => blames_ok _
  | _ => exact blames_defect _

theorem unspentOf_object_ok_iff (fields : List (Text × Json)) :
    (∃ u, unspentOf (.object fields) = .ok u) ↔ (Json.lookup "txid" fields).isSome = true ∧
      (Json.lookup "vout" fields).isSome = true ∧
        ∃ sum, Json.lookup "amount" fields = some sum ∧ IsAmount sum := by
  unfold unspentOf
  dsimp only
  cases Json.lookup "txid" fields with
  | none => exact iff_of_false nofun nofun
  | some txid =>
    cases Json.lookup "vout" fields with
    | none => exact iff_of_false nofun nofun
    | some vout =>
      cases Json.lookup "amount" fields with
      | none => exact iff_of_false nofun nofun
      | some sum =>
        change (∃ u, amount sum >>= _ = .ok u) ↔ _
        cases read : amount sum with
        | ok d => exact iff_of_true ⟨_, rfl⟩ ⟨rfl, rfl, sum, rfl, d, read⟩
        | error e =>
          refine iff_of_false nofun ?_
          rintro ⟨_, _, _, ⟨⟩, d, taken⟩
          cases read.symm.trans taken

theorem unspentOf_ok_iff (v : Json) : (∃ u, unspentOf v = .ok u) ↔ ∃ fields sum, v = .object fields ∧
    (Json.lookup "txid" fields).isSome = true ∧ (Json.lookup "vout" fields).isSome = true ∧
      Json.lookup "amount" fields = some sum ∧ IsAmount sum := by
  cases v with
  | object fields =>
    rw [unspentOf_object_ok_iff]
    constructor
    · rintro ⟨txid, vout, sum, here, taken⟩
      exact ⟨fields, sum, rfl, txid, vout, here, taken⟩
    · rintro ⟨_, sum, ⟨⟩, txid, vout, here, taken⟩
      exact ⟨txid, vout, sum, here, taken⟩
  | _ => exact iff_of_false nofun fun ⟨_, _, same, _⟩ => nomatch same

theorem surfaces_unspent (method : Text) (v : Json) :
    Surfaces (expectList method v >>= fun outputs => outputs.mapM unspentOf) ↔ Listed v := by
  cases v with
  | list outputs =>
    change Surfaces (outputs.mapM unspentOf) ↔ _
    rw [(blames_mapM blames_unspentOf outputs).surfaces_iff, mapM_ok_iff]
    refine ⟨?_, fun h output here => (unspentOf_ok_iff output).mpr (h outputs rfl output here)⟩
    rintro h _ ⟨⟩ output here
    exact (unspentOf_ok_iff output).mp (h output here)
  | _ => exact iff_of_true trivial nofun

/-- The three parts of a balance are all amounts, or the first one that is none is a defect. -/
theorem surfaces_parts (x y z : Json) :
    Surfaces (amount x >>= fun trusted => amount y >>= fun untrusted => amount z >>= fun immature =>
      (.ok { trusted, untrusted, immature } : Except Failure Balances)) ↔
        IsAmount x ∧ IsAmount y ∧ IsAmount z := by
  have blames : Blames (amount x >>= fun trusted => amount y >>= fun untrusted =>
      amount z >>= fun immature =>
        (.ok { trusted, untrusted, immature } : Except Failure Balances)) :=
    blames_bind (blames_amount x) fun _ => blames_bind (blames_amount y) fun _ =>
      blames_bind (blames_amount z) fun _ => blames_ok _
  rw [blames.surfaces_iff]
  simp only [bind_eq_ok]
  constructor
  · rintro ⟨_, trusted, hx, untrusted, hy, immature, hz, _⟩
    exact ⟨⟨trusted, hx⟩, ⟨untrusted, hy⟩, immature, hz⟩
  · rintro ⟨⟨trusted, hx⟩, ⟨untrusted, hy⟩, immature, hz⟩
    exact ⟨_, trusted, hx, untrusted, hy, immature, hz, rfl⟩

theorem surfaces_balancesOf (v : Json) : Surfaces (balancesOf v) ↔ Balanced v := by
  cases v with
  | object reply =>
    unfold Balanced
    cases own : (Json.lookup "mine" reply).getD (.object []) with
    | object mine =>
      have opened : balancesOf (.object reply) =
          (amount ((Json.lookup "trusted" mine).getD (.int 0)) >>= fun trusted =>
            amount ((Json.lookup "untrusted_pending" mine).getD (.int 0)) >>= fun untrusted =>
              amount ((Json.lookup "immature" mine).getD (.int 0)) >>= fun immature =>
                .ok { trusted, untrusted, immature }) := by
        change (expectObject "getbalances" ((Json.lookup "mine" reply).getD (.object [])) >>= _) = _
        rw [own]
        rfl
      rw [opened, surfaces_parts]
      constructor
      · rintro ⟨trusted, untrusted, immature⟩ _ _ ⟨⟩ same part here
        cases own.symm.trans same
        rcases here with _ | ⟨_, _ | ⟨_, _ | ⟨_, ⟨⟩⟩⟩⟩
        · exact trusted
        · exact untrusted
        · exact immature
      · intro parts
        have part := parts reply mine rfl own
        exact ⟨part _ (.head _), part _ (.tail _ (.head _)), part _ (.tail _ (.tail _ (.head _)))⟩
    | _ =>
      refine iff_of_true ?_ ?_
      · change Surfaces (expectObject "getbalances" ((Json.lookup "mine" reply).getD (.object [])) >>= _)
        rw [own]
        trivial
      · rintro _ mine ⟨⟩ same
        cases own.symm.trans same
  | _ => exact iff_of_true trivial nofun

theorem expectText_of_textOf {v : Json} {t : Text} (h : textOf v = some t) (method : Text) :
    expectText method v = .ok t := by
  cases v with
  | text => exact congrArg Except.ok (Option.some.inj h)
  | _ => cases h

theorem surfaces_expectText (method : Text) (v : Json) : Surfaces (expectText method v) := by
  cases v <;> trivial

theorem surfaces_expectList (method : Text) (v : Json) : Surfaces (expectList method v) := by
  cases v <;> trivial

theorem surfaces_readBody (method : Text) (status : Nat) (body : Octets) :
    Surfaces (readBody method status body) ↔ Readable body := by
  unfold readBody Readable
  cases Json.decode body with
  | error fault => exact iff_of_false id nofun
  | ok t =>
    dsimp only
    cases read : Json.ofText t with
    | ok v => exact iff_of_true trivial ⟨t, rfl, .inl ⟨v, read⟩⟩
    | error e =>
      cases e with
      | malformed => exact iff_of_true trivial ⟨t, rfl, .inr read⟩
      | _ =>
        refine iff_of_false id ?_
        rintro ⟨_, ⟨⟩, ⟨v, taken⟩ | taken⟩
        · cases read.symm.trans taken
        · cases read.symm.trans taken

theorem surfaces_bind {α β : Type} {x : Except Failure α} {f : α → Except Failure β}
    (h : ∀ a, Surfaces (f a)) : Surfaces (x >>= f) ↔ Surfaces x := by
  cases x with
  | ok a => exact iff_of_true (h a) trivial
  | error e => exact surfaces_error_iff e

/-- Once a body has been read, whatever is wrong with it is a failure of the node. -/
theorem surfaces_result (method : Text) (status : Nat) (body : Octets) :
    Surfaces (result method status body) ↔ status = 401 ∨ status = 403 ∨ Readable body := by
  unfold result
  split
  · rename_i unauthorized
    exact iff_of_true trivial (.inl unauthorized)
  · rename_i authorized
    split
    · rename_i forbidden
      exact iff_of_true trivial (.inr (.inl forbidden))
    · rename_i allowed
      rw [surfaces_bind, surfaces_readBody]
      · exact ⟨fun h => .inr (.inr h), fun h => (h.resolve_left authorized).resolve_left allowed⟩
      · intro reply
        cases reply with
        | object fields =>
          dsimp only
          split
          · trivial
          · split <;> trivial
        | _ => trivial

theorem readable_of_result {method : Text} {status : Nat} {body : Octets} {v : Json}
    (h : result method status body = .ok v) : Readable body := by
  have taken : Surfaces (result method status body) := by
    rw [h]
    trivial
  rcases (surfaces_result method status body).mp taken with rfl | rfl | readable
  · cases h
  · cases h
  · exact readable

theorem legible_response_iff {method : Text} {status : Nat} {body : Octets} {v : Json}
    (h : result method status body = .ok v) : Legible method (.response status body) ↔
      Usable method v := by
  constructor
  · rintro (rfl | rfl | ⟨_, usable⟩)
    · cases h
    · cases h
    · exact usable v h
  · intro usable
    refine .inr (.inr ⟨readable_of_result h, fun v' h' => ?_⟩)
    cases h.symm.trans h'
    exact usable

theorem legible_of_error {method : Text} {status : Nat} {body : Octets} {e : Failure}
    (h : result method status body = .error e) : Legible method (.response status body) ↔
      Surfaces (result method status body) := by
  rw [surfaces_result]
  refine or_congr_right (or_congr_right (and_iff_left fun v taken => ?_))
  cases h.symm.trans taken

end Rpc

end Faucet
