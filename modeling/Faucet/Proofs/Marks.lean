import Faucet.Proofs.Effect

/-!
What a cycle does to the ledger and asks of the wallet, in order. Each episode leaves marks of its
own, so that the stage of a cycle tells all that the cycle has done so far, and not only the table.
-/

set_option autoImplicit false

namespace Faucet

inductive CycleMark where
  | asked (c : Ledger.Change)
  | changed (c : Ledger.Change)
  | missed (c : Ledger.Change)
  | refused (c : Ledger.Change) (e : Failure)
  | payment (address : Text) (amount : Decimal)
  | call (outputs : Outputs) (answer : Except Failure Text)

def Query.marks : (q : Query) → q.Answer → List CycleMark
  | .enter (.transition c), r => .asked c :: (match r with
    | .ok _ => []
    | .error e => [.refused c e])
  | .session (.update c _), r => match r with
    | .ok true => [.changed c]
    | .ok false => [.missed c]
    | .error e => [.refused c e]
  | .payment address amount, _ => [.payment address amount]
  | .wallet (.broadcast outputs _ _), r => [.call outputs r]
  | _, _ => []

/-- An answer that the world may give: the clock does not fail. -/
def Query.Given : (q : Query) → q.Answer → Prop
  | .now, .error _ => False
  | _, _ => True

theorem Reaction.given (ρ : Reaction) (d : Database) (q : Query) : q.Given (ρ.answer d q).1 := by
  cases q <;> trivial

def Scene.marks (s : Scene) : List CycleMark :=
  s.log.reverse.flatMap fun x => x.query.marks x.answer

theorem Scene.marks_asked (s : Scene) (ρ : Reaction) (q : Query) :
    (s.asked ρ q).marks = s.marks ++ q.marks (ρ.answer s.database q).1 := by
  unfold marks asked
  rw [List.reverse_cons, List.flatMap_append, List.flatMap_singleton]

namespace Batch

def calls (b : Batch) (r : Row) (payment : Except Failure Text) : List CycleMark :=
  match b.outputs r with
  | .ok outputs => [.call outputs payment]
  | .error _ => []

/-- A payment that does not get to the node ends for the reason why it does not. -/
def Explains (b : Batch) (r : Row) (payment : Except Failure Text) : Prop :=
  ∀ e, b.outputs r = .error e → payment = .error e

def Closing.marks (c : Ledger.Change) : Closing → List CycleMark
  | .done _ => [.changed c]
  | .late => [.missed c]
  | .barred _ => []
  | .refused e => [.refused c e]

def paidMarks (b : Batch) (r : Row) (payment : Except Failure Text) : List CycleMark :=
  [.asked (claimOf r), .changed (claimOf r), .payment r.address r.amount] ++ b.calls r payment

def Episode.marks (b : Batch) : Episode → List CycleMark
  | .passed r none => [.asked (claimOf r), .missed (claimOf r)]
  | .passed r (some e) => [.asked (claimOf r), .refused (claimOf r) e]
  | .closed r _ payment closing =>
    b.paidMarks r payment ++ .asked (endOf r payment) :: closing.marks (endOf r payment)

def Episode.Explained (b : Batch) : Episode → Prop
  | .passed .. => True
  | .closed r _ payment _ => b.Explains r payment

namespace Stage

def marks (b : Batch) : Stage → List CycleMark
  | .listing | .listed .. | .finished _ => []
  | .ready past _ => past.flatMap (Episode.marks b)
  | .claiming past r _ => past.flatMap (Episode.marks b) ++ [.asked (claimOf r)]
  | .claimed past r _ _ =>
    past.flatMap (Episode.marks b) ++ [.asked (claimOf r), .changed (claimOf r)]
  | .calling past r _ _ _ => past.flatMap (Episode.marks b) ++
    [.asked (claimOf r), .changed (claimOf r), .payment r.address r.amount]
  | .paid past r _ payment _ => past.flatMap (Episode.marks b) ++ b.paidMarks r payment
  | .closing past r _ payment _ =>
    past.flatMap (Episode.marks b) ++ (b.paidMarks r payment ++ [.asked (endOf r payment)])
  | .raised before e => before.marks b ++ (match before with
    | .claiming _ r _ => [.refused (claimOf r) e]
    | .closing _ r _ payment _ => [.refused (endOf r payment) e]
    | _ => [])

def Explained (b : Batch) : Stage → Prop
  | .listing | .listed .. | .finished _ => True
  | .ready past _ | .claiming past _ _ | .claimed past _ _ _ => ∀ e ∈ past, e.Explained b
  | .calling past r _ outputs _ => (∀ e ∈ past, e.Explained b) ∧ b.outputs r = .ok outputs
  | .paid past r _ payment _ | .closing past r _ payment _ =>
    (∀ e ∈ past, e.Explained b) ∧ b.Explains r payment
  | .raised before _ => before.Explained b

section
variable {b : Batch} {past : List Episode} {r : Row} {moment : Moment} {rest : List Row}
  {payment : Except Failure Text} {e : Failure}

theorem marks_snoc (e : Episode) :
    marks b (.ready (past ++ [e]) rest) = past.flatMap (Episode.marks b) ++ e.marks b := by
  simp only [marks, List.flatMap_append, List.flatMap_singleton]

theorem marks_unclaimed : (unclaimed past r rest e).marks b =
    past.flatMap (Episode.marks b) ++ [.asked (claimOf r), .refused (claimOf r) e] := by
  refine unclaimed_cases past r rest e (marks_snoc _) ?_
  simp only [marks, List.append_assoc, List.cons_append, List.nil_append]

theorem marks_unclosed : (unclosed past r moment payment rest e).marks b =
    past.flatMap (Episode.marks b) ++ (b.paidMarks r payment ++
      [.asked (endOf r payment), .refused (endOf r payment) e]) := by
  refine unclosed_cases past r moment payment rest e (marks_snoc _) ?_
  simp only [marks, List.append_assoc, List.cons_append, List.nil_append]

theorem marks_ofPayment : (ofPayment b past r moment rest).marks b =
    past.flatMap (Episode.marks b) ++
      [.asked (claimOf r), .changed (claimOf r), .payment r.address r.amount] := by
  refine ofPayment_cases past r moment rest (fun e refused => ?_) fun _ _ => rfl
  simp only [marks, paidMarks, calls, refused, List.append_nil]

theorem marks_ofEntry : (ofEntry past r moment payment rest).marks b =
    past.flatMap (Episode.marks b) ++ (b.paidMarks r payment ++ [.asked (endOf r payment)]) :=
  ofEntry_cases past r moment payment rest (fun _ _ => marks_snoc _) fun _ => rfl

theorem explained_snoc (last : Episode) (h : ∀ e ∈ past, e.Explained b)
    (hlast : last.Explained b) : ∀ e ∈ past ++ [last], e.Explained b := by
  intro e he
  rcases List.mem_append.mp he with he | he
  · exact h e he
  · rw [List.mem_singleton.mp he]
    exact hlast

theorem Moves.explained {s s' : Stage} {q : Query} {r : q.Answer} (m : Moves b s q r s')
    (h : s.Explained b) : s'.Explained b := by
  cases m with
  | log | notify | enterList | claimClock | endClock => exact h
  | enterListFails e | listFails e => exact unlisted_cases e (fun _ => trivial) trivial
  | list rows =>
    exact ofRows_cases rows (fun _ => trivial) (fun _ => trivial) fun _ => trivial
  | balances rows needed answer =>
    refine ofBalances_cases rows needed answer (fun _ _ => trivial) (fun _ => trivial) ?_
    exact fun _ he => (List.not_mem_nil he).elim
  | enterClaim | claim => exact h
  | enterClaimFails past x rest e | claimClockFails past x rest e | claimFails past x rest _ e =>
    exact unclaimed_cases past x rest e (explained_snoc (.passed _ _) h trivial) h
  | claimLate => exact explained_snoc (.passed _ _) h trivial
  | payment past x moment rest =>
    refine ofPayment_cases past x moment rest (fun e refused => ⟨h, fun e' refused' => ?_⟩)
      fun outputs ho => ⟨h, ho⟩
    rw [refused] at refused'
    cases refused'
    rfl
  | call past x moment outputs rest answer =>
    refine ⟨h.1, fun e refused => ?_⟩
    rw [h.2] at refused
    cases refused
  | enterEnd past x moment payment rest =>
    exact ofEntry_cases past x moment payment rest
      (fun _ _ => explained_snoc (.closed _ _ _ _) h.1 h.2) fun _ => h
  | enterEndFails past x moment payment rest e | endClockFails past x moment payment rest e
  | closeFails past x moment payment rest _ e =>
    exact unclosed_cases past x moment payment rest e
      (explained_snoc (.closed _ _ _ _) h.1 h.2) h
  | close | closeLate => exact explained_snoc (.closed _ _ _ _) h.1 h.2

end

theorem Moves.marks {b : Batch} {s s' : Stage} {q : Query} {r : q.Answer} (m : Moves b s q r s')
    (explained : s.Explained b) (given : q.Given r) : s'.marks b = s.marks b ++ q.marks r := by
  cases m with
  | log | notify | claimClock | endClock => exact (List.append_nil _).symm
  | enterList => rfl
  | enterListFails e | listFails e => exact unlisted_cases e (fun _ => rfl) rfl
  | list rows => exact ofRows_cases rows (fun _ => rfl) (fun _ => rfl) fun _ => rfl
  | balances rows needed answer =>
    exact ofBalances_cases rows needed answer (fun _ _ => rfl) (fun _ => rfl) rfl
  | enterClaim => rfl
  | enterClaimFails => exact marks_unclaimed
  | claimClockFails | endClockFails => exact given.elim
  | claim => simp only [Stage.marks, Query.marks, List.append_assoc, List.singleton_append]
  | claimLate =>
    rw [marks_snoc]
    simp only [Stage.marks, Episode.marks, Query.marks, List.append_assoc, List.singleton_append]
  | claimFails =>
    rw [marks_unclaimed]
    simp only [Stage.marks, Query.marks, List.append_assoc, List.singleton_append]
  | payment =>
    rw [marks_ofPayment]
    simp only [Stage.marks, Query.marks, List.append_assoc, List.cons_append, List.nil_append]
  | call past x moment outputs rest answer =>
    simp only [Stage.marks, Query.marks, paidMarks, calls, explained.2, List.append_assoc]
  | enterEnd =>
    rw [marks_ofEntry]
    simp only [Stage.marks, Query.marks, List.append_assoc]
  | enterEndFails | closeFails =>
    rw [marks_unclosed]
    simp only [Stage.marks, Query.marks, List.append_assoc, List.cons_append, List.nil_append]
  | close | closeLate =>
    rw [marks_snoc]
    simp only [Stage.marks, Episode.marks, Closing.marks, Query.marks, List.append_assoc,
      List.cons_append, List.nil_append]

end Stage

end Batch

end Faucet
