import Faucet.Proofs.Exchange
import Faucet.Proofs.Lasting
import Faucet.Proofs.Narration
import Faucet.Proofs.Opening
import Faucet.Proofs.StoreFaults
import Faucet.Proofs.Yield

/-!
What the purse shows, whatever calls of it follow each other: the balance of the last reading that was
above zero. A reading that fails, or finds nothing, leaves it as it was. Whoever fills the purse reads
again, with one wait before each further reading, until a reading is above zero or no attempt is left.
This is told of the questions of a call and their answers, and so holds of a call that a world answers.
-/

set_option autoImplicit false

namespace Faucet

namespace Purse

open Job

abbrev Reading := Except Failure Balances

namespace Reading

/-- Finite balances of magnitude 10¹⁹ at most, or a failure that is foreseen. -/
def Fair : Reading → Prop
  | .ok b => b.trusted.Within 19 ∧ b.untrusted.Within 19
  | .error e => e.isForeseen = true

/-- The available balance, if it is above zero. -/
def found? : Reading → Option Decimal
  | .ok b => b.available.toOption.filter fun balance => 0 < balance.toRat
  | .error _ => none

theorem found?_ok {b : Balances} {z : Decimal} (sum : b.available = .ok z) :
    found? (.ok b) = if 0 < z.toRat then some z else none := by
  change b.available.toOption.filter _ = _
  rw [sum]
  exact Option.filter_some.trans (by simp only [decide_eq_true_eq])

end Reading

/-- What is asked for a reading, and because of what it finds. -/
inductive Looks : Reading → List Asked → Prop
  | found {r : Reading} {balance : Decimal} (found : r.found? = some balance) : Looks r
    [⟨.wallet .balances, r⟩, ⟨.cache balance, ()⟩, ⟨.notify (.balanceRefreshed balance), ()⟩]
  | missed {r : Reading} (missed : r.found? = none) (level : Level) (message : Text) : Looks r
    [⟨.wallet .balances, r⟩, ⟨.log level message, ()⟩]

def Takes (r : Reading) (rest : Job Bool) : Prop :=
  match r.found? with
  | some balance => rest = .ask (.cache balance) fun _ =>
      .ask (.notify (.balanceRefreshed balance)) fun _ => .done true
  | none => ∃ level message, rest = .ask (.log level message) fun _ => .done false

theorem refresh_takes :
    ∃ next, refresh = .ask (.wallet .balances) next ∧ ∀ r, Reading.Fair r → Takes r (next r) := by
  refine ⟨_, rfl, fun r fair => ?_⟩
  cases r with
  | error e =>
    cases e with
    | defect d => cases fair
    | _ => exact ⟨_, _, rfl⟩
  | ok b =>
    obtain ⟨z, sum, within⟩ := Balances.available_within fair.1 fair.2
    have finite : z.isFinite = true := by
      cases z with
      | finite => rfl
      | infinite | nan => exact within.elim
    change Takes (.ok b) ((Job.ofArithmetic b.available).bind fun balance =>
      (Job.ofArithmetic (balance.le .zero)).bind _)
    unfold Takes
    rw [Reading.found?_ok sum, sum]
    change match (if 0 < z.toRat then some z else none) with
      | some balance => (Job.ofArithmetic (z.le .zero)).bind _ = _
      | none => ∃ level message, (Job.ofArithmetic (z.le .zero)).bind _ = _
    rw [Decimal.le_zero_eq ⟨finite, rfl⟩]
    by_cases above : 0 < z.toRat
    · rw [if_pos above, decide_eq_false (not_le.mpr above)]
      rfl
    · rw [if_neg above, decide_eq_true (not_lt.mp above)]
      exact ⟨_, _, rfl⟩

inductive Beat where
  | reading
  | wait (span : Option Nat)

def beatOf? : Query → Option Beat
  | .wallet .balances => some .reading
  | .sleep us => some (.wait (some us))
  | .rest => some (.wait none)
  | _ => none

def readingOf? : Asked → Option Reading
  | ⟨.wallet .balances, r⟩ => some r
  | _ => none

def reportOf? : Asked → Option Decimal
  | ⟨.notify (.balanceRefreshed balance), _⟩ => some balance
  | _ => none

def beats (log : List Asked) : List Beat := log.filterMap fun a => beatOf? a.query

def readings (log : List Asked) : List Reading := log.filterMap readingOf?

def reports (log : List Asked) : List Decimal := log.filterMap reportOf?

def finds (log : List Asked) : List Decimal := (readings log).filterMap Reading.found?

def put (value : Decimal) : Asked → Decimal
  | ⟨.cache balance, _⟩ => balance
  | _ => value

def held (value : Decimal) (log : List Asked) : Decimal := log.foldl put value

/-- An answer that the purse, the wallet and the clock may give. A wait without an end has none. -/
def Answered (value : Decimal) : Asked → Prop
  | ⟨.wallet .balances, r⟩ => Reading.Fair r
  | ⟨.cached, shown⟩ => shown = value
  | ⟨.rest, _⟩ => False
  | _ => True

def Honest : Decimal → List Asked → Prop
  | _, [] => True
  | value, a :: log => Answered value a ∧ Honest (put value a) log

/-- Every find is reported, and the last one is in the purse. -/
structure Shows (log : List Asked) : Prop where
  reports : reports log = finds log
  held : ∀ value, held value log = (finds log).getLastD value

section
variable {value : Decimal} {log log' own : List Asked} {r : Reading}

theorem beats_append : beats (log ++ log') = beats log ++ beats log' := List.filterMap_append

theorem readings_append : readings (log ++ log') = readings log ++ readings log' :=
  List.filterMap_append

theorem finds_append : finds (log ++ log') = finds log ++ finds log' := by
  unfold finds
  rw [readings_append, List.filterMap_append]

theorem getLastD_finds_append : (finds (log ++ log')).getLastD value =
    (finds log').getLastD ((finds log).getLastD value) := by
  rw [finds_append]
  simp only [List.getLastD_eq_getLast?, List.getLast?_append]
  cases (finds log').getLast? <;> rfl

theorem held_append : held value (log ++ log') = held (held value log) log' := List.foldl_append

theorem honest_append :
    Honest value (log ++ log') ↔ Honest value log ∧ Honest (held value log) log' := by
  induction log generalizing value with
  | nil => exact ⟨fun h => ⟨trivial, h⟩, fun h => h.2⟩
  | cons a log ih => exact (and_congr_right' ih).trans and_assoc.symm

theorem Shows.append (h : Shows log) (h' : Shows log') : Shows (log ++ log') where
  reports := by
    rw [finds_append, ← h.reports, ← h'.reports]
    exact List.filterMap_append
  held value := by
    rw [held_append, h.held, h'.held, getLastD_finds_append]

theorem shows_nil : Shows [] := ⟨rfl, fun _ => rfl⟩

theorem shows_log (level : Level) (message : Text) : Shows [⟨.log level message, ()⟩] :=
  ⟨rfl, fun _ => rfl⟩

theorem shows_sleep (us : Nat) : Shows [⟨.sleep us, ()⟩] := ⟨rfl, fun _ => rfl⟩

theorem shows_cached (shown : Decimal) : Shows [⟨.cached, shown⟩] := ⟨rfl, fun _ => rfl⟩

namespace Looks

theorem readings_eq (h : Looks r own) : readings own = [r] := by cases h <;> rfl

theorem beats_eq (h : Looks r own) : beats own = [.reading] := by cases h <;> rfl

theorem finds_eq (h : Looks r own) : finds own = r.found?.toList := by
  unfold finds
  rw [h.readings_eq]
  exact List.filterMap_cons.trans (by cases r.found? <;> rfl)

theorem shows (h : Looks r own) : Shows own := by
  refine ⟨?_, fun value => ?_⟩ <;> rw [h.finds_eq] <;> cases h with
  | found found => rw [found]; rfl
  | missed missed level message => rw [missed]; rfl

end Looks

end

/-! ### Up to a wait -/

/-- How a job has come out so far: it has an answer, has failed, or was left with a question that takes
time, be it that it still waits or that it was given up. -/
inductive Outcome (α : Type) where
  | answered (a : α)
  | failed (e : Failure)
  | left (q : Query)

inductive Stops {α : Type} : Job α → Outcome α → Prop
  | answered (a : α) : Stops (.done a) (.answered a)
  | failed (e : Failure) : Stops (.fail e) (.failed e)
  | left {q : Query} {next : q.Answer → Job α} (long : ¬q.isPrompt) : Stops (.ask q next) (.left q)

section
variable {α β : Type} {value : Decimal} {log : List Asked} {j : Job β} {o : Outcome β}

theorem walks_answered {q : Query} {next : q.Answer → Job β} (walk : (Job.ask q next).Walks log j)
    (stops : Stops j o) (prompt : q.isPrompt) :
    ∃ r rest, log = ⟨q, r⟩ :: rest ∧ (next r).Walks rest j := by
  cases walk with
  | stay => cases stops with
    | left long => exact absurd prompt long
  | turn r rest => exact ⟨r, _, rfl, rest⟩

theorem walks_cached {j : Job Decimal} {o : Outcome Decimal} (walk : Job.cached.Walks log j)
    (stops : Stops j o) : ∃ shown, log = [⟨.cached, shown⟩] ∧ o = .answered shown := by
  obtain ⟨shown, _, rfl, ended⟩ := walks_answered walk stops trivial
  cases ended
  cases stops
  exact ⟨shown, rfl, rfl⟩

theorem walks_refresh {f : Bool → Job β} (walk : (refresh.bind f).Walks log j) (stops : Stops j o)
    (honest : Honest value log) :
    (log = [] ∧ o = .left (.wallet .balances)) ∨
      ∃ r own rest, log = own ++ rest ∧ Looks r own ∧ (f r.found?.isSome).Walks rest j := by
  obtain ⟨next, asks, takes⟩ := refresh_takes
  rw [asks] at walk
  cases walk with
  | stay => cases stops with
    | left long => exact .inl ⟨rfl, rfl⟩
  | turn r walk =>
    change ((next r).bind f).Walks _ j at walk
    have taken := takes r honest.1
    unfold Takes at taken
    refine .inr ⟨r, ?_⟩
    cases found : Reading.found? r with
    | some balance =>
      rw [found] at taken
      rw [taken] at walk
      obtain ⟨_, _, rfl, cached⟩ := walks_answered walk stops trivial
      obtain ⟨_, rest, rfl, reported⟩ := walks_answered cached stops trivial
      exact ⟨_, rest, rfl, .found found, reported⟩
    | none =>
      rw [found] at taken
      obtain ⟨level, message, taken⟩ := taken
      rw [taken] at walk
      obtain ⟨_, rest, rfl, said⟩ := walks_answered walk stops trivial
      exact ⟨_, rest, rfl, .missed found level message, said⟩

/-- What is read and asked for with so many attempts left, and how that comes out: whether it ends with
a find, or which question it is left with. -/
inductive Tries (span : Option Nat) : Nat → List Reading → List Asked → Outcome Bool → Prop
  | spent : Tries span 0 [] [] (.answered false)
  | reading (left : Nat) : Tries span (left + 1) [] [] (.left (.wallet .balances))
  | found {left : Nat} {r : Reading} {own : List Asked} (looks : Looks r own)
    (found : r.found?.isSome = true) : Tries span (left + 1) [r] own (.answered true)
  | last {r : Reading} {own : List Asked} (looks : Looks r own) (missed : r.found? = none) :
    Tries span 1 [r] own (.answered false)
  | waiting {left : Nat} {r : Reading} {own : List Asked} {q : Query} (looks : Looks r own)
    (missed : r.found? = none) (level : Level) (message : Text)
    (waits : beatOf? q = some (.wait span)) :
    Tries span (left + 2) [r] (own ++ [⟨.log level message, ()⟩]) (.left q)
  | again {left us : Nat} {r : Reading} {rs : List Reading} {own rest : List Asked}
    {ended : Outcome Bool} (looks : Looks r own) (missed : r.found? = none) (level : Level)
    (message : Text) (lasts : span = some us) (tries : Tries span (left + 1) rs rest ended) :
    Tries span (left + 2) (r :: rs)
      (own ++ ([⟨.log level message, ()⟩, ⟨.sleep us, ()⟩] ++ rest)) ended

theorem pause_none {delay : Binary64} (endless : spanOf? delay = none) : pause delay = Job.rest := by
  unfold pause
  rw [endless]

theorem pause_some {delay : Binary64} {us : Nat} (span : spanOf? delay = some us) :
    pause delay = Job.sleep us := by
  unfold pause
  rw [span]

theorem walks_attemptFrom {f : Bool → Job β} {attempts left attempt : Nat} {delay : Binary64}
    (count : attempt + left = attempts + 1)
    (walk : ((attemptFrom attempts delay left attempt).bind f).Walks log j) (stops : Stops j o)
    (honest : Honest value log) :
    (∃ rs q, Tries (spanOf? delay) left rs log (.left q) ∧ o = .left q) ∨
      ∃ rs own rest b, log = own ++ rest ∧ Tries (spanOf? delay) left rs own (.answered b) ∧
        (f b).Walks rest j := by
  induction left generalizing attempt log value with
  | zero => exact .inr ⟨[], [], log, false, rfl, .spent, walk⟩
  | succ left ih =>
    change ((refresh.bind fun got => if got = true then _ else _).bind f).Walks log j at walk
    rw [bind_assoc] at walk
    rcases walks_refresh walk stops honest with ⟨rfl, rfl⟩ | ⟨r, own, rest, rfl, looks, walk⟩
    · exact .inl ⟨[], _, .reading left, rfl⟩
    · have honest := (honest_append.mp honest).2
      cases found : r.found? with
      | some balance =>
        rw [found] at walk
        exact .inr ⟨[r], own, rest, true, rfl, .found looks (by rw [found]; rfl), walk⟩
      | none =>
        rw [found] at walk
        change (Job.bind (if attempt < attempts then _ else _) f).Walks rest j at walk
        cases left with
        | zero =>
          rw [if_neg (by omega)] at walk
          exact .inr ⟨[r], own, rest, false, rfl, .last looks found, walk⟩
        | succ left =>
          rw [if_pos (by omega)] at walk
          obtain ⟨message, _, rest, rfl, said⟩ : ∃ message u rest',
              rest = ⟨.log .info message, u⟩ :: rest' ∧ (Job.bind ((pause delay).bind fun _ =>
                attemptFrom attempts delay (left + 1) (attempt + 1)) f).Walks rest' j :=
            ⟨_, walks_answered walk stops trivial⟩
          cases span : spanOf? delay with
          | none =>
            rw [pause_none span] at said
            cases said with
            | stay => cases stops with
              | left => exact .inl ⟨[r], _, .waiting looks found _ _ rfl, rfl⟩
            | turn u waited => exact honest.2.1.elim
          | some us =>
            rw [pause_some span] at said
            cases said with
            | stay => cases stops with
              | left => exact .inl ⟨[r], _, .waiting looks found _ _ rfl, rfl⟩
            | turn u waited =>
              have next := ih (by omega) waited honest.2.2
              rw [span] at next
              rcases next with ⟨rs, q, tries, rfl⟩ | ⟨rs, own', rest, b, rfl, tries, goes⟩
              · exact .inl ⟨r :: rs, q, .again looks found _ _ rfl tries, rfl⟩
              · exact .inr ⟨r :: rs, _, rest, b, (List.append_assoc own (_ :: _ :: own') rest).symm,
                  .again looks found .info message rfl tries, goes⟩

end

/-- So many readings, and one wait between any two that follow each other. -/
def alternation (span : Option Nat) (n : Nat) : List Beat :=
  (List.replicate n .reading).intersperse (.wait span)

theorem alternation_succ (span : Option Nat) (n : Nat) :
    alternation span (n + 2) = .reading :: .wait span :: alternation span (n + 1) :=
  List.intersperse_cons_cons

namespace Tries

variable {span : Option Nat} {left : Nat} {rs : List Reading} {log : List Asked} {o : Outcome Bool}

theorem readings_eq (h : Tries span left rs log o) : readings log = rs := by
  induction h with
  | spent | reading left => rfl
  | found looks found => exact looks.readings_eq
  | last looks missed => exact looks.readings_eq
  | waiting looks missed level message waits =>
    rw [readings_append, looks.readings_eq]
    rfl
  | again looks missed level message lasts tries ih =>
    rw [readings_append, looks.readings_eq, readings_append, ih]
    rfl

theorem shows (h : Tries span left rs log o) : Shows log := by
  induction h with
  | spent | reading left => exact shows_nil
  | found looks found => exact looks.shows
  | last looks missed => exact looks.shows
  | waiting looks missed level message waits => exact looks.shows.append (shows_log level message)
  | again looks missed level message lasts tries ih =>
    exact looks.shows.append (((shows_log level message).append (shows_sleep _)).append ih)

theorem few (h : Tries span left rs log o) : rs.length ≤ left := by
  induction h with
  | spent | reading left => exact Nat.zero_le _
  | found | last | waiting => exact Nat.succ_le_succ (Nat.zero_le _)
  | again looks missed level message lasts tries ih => exact Nat.succ_le_succ ih

theorem missed (h : Tries span left rs log o) : ∀ r ∈ rs.dropLast, r.found? = none := by
  induction h with
  | spent | reading left | found | last | waiting => exact List.forall_mem_nil _
  | again looks missed level message lasts tries ih =>
    cases tries with
    | reading => exact List.forall_mem_nil _
    | found | last | waiting | again => exact List.forall_mem_cons.mpr ⟨missed, ih⟩

theorem answered {b : Bool} (h : Tries span left rs log (.answered b)) :
    beats log = alternation span rs.length ∧ (b = true → ∃ r ∈ rs.getLast?, r.found?.isSome = true) ∧
      (b = false → rs.length = left) := by
  generalize ended : Outcome.answered b = o at h
  induction h with
  | spent =>
    cases ended
    exact ⟨rfl, nofun, fun _ => rfl⟩
  | reading | waiting => cases ended
  | found looks found =>
    cases ended
    exact ⟨looks.beats_eq, fun _ => ⟨_, rfl, found⟩, nofun⟩
  | last looks missed =>
    cases ended
    exact ⟨looks.beats_eq, nofun, fun _ => rfl⟩
  | @again _ _ _ rs _ _ _ looks missed level message lasts tries ih =>
    obtain ⟨kept, hit, spent⟩ := ih ended
    cases rs with
    | nil =>
      -- with an attempt left, nothing ends before a reading
      subst ended
      cases tries
    | cons r' rs =>
      refine ⟨?_, hit, fun lost => congrArg Nat.succ (spent lost)⟩
      rw [beats_append, looks.beats_eq, beats_append, kept, lasts]
      exact (alternation_succ _ rs.length).symm

theorem left_off {q : Query} (h : Tries span left rs log (.left q)) :
    rs.length < left ∧ (∀ r ∈ rs, r.found? = none) ∧
      ∃ beat, beatOf? q = some beat ∧ beats log ++ [beat] <+: alternation span left := by
  generalize ended : Outcome.left q = o at h
  induction h with
  | spent | found | last => cases ended
  | reading left =>
    cases ended
    refine ⟨left.succ_pos, List.forall_mem_nil _, .reading, rfl, ?_⟩
    cases left with
    | zero => exact List.prefix_rfl
    | succ left =>
      rw [alternation_succ]
      exact List.prefix_append [Beat.reading] _
  | waiting looks missed level message waits =>
    cases ended
    refine ⟨Nat.succ_lt_succ (Nat.succ_pos _), List.forall_mem_singleton.mpr missed, _, waits, ?_⟩
    rw [beats_append, looks.beats_eq, alternation_succ]
    exact List.prefix_append [Beat.reading, .wait span] _
  | again looks missed level message lasts tries ih =>
    obtain ⟨few, none, beat, long, kept⟩ := ih ended
    refine ⟨Nat.succ_lt_succ few, List.forall_mem_cons.mpr ⟨missed, none⟩, beat, long, ?_⟩
    rw [beats_append, looks.beats_eq, beats_append, alternation_succ, List.append_assoc,
      List.append_assoc]
    subst lasts
    exact (List.prefix_append_right_inj [Beat.reading, .wait _]).mpr kept

end Tries

/-! ### Calls -/

inductive Call where
  | refresh
  | fill (attempts : Int) (delay : Binary64)

namespace Call

abbrev Answer : Call → Type
  | .refresh => Bool
  | .fill .. => Decimal

def job : (c : Call) → Job c.Answer
  | .refresh => Purse.refresh
  | .fill attempts delay => Purse.fill attempts delay

def span : Call → Option Nat
  | .refresh => some 0
  | .fill _ delay => spanOf? delay

end Call

/-- A refresh reads once, and says whether that was a find. -/
def Refreshed (log : List Asked) (o : Outcome Bool) : Prop :=
  (readings log = [] ∧ o = .left (.wallet .balances)) ∨
    ∃ r, readings log = [r] ∧ o = .answered r.found?.isSome

/-- Whoever fills the purse reads until a find, with a wait before each further reading, and answers with
what is then in the purse. -/
structure Filled (attempts : Nat) (span : Option Nat) (value : Decimal) (log : List Asked)
    (o : Outcome Decimal) : Prop where
  few : (readings log).length ≤ attempts
  missed : ∀ r ∈ (readings log).dropLast, r.found? = none
  foreseen : ∀ e, o ≠ .failed e
  answered : ∀ shown, o = .answered shown → shown = value ∧
    beats log = alternation span (readings log).length ∧
    ((readings log).length = attempts ∨ ∃ r ∈ (readings log).getLast?, r.found?.isSome = true)
  left : ∀ q, o = .left q → (readings log).length < attempts ∧
    (∀ r ∈ readings log, r.found? = none) ∧
    ∃ beat, beatOf? q = some beat ∧ beats log ++ [beat] <+: alternation span attempts

theorem refreshed_of_walks {value : Decimal} {log : List Asked} {j : Job Bool} {o : Outcome Bool}
    (walk : refresh.Walks log j) (stops : Stops j o) (honest : Honest value log) :
    Shows log ∧ Refreshed log o := by
  rw [← bind_done refresh] at walk
  rcases walks_refresh walk stops honest with ⟨rfl, rfl⟩ | ⟨r, own, rest, rfl, looks, walk⟩
  · exact ⟨shows_nil, .inl ⟨rfl, rfl⟩⟩
  · cases walk
    cases stops
    rw [List.append_nil]
    exact ⟨looks.shows, .inr ⟨r, looks.readings_eq, rfl⟩⟩

theorem filled_of_walks {attempts : Int} {delay : Binary64} {value : Decimal} {log : List Asked}
    {j : Job Decimal} {o : Outcome Decimal} (walk : (fill attempts delay).Walks log j)
    (stops : Stops j o) (honest : Honest value log) :
    Shows log ∧ Filled attempts.toNat (spanOf? delay) (held value log) log o := by
  change ((attemptFrom _ _ _ _).bind fun got => if got = true then _ else _).Walks log j at walk
  rcases walks_attemptFrom (by omega) walk stops honest with
    ⟨rs, q, tries, rfl⟩ | ⟨rs, own, rest, b, rfl, tries, walk⟩
  · refine ⟨tries.shows, ?_, ?_, nofun, nofun, fun q same => ?_⟩
    · rw [tries.readings_eq]; exact tries.few
    · rw [tries.readings_eq]; exact tries.missed
    · cases same
      rw [tries.readings_eq]
      exact tries.left_off
  · obtain ⟨own_honest, honest⟩ := honest_append.mp honest
    -- what follows the readings: perhaps a warning, then a look into the purse
    have follows : ∃ shown, o = .answered shown ∧ shown = held (held value own) rest ∧
        Shows rest ∧ readings rest = [] ∧ beats rest = [] := by
      cases b with
      | true =>
        obtain ⟨shown, rfl, rfl⟩ := walks_cached walk stops
        exact ⟨shown, rfl, honest.1, shows_cached shown, rfl, rfl⟩
      | false =>
        obtain ⟨message, _, rest, rfl, said⟩ : ∃ message u rest',
            rest = ⟨.log .warning message, u⟩ :: rest' ∧ Job.cached.Walks rest' j :=
          ⟨_, walks_answered walk stops trivial⟩
        obtain ⟨shown, rfl, rfl⟩ := walks_cached said stops
        exact ⟨shown, rfl, honest.2.1, (shows_log _ message).append (shows_cached shown), rfl, rfl⟩
    obtain ⟨shown, rfl, same, shows, still, quick⟩ := follows
    obtain ⟨kept, hit, spent⟩ := tries.answered
    have all : readings (own ++ rest) = rs := by
      rw [readings_append, tries.readings_eq, still, List.append_nil]
    refine ⟨tries.shows.append shows, ?_, ?_, nofun, fun shown' same' => ?_, fun q same' => ?_⟩
    · rw [all]; exact tries.few
    · rw [all]; exact tries.missed
    · cases same'
      rw [all, beats_append, quick, List.append_nil, held_append]
      refine ⟨same, kept, ?_⟩
      cases b with
      | true => exact .inr (hit rfl)
      | false => exact .inl (spent rfl)
    · cases same'

structure Visit where
  call : Call
  log : List Asked
  outcome : Outcome call.Answer

namespace Visit

/-- The call has been through these answers and has come out so. -/
def Took (v : Visit) : Prop := ∃ j, v.call.job.Walks v.log j ∧ Stops j v.outcome

/-- What a call does, when there is `value` in the purse at its end. -/
def Keeps (value : Decimal) : Visit → Prop
  | ⟨.refresh, log, o⟩ => Refreshed log o
  | ⟨.fill attempts delay, log, o⟩ => Filled attempts.toNat (spanOf? delay) value log o

theorem Took.keeps {v : Visit} {value : Decimal} (took : v.Took) (honest : Honest value v.log) :
    Shows v.log ∧ v.Keeps (held value v.log) := by
  obtain ⟨call, log, o⟩ := v
  obtain ⟨j, walk, stops⟩ := took
  cases call with
  | refresh => exact refreshed_of_walks walk stops honest
  | fill attempts delay => exact filled_of_walks walk stops honest

end Visit

/-! ### Work that is answered -/

end Purse

end Faucet
