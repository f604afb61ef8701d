import Faucet.Proofs.Offer
import Faucet.Proofs.RateLimit
import Faucet.Proofs.Wire

/-!
What a request comes to. On a store in working order the form of the address, the quota of the source
and the addresses of the ledger decide it, in this order, and the draw decides the amount. The ledger
is left alone unless the request is queued, which adds the one row that the answer tells of.
-/

set_option autoImplicit false

namespace Faucet

theorem Text.after?_eq_some_iff (opening t rest : Text) :
    Text.after? opening t = some rest ↔ t = opening ++ rest := by
  induction opening generalizing t with
  | nil => exact Option.some_inj
  | cons c opening ih =>
    cases t with
    | nil => exact iff_of_false nofun nofun
    | cons d t =>
      unfold Text.after?
      by_cases same : c = d
      · subst same
        rw [if_pos rfl, ih t, List.cons_append, List.cons_inj_right]
      · rw [if_neg same, List.cons_append, List.cons_eq_cons]
        exact iff_of_false nofun fun h => same h.1.symm

namespace Address

def Grammar (t : Text) : Prop :=
  ∃ body : Text, t = ("tb1" : Text) ++ body ∧ 39 ≤ body.length ∧ body.length ≤ 87 ∧
    ∀ c ∈ body, isBody c = true

theorem isSignet_iff (t : Text) : isSignet t = true ↔ Grammar t := by
  unfold isSignet Grammar
  cases found : Text.after? "tb1" t with
  | none =>
    refine iff_of_false nofun ?_
    rintro ⟨body, eq, -⟩
    rw [(Text.after?_eq_some_iff _ _ _).mpr eq] at found
    cases found
  | some body =>
    obtain rfl := (Text.after?_eq_some_iff _ _ _).mp found
    simp only [Bool.and_eq_true, decide_eq_true_eq, List.all_eq_true, List.append_cancel_left_eq,
      exists_eq_left', and_assoc]

theorem validate_ok {t : Text} (h : Grammar t.strip) : validate t = .ok t.strip := by
  have signet := (isSignet_iff t.strip).mpr h
  obtain ⟨body, eq, -⟩ := h
  unfold validate
  dsimp only
  have filled : t.strip.isEmpty = false := by rw [eq]; rfl
  have apart : (mainnetOpenings.any fun opening => opening.startsWith t.strip) = false := by
    rw [eq]
    rfl
  rw [filled, apart, isLineOf_strip, signet]
  rfl

theorem validate_error {t : Text} (h : ¬Grammar t.strip) : ∃ fault, validate t = .error fault := by
  unfold validate
  dsimp only
  rw [isLineOf_strip]
  split
  · exact ⟨_, rfl⟩
  · split
    · exact ⟨_, rfl⟩
    · exact ⟨_, if_neg fun signet => h ((isSignet_iff t.strip).mp signet)⟩

theorem isEncodable_of_grammar {t : Text} (h : Grammar t) : t.isEncodable = true := by
  obtain ⟨body, rfl, -, -, small⟩ := h
  rw [Text.isEncodable_append, Bool.and_eq_true]
  refine ⟨rfl, (Text.isEncodable_iff body).mpr fun c hc => ?_⟩
  have letters := small c hc
  simp only [isBody, CodePoint.isLowerLetter, CodePoint.isDigit, Bool.or_eq_true, Bool.and_eq_true,
    decide_eq_true_eq] at letters
  simp only [CodePoint.isSurrogate, Bool.and_eq_false_iff, decide_eq_false_iff_not]
  omega

end Address

namespace Quota

/-- A source that is not exempt has as many payouts in the window as it may have, whatever became of
them. -/
def Spent (q : Quota) (l : Ledger) (source : Text) (now : Moment) : Prop :=
  source ∉ q.exempt ∧
    q.most ≤ l.countP fun r => r.source = source && now - q.window < r.created

def judge (q : Quota) (source : Text) (count : Nat) : Job Bool :=
  if q.most ≤ count then
    (Job.log .info ("Rate limit hit for " ++ source ++ ": " ++ Text.ofNat count
      ++ " requests in the last " ++ q.window.text)).bind fun _ => .done false
  else .done true

theorem allows_eq (q : Quota) {source : Text} (limited : source ∉ q.exempt) :
    q.allows source none = Job.now.bind fun now =>
      (Job.ofExcept (Moment.before now q.window)).bind fun since =>
        (Store.countFrom (some source) since).bind (q.judge source) := by
  unfold allows
  rw [if_neg limited]
  rfl

theorem judge_play (q : Quota) (env : Nat → Reaction) (s : Scene) (source : Text) (count : Nat) :
    ∃ s', (q.judge source count).play env s = (.ok (decide (¬q.most ≤ count)), s') ∧
      s'.database = s.database := by
  unfold judge
  by_cases enough : q.most ≤ count
  · rw [if_pos enough, decide_eq_false (not_not.mpr enough)]
    exact ⟨_, rfl, rfl⟩
  · rw [if_neg enough, decide_eq_true enough]
    exact ⟨s, rfl, rfl⟩

end Quota

section
variable {env : Nat → Reaction} {s : Scene} {l : Ledger} {source : Text}

theorem Store.countFrom_play (hold : s.database.Holds l) (healthy : ∀ n, (env n).fault = none)
    (named : source.isEncodable = true) (since : Moment) :
    ∃ s', (Store.countFrom (some source) since).play env s = (.ok (l.countFrom source since), s') ∧
      s'.database.Holds l := by
  obtain ⟨s₁, entered, hold₁⟩ := Job.play_enter healthy hold .countFrom fun _ =>
    Job.session (.countFrom (some source) since)
  obtain ⟨s₂, counted, hold₂⟩ := Job.session_play (.countFrom (some source) since) healthy hold₁
    (if_pos named) rfl
  exact ⟨s₂, entered.trans counted, hold₂⟩

theorem Quota.allows_play (q : Quota) (hold : s.database.Holds l)
    (healthy : ∀ n, (env n).fault = none) (named : source.isEncodable = true)
    (timely : source ∉ q.exempt →
      ∃ since, Moment.before (env s.log.length).clock q.window = .ok since) :
    ∃ allowed s', (q.allows source none).play env s = (.ok allowed, s') ∧ s'.database.Holds l ∧
      (allowed = true ↔ ¬q.Spent l source (env s.log.length).clock) := by
  by_cases exempt : source ∈ q.exempt
  · refine ⟨true, s, ?_, hold, iff_of_true rfl fun spent => spent.1 exempt⟩
    unfold Quota.allows
    rw [if_pos exempt]
    rfl
  · obtain ⟨since, inRange⟩ := timely exempt
    obtain rfl := Moment.eq_of_before inRange
    rw [q.allows_eq exempt]
    change ∃ allowed s', ((Job.ofExcept (Moment.before (env s.log.length).clock q.window)).bind _).play
      env (s.asked (env s.log.length) .now) = _ ∧ _
    rw [inRange]
    obtain ⟨s₁, counted, hold₁⟩ := Store.countFrom_play (s := s.asked (env s.log.length) .now) hold
      healthy named ((env s.log.length).clock - q.window)
    obtain ⟨s₂, judged, same⟩ := q.judge_play env s₁ source
      (l.countFrom source ((env s.log.length).clock - q.window))
    refine ⟨_, s₂, (Job.play_bind counted _).trans judged, same ▸ hold₁, ?_⟩
    rw [decide_eq_true_eq, Ledger.countFrom_eq]
    exact ⟨fun few spent => few spent.2, fun room enough => room ⟨exempt, enough⟩⟩

namespace Intake

variable {i : Intake}

theorem admitted?_play (i : Intake) (hold : s.database.Holds l)
    (healthy : ∀ n, (env n).fault = none) (named : source.isEncodable = true)
    (timely : source ∉ i.quota.exempt →
      ∃ since, Moment.before (env s.log.length).clock i.quota.window = .ok since) :
    ∃ allowed s', (i.admitted? source).play env s = (.ok (some allowed), s') ∧
      s'.database.Holds l ∧
        (allowed = true ↔ ¬i.quota.Spent l source (env s.log.length).clock) := by
  obtain ⟨allowed, s', played, hold', iff⟩ := i.quota.allows_play hold healthy named timely
  refine ⟨allowed, s', ?_, hold', iff⟩
  rw [admitted?_eq, Job.play_attempt, played]
  rfl

structure Draws (i : Intake) (tier : Option Int) (sats : Nat) : Prop where
  inRange : ∃ t ∈ i.tiers.tiers, t.id = i.tiers.choice tier ∧
    t.least.toRat ≤ sats / 10 ^ 8 ∧ (sats / 10 ^ 8 : ℚ) < t.most.toRat
  some : 0 < sats
  few : sats < 2 ^ 63

theorem amount_play (env : Nat → Reaction) (sound : i.tiers.Sound) (hold : s.database.Holds l) (tier : Option Int) :
    ∃ sats s', (i.amount tier).play env s = (.ok (.ok (.finite false sats (-8))), s') ∧
      s'.database.Holds l ∧ i.Draws tier sats := by
  obtain ⟨t, mem, own, resolved⟩ := sound.resolve tier
  obtain ⟨low, high, spans⟩ := sound.spans t mem
  have below := spans.below
  have few := spans.few
  let most := ((high - low : Nat) : Int).toNat - 1
  let n := (env s.log.length).number % (most + 1)
  have small : n < high - low := by
    have less : n < most + 1 := Nat.mod_lt _ (Nat.succ_pos most)
    omega
  have drawn : (i.tiers.pick tier).play env s =
      (.ok (.finite false (low + n) (-8)), s.asked (env s.log.length) (.draw most)) := by
    unfold TierPolicy.pick
    rw [resolved]
    change ((Job.ofExcept t.width).bind _).play env s = _
    rw [spans.width]
    change (if ((high - low : Nat) : Int) ≤ 0 then _ else _ : Job Decimal).play env s = _
    rw [if_neg (by omega)]
    change (Job.ofArithmetic (t.amount n)).play env (s.asked (env s.log.length) (.draw most)) = _
    rw [spans.amount small]
    rfl
  refine ⟨low + n, s.asked (env s.log.length) (.draw most), ?_, hold, ?_, ?_, ?_⟩
  · rw [amount_eq, Job.play_attempt, drawn]
    rfl
  · refine ⟨t, mem, own, ?_, ?_⟩
    · rw [spans.least.2]
      gcongr
      exact Nat.le_add_right low n
    · rw [spans.most.2]
      gcongr
      omega
  · exact Nat.add_pos_left spans.some n
  · omega

theorem queue_play {sats : Nat} (some : 0 < sats) (few : sats < 2 ^ 63) (hold : s.database.Holds l)
    (healthy : ∀ n, (env n).fault = none) {address : Text} (encodable : address.isEncodable = true)
    (named : source.isEncodable = true) :
    ((∀ r ∈ l, r.address ≠ address) ∧ ∃ now s',
        (queue address (.finite false sats (-8)) source).play env s = (.ok none, s') ∧
          s'.database.rows = l ++ [Ledger.newRow l.nextId address source sats now]) ∨
      (∃ r ∈ l, r.address = address) ∧ ∃ s',
        (queue address (.finite false sats (-8)) source).play env s =
          (.ok (.some .duplicateAddress), s') ∧ s'.database.rows = l := by
  have worth : Money.toSats (.finite false sats (-8)) = .ok (sats : Int) :=
    Money.toSats_exact ⟨rfl, Money.toRat_sats false sats⟩ (by omega)
  rw [queue_eq, Job.play_attempt]
  rcases Store.create_play hold healthy encodable named worth (by omega) (by omega) with
    ⟨free, now, made, rows⟩ | ⟨taken, refused, rows⟩
  · rw [made]
    exact .inl ⟨free, now, _, rfl, rows⟩
  · rw [refused]
    exact .inr ⟨taken, _, rfl, rows⟩

end Intake

end

namespace Intake

/-- What a request comes to on a ledger at a time, and what it leaves of the ledger. -/
structure Decides (i : Intake) (l : Ledger) (now : Moment) (t : Text) (tier : Option Int)
    (source : Text) (receipt : Receipt) (l' : Ledger) : Prop where
  invalid : receipt.refusal = some .invalidAddress ↔ ¬Address.Grammar t.strip
  limited : receipt.refusal = some .rateLimited ↔
    Address.Grammar t.strip ∧ i.quota.Spent l source now
  duplicate : receipt.refusal = some .duplicateAddress ↔
    Address.Grammar t.strip ∧ ¬i.quota.Spent l source now ∧ ∃ r ∈ l, r.address = t.strip
  queued : receipt.queued = true ↔
    Address.Grammar t.strip ∧ ¬i.quota.Spent l source now ∧ ∀ r ∈ l, r.address ≠ t.strip
  rejected : receipt.queued = false → receipt.amount = none ∧ l' = l ∧
    (receipt.refusal = some .invalidAddress ∨ receipt.refusal = some .rateLimited ∨
      receipt.refusal = some .duplicateAddress)
  adds : receipt.queued = true → receipt.refusal = none ∧ ∃ row amount q, l' = l ++ [row] ∧
    (∀ r ∈ l, r.id < row.id) ∧ row.address = t.strip ∧ row.source = source ∧
    row.status = .pending ∧ row.txid = none ∧ row.error = none ∧
    receipt.amount = some amount ∧ amount.Worth q ∧ row.amount.Worth q ∧
    ∃ t ∈ i.tiers.tiers, t.id = i.tiers.choice tier ∧ t.least.toRat ≤ q ∧ q < t.most.toRat

variable {i : Intake} {l l' : Ledger} {now : Moment} {t source : Text} {tier : Option Int}

theorem decides_invalid (h : ¬Address.Grammar t.strip) (message : Text) :
    i.Decides l now t tier source (.refused .invalidAddress message) l where
  invalid := iff_of_true rfl h
  limited := iff_of_false nofun fun ⟨valid, _⟩ => h valid
  duplicate := iff_of_false nofun fun ⟨valid, _⟩ => h valid
  queued := iff_of_false nofun fun ⟨valid, _⟩ => h valid
  rejected := fun _ => ⟨rfl, rfl, .inl rfl⟩
  adds := nofun

theorem decides_limited (valid : Address.Grammar t.strip) (spent : i.quota.Spent l source now)
    (message : Text) : i.Decides l now t tier source (.refused .rateLimited message) l where
  invalid := iff_of_false nofun fun h => h valid
  limited := iff_of_true rfl ⟨valid, spent⟩
  duplicate := iff_of_false nofun fun ⟨_, room, _⟩ => room spent
  queued := iff_of_false nofun fun ⟨_, room, _⟩ => room spent
  rejected := fun _ => ⟨rfl, rfl, .inr (.inl rfl)⟩
  adds := nofun

theorem decides_duplicate (valid : Address.Grammar t.strip) (room : ¬i.quota.Spent l source now)
    (taken : ∃ r ∈ l, r.address = t.strip) (message : Text) :
    i.Decides l now t tier source (.refused .duplicateAddress message) l where
  invalid := iff_of_false nofun fun h => h valid
  limited := iff_of_false nofun fun ⟨_, spent⟩ => room spent
  duplicate := iff_of_true rfl ⟨valid, room, taken⟩
  queued := iff_of_false nofun fun ⟨_, _, free⟩ => by
    obtain ⟨r, here, same⟩ := taken
    exact free r here same
  rejected := fun _ => ⟨rfl, rfl, .inr (.inr rfl)⟩
  adds := nofun

theorem decides_queued (valid : Address.Grammar t.strip) (room : ¬i.quota.Spent l source now)
    (free : ∀ r ∈ l, r.address ≠ t.strip) {sats : Nat} (draws : i.Draws tier sats)
    (created : Moment) (message : Text) :
    i.Decides l now t tier source
      { queued := true, message, amount := some (.finite false sats (-8)) }
      (l ++ [Ledger.newRow l.nextId t.strip source sats created]) where
  invalid := iff_of_false nofun fun h => h valid
  limited := iff_of_false nofun fun ⟨_, spent⟩ => room spent
  duplicate := iff_of_false nofun fun ⟨_, _, r, here, same⟩ => free r here same
  queued := iff_of_true rfl ⟨valid, room, free⟩
  rejected := nofun
  adds := fun _ => ⟨rfl, _, _, (sats : Int) / 10 ^ 8, rfl, fun _ here => Ledger.id_lt_nextId here,
    rfl, rfl, rfl, rfl, rfl, rfl, ⟨rfl, Money.toRat_sats false sats⟩, Money.worth_ofSats sats,
    draws.inRange⟩

theorem Decides.kept {receipt : Receipt} (h : i.Decides l now t tier source receipt l')
    (refused : receipt.refusal ≠ none) : l' = l :=
  (h.rejected (Bool.eq_false_iff.mpr fun queued => refused (h.adds queued).1)).2.1

theorem submit_play {env : Nat → Reaction} {s : Scene} (sound : i.tiers.Sound)
    (hold : s.database.Holds l) (healthy : ∀ n, (env n).fault = none)
    (named : source.isEncodable = true) (timely : source ∉ i.quota.exempt →
      ∃ since, Moment.before (env s.log.length).clock i.quota.window = .ok since)
    (t : Text) (tier : Option Int) :
    ∃ receipt s', (i.submit t tier source).play env s = (.ok receipt, s') ∧
      i.Decides l (env s.log.length).clock t tier source receipt s'.database.rows := by
  unfold submit
  by_cases valid : Address.Grammar t.strip
  case neg =>
    obtain ⟨fault, refused⟩ := Address.validate_error valid
    rw [refused]
    exact ⟨_, s, rfl, hold.rows_eq.symm ▸ decides_invalid valid fault.message⟩
  rw [Address.validate_ok valid]
  obtain ⟨allowed, s₁, played, hold₁, room⟩ := i.admitted?_play hold healthy named timely
  cases allowed with
  | false =>
    have spent := not_not.mp fun few => Bool.false_ne_true (room.mpr few)
    exact ⟨_, s₁, Job.play_bind played _, hold₁.rows_eq.symm ▸ decides_limited valid spent _⟩
  | true =>
    obtain ⟨sats, s₂, drawn, hold₂, draws⟩ := amount_play env sound hold₁ tier
    have few := room.mp rfl
    rcases queue_play draws.some draws.few hold₂ healthy (Address.isEncodable_of_grammar valid) named
      with ⟨free, created, s₃, queued, rows⟩ | ⟨taken, s₃, refused, rows⟩
    · let amount : Decimal := .finite false sats (-8)
      let line : Text := "Address queued: " ++ t.strip ++ " (source: " ++ source ++ ", amount: "
        ++ amount.fixed8 ++ " BTC)"
      refine ⟨{ queued := true, message := Receipt.welcome, amount := some amount },
        s₃.asked (env s₃.log.length) (.log .info line), (Job.play_bind played _).trans ?_, ?_⟩
      · exact (Job.play_bind drawn _).trans (Job.play_bind queued _)
      · change i.Decides l _ t tier source _ s₃.database.rows
        rw [rows]
        exact decides_queued valid few free draws created Receipt.welcome
    · refine ⟨.refused .duplicateAddress "Address already used", s₃,
        (Job.play_bind played _).trans ?_, ?_⟩
      · exact (Job.play_bind drawn _).trans (Job.play_bind refused _)
      · rw [rows]
        exact decides_duplicate valid few taken _

/-- A faucet of accepted settings decides every request: at any time, unless it is within a day of the
first moment that there is and the source is not exempt. -/
theorem submit_decides {given : List (Text × Json)} {s : Settings}
    (accepted : Settings.ofFields given = .ok s) :
    ∃ plan ids, Plan.make s = .ok plan ∧ s.tiers = .ok ids ∧ plan.intake = s.intake ids ∧
      ∀ (env : Nat → Reaction) (c : Scene) (l : Ledger) (t : Text) (tier : Option Int) (source : Text),
        (∀ n, (env n).fault = none) → c.database.Holds l → source.isEncodable = true →
        (source ∈ s.exempt ∨ Moment.first + Span.hours 24 ≤ (env c.log.length).clock ∧
          (env c.log.length).clock ≤ Moment.last) →
        ∃ receipt c', (plan.intake.submit t tier source).play env c = (.ok receipt, c') ∧
          (s.intake ids).Decides l (env c.log.length).clock t tier source receipt
            c'.database.rows := by
  obtain ⟨plan, ids, made, read, intake, sound⟩ := Plan.make_of_ofFields accepted
  refine ⟨plan, ids, made, read, intake, fun env c l t tier source healthy hold named timely => ?_⟩
  rw [intake] at sound ⊢
  refine submit_play sound hold healthy named (fun limited => ?_) t tier
  rcases timely with exempt | ⟨late, early⟩
  · exact absurd exempt limited
  · have hours : 0 ≤ Span.hours 24 := by decide
    refine ⟨(env c.log.length).clock - Span.hours 24, if_pos ⟨?_, ?_⟩⟩
    · exact Int.le_sub_right_of_add_le late
    · exact (Int.sub_le_self _ hours).trans early

def shortest : Text := "tb1" ++ List.replicate 39 (97 : CodePoint)

def quietAt (now : Moment) : Reaction where
  clock := now
  wallet := fun _ => .error (.faucet [])
  reply := .error (.faucet [])
  number := 0
  purse := .zero

theorem first_day_overflows : ∃ s plan, Settings.ofFields [] = .ok s ∧ Plan.make s = .ok plan ∧
    ((plan.intake.submit shortest none "web").play (fun _ => quietAt Moment.first)
      { database := { table := some [] } }).1 =
        .error (.defect (.overflow "date value out of range")) :=
  ⟨_, _, rfl, rfl, rfl⟩

/-- Two payouts to one source within a day, as many as accepted settings allow if nothing is said. -/
def crowded : Ledger :=
  [Ledger.newRow 1 shortest "web" 100000 0,
    Ledger.newRow 2 ("tb1" ++ List.replicate 39 (98 : CodePoint)) "web" 100000 0]

theorem submit_decides_crowded : ∃ s plan, Settings.ofFields [] = .ok s ∧ Plan.make s = .ok plan ∧
    let fresh : Text := "tb1" ++ List.replicate 39 (99 : CodePoint)
    let asks := fun (t source : Text) => (plan.intake.submit t none source).play (fun _ => quietAt 1)
      { database := { table := some crowded } }
    (∃ receipt c', asks fresh "web" = (.ok receipt, c') ∧
      receipt.refusal = some .rateLimited ∧ c'.database.rows = crowded) ∧
    (∃ receipt c', asks shortest "app" = (.ok receipt, c') ∧
      receipt.refusal = some .duplicateAddress ∧ c'.database.rows = crowded) ∧
    ∃ receipt c', asks fresh "app" = (.ok receipt, c') ∧
      receipt.queued = true ∧ c'.database.rows.length = 3 := by
  obtain ⟨s, accepted, most, exempt⟩ : ∃ s, Settings.ofFields [] = .ok s ∧ s.mostPerSource = 2 ∧
      s.exempt = [("127.0.0.1" : Text)] := ⟨_, rfl, rfl, rfl⟩
  obtain ⟨plan, ids, made, read, intake, decides⟩ := submit_decides accepted
  have asked (t source : Text) (named : source.isEncodable = true) :=
    decides (fun _ => quietAt 1) { database := { table := some crowded } } crowded t none source
      (fun _ => rfl) ⟨rfl, rfl, rfl⟩ named (.inr (by decide))
  refine ⟨s, plan, accepted, made, ?_⟩
  intro fresh asks
  have valid : Address.Grammar fresh.strip := (Address.isSignet_iff _).mp (by decide +kernel)
  have old : Address.Grammar (Text.strip shortest) :=
    (Address.isSignet_iff _).mp (by decide +kernel)
  have quota : (s.intake ids).quota = { most := 2, exempt := ["127.0.0.1"] } := by
    change ({ most := s.mostPerSource, exempt := s.exempt } : Quota) = _
    rw [most, exempt]
  have spent : (s.intake ids).quota.Spent crowded "web" 1 := by
    rw [quota]
    exact ⟨by decide, by decide⟩
  have room : ¬(s.intake ids).quota.Spent crowded "app" 1 := by
    rw [quota]
    exact fun enough => absurd enough.2 (by decide)
  refine ⟨?_, ?_, ?_⟩
  · obtain ⟨receipt, c', played, decided⟩ := asked fresh "web" rfl
    have limited := decided.limited.mpr ⟨valid, spent⟩
    exact ⟨receipt, c', played, limited, decided.kept (limited ▸ nofun)⟩
  · obtain ⟨receipt, c', played, decided⟩ := asked shortest "app" rfl
    have held : ∃ r ∈ crowded, r.address = Text.strip shortest := by decide +kernel
    have taken := decided.duplicate.mpr ⟨old, room, held⟩
    exact ⟨receipt, c', played, taken, decided.kept (taken ▸ nofun)⟩
  · obtain ⟨receipt, c', played, decided⟩ := asked fresh "app" rfl
    have queued := decided.queued.mpr ⟨valid, room, by decide +kernel⟩
    obtain ⟨-, row, amount, q, rows, -⟩ := decided.adds queued
    refine ⟨receipt, c', played, queued, ?_⟩
    rw [rows]
    rfl

end Intake

end Faucet
