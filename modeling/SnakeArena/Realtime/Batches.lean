import SnakeArena.Library.TokenBucket
import SnakeArena.Realtime.Validators

/-!
# Realtime — the batches of a socket

Any batches that one socket sends, at times that do not go back, with a decay of its suspicion
here and there.  Every command has one verdict (`Judged`), and what is accepted over the run
follows from the verdicts in order (`Hears`): the numbers ascend, the fields are in bounds, and the
commands are tokens of one bucket.

An angle may exceed `Math.PI`, by a millionth: the check has that tolerance.
-/

namespace SnakeArena.Realtime
open SnakeArena.Library SnakeArena.Game

/-! ### Sessions -/

/-- What the guard of a socket is given. -/
inductive GuardEvent where
  | batch (commands : List InputCommand) (now : ℕ)
  | decay (amount : ℕ)

namespace GuardEvent

def now? : GuardEvent → Option ℕ
  | .batch _ now => some now
  | .decay _ => none

/-- The commands of an event, and when they came. -/
def commands : GuardEvent → List (ℕ × InputCommand)
  | .batch commands now => commands.map fun command => (now, command)
  | .decay _ => []

end GuardEvent

/-- A guard, and what came out of its batches so far. -/
structure Session where
  guard : InputGuardState
  accepted : List (ℕ × InputCommand)
  rejected : List (InputCommand × RejectionReason)

namespace Session
variable (options : ValidationOptions)

def opened (now : ℕ) : Session := ⟨createGuardState now options.burst, [], []⟩

def after (s : Session) : GuardEvent → Session
  | .batch commands now =>
      let (guard, outcome) := validateInputBatch s.guard commands { options with now }
      { guard
        accepted := s.accepted ++ outcome.accepted.map fun command => (now, command)
        rejected := s.rejected ++ outcome.rejected }
  | .decay amount => { s with guard := decaySuspicion s.guard amount }

def play (s : Session) (events : List GuardEvent) : Session := events.foldl (after options) s

end Session

/-! ### Verdicts -/

/-- A command, when it came, and why it was rejected, if it was. -/
structure Verdict where
  now : ℕ
  command : InputCommand
  reason : Option RejectionReason

namespace Verdict

/-- What is passed on of an accepted command. -/
def accepted (maxDtMs : ℚ) (v : Verdict) : Option (ℕ × InputCommand) :=
  match v.reason with
  | none => some (v.now, { v.command with dt := .finite (clampDeltaTime v.command.dt maxDtMs) })
  | some _ => none

def rejected (v : Verdict) : Option (InputCommand × RejectionReason) :=
  v.reason.map fun reason => (v.command, reason)

end Verdict

/-- The bucket of a socket, with times in milliseconds. -/
def ValidationOptions.bucket (options : ValidationOptions) : TokenBucket ℚ :=
  ⟨options.ratePerSecond / 1000, options.burst⟩

def InputGuardState.level (guard : InputGuardState) : TokenBucket.Level ℚ :=
  ⟨guard.budget, guard.lastRefillMs⟩

/-- The number of an accepted command. -/
structure Numbered (guard guard' : InputGuardState) (command : InputCommand) : Prop where
  number : command.seq = .finite guard'.lastSeq
  ascends : guard.lastSeq < guard'.lastSeq
  jump : guard'.lastSeq ≤ guard.lastSeq + MAX_JUMP

/-- What a verdict does to the guard. -/
structure Judged (bucket : TokenBucket ℚ) (guard : InputGuardState) (v : Verdict)
    (guard' : InputGuardState) : Prop where
  level : guard'.level = (bucket.take guard.level v.now).2
  given : v.reason = none → (bucket.take guard.level v.now).1 = true
  numbered : v.reason = none → Numbered guard guard' v.command
  fields : v.reason = none → angleValid v.command.angle = true ∧ dtValid v.command.dt = true
  rejected : v.reason ≠ none → guard'.lastSeq = guard.lastSeq
  rejections : ∀ reason, guard'.rejections reason =
    guard.rejections reason + if v.reason = some reason then 1 else 0
  suspicion : guard.suspicion ≤ guard'.suspicion

section Judge
variable {options : ValidationOptions} {guard guard' : InputGuardState} {v : Verdict}
  {command : InputCommand} {outcome : ValidationOutcome} {now : ℕ}

theorem natCast_elapsed (now last : ℕ) : ((now - last : ℕ) : ℚ) = max 0 ((now : ℚ) - last) := by
  rcases le_total last now with h | h
  · rw [Nat.cast_sub h, max_eq_right (sub_nonneg.mpr (Nat.cast_le.mpr h))]
  · rw [Nat.sub_eq_zero_of_le h, max_eq_left (sub_nonpos.mpr (Nat.cast_le.mpr h)), Nat.cast_zero]

/-- The budget of a command is a token of the bucket. -/
theorem consumeInputBudget_take :
    consumeInputBudget guard now options.ratePerSecond options.burst =
      ((options.bucket.take guard.level now).1,
        { guard with
          budget := (options.bucket.take guard.level now).2.tokens, lastRefillMs := now }) := by
  have htokens : min options.burst (guard.budget +
      ((now - guard.lastRefillMs : ℕ) : ℚ) / 1000 * options.ratePerSecond) =
      options.bucket.refilled guard.level now := by
    unfold TokenBucket.refilled ValidationOptions.bucket InputGuardState.level
    rw [natCast_elapsed]
    ring_nf
  unfold consumeInputBudget TokenBucket.take
  dsimp only
  rw [htokens]
  split_ifs with hempty
  · rfl
  · rfl

theorem integer?_eq_some {n : Game.Num} {seq : ℤ} (h : integer? n = some seq) :
    n = .finite seq := by
  unfold integer? at h
  obtain ⟨q, hq, h⟩ := Option.bind_eq_some_iff.mp h
  rw [Option.ite_none_right_eq_some, Option.some.injEq] at h
  obtain ⟨hden, rfl⟩ := h
  rw [Rat.coe_int_num_of_den_eq_one hden]
  cases n with
  | finite q' => rw [Option.some.inj hq]
  | infinity | negInfinity | nan => cases hq

/-- A number that is valid is an integer in the window after the last one. -/
theorem isSequenceValid_eq_none {lastSeq maxJump : ℤ} {n : Game.Num}
    (h : isSequenceValid lastSeq n maxJump = none) :
    ∃ seq, integer? n = some seq ∧ lastSeq < seq ∧ seq ≤ lastSeq + maxJump := by
  unfold isSequenceValid at h
  rcases hseq : integer? n with _ | seq
  · rw [hseq] at h
    cases h
  · rw [hseq] at h
    dsimp only at h
    split_ifs at h with hstale hjump
    exact ⟨seq, rfl, by omega, by omega⟩

/-- **One command has one verdict.** -/
theorem validateOne_judged (options : ValidationOptions) (guard : InputGuardState)
    (outcome : ValidationOutcome) (command : InputCommand) :
    ∃ reason, Judged options.bucket guard ⟨options.now, command, reason⟩
        (validateOne options (guard, outcome) command).1 ∧
      (validateOne options (guard, outcome) command).2.accepted.map (fun c => (options.now, c)) =
        outcome.accepted.map (fun c => (options.now, c)) ++
          (Verdict.accepted options.maxDtMs ⟨options.now, command, reason⟩).toList ∧
      (validateOne options (guard, outcome) command).2.rejected =
        outcome.rejected ++ (Verdict.rejected ⟨options.now, command, reason⟩).toList := by
  have hrecord : ∀ (state : InputGuardState) reason,
      state.level = (options.bucket.take guard.level options.now).2 →
      state.lastSeq = guard.lastSeq → state.rejections = guard.rejections →
      state.suspicion = guard.suspicion →
      Judged options.bucket guard ⟨options.now, command, some reason⟩
        (record state outcome command reason).1 := by
    intro state reason hlevel hlast hrejections hsuspicion
    refine ⟨hlevel, nofun, nofun, nofun, fun _ => hlast, fun r => ?_, ?_⟩
    · rw [record, hrejections]
      dsimp only
      by_cases h : r = reason
      · subst h
        rw [Function.update_self, if_pos rfl]
      · rw [Function.update_of_ne h, if_neg fun e => h (Option.some.inj e).symm, add_zero]
    · rw [record, hsuspicion]
      exact Nat.le_add_right _ _
  have hrecorded : ∀ state reason,
      (record state outcome command reason).2.accepted.map (fun c => (options.now, c)) =
          outcome.accepted.map (fun c => (options.now, c)) ++
            (Verdict.accepted options.maxDtMs ⟨options.now, command, some reason⟩).toList ∧
        (record state outcome command reason).2.rejected =
          outcome.rejected ++ (Verdict.rejected ⟨options.now, command, some reason⟩).toList :=
    fun _ _ => ⟨(List.append_nil _).symm, rfl⟩
  have hlevel : (options.bucket.take guard.level options.now).2 =
      ⟨(options.bucket.take guard.level options.now).2.tokens, options.now⟩ :=
    congrArg (TokenBucket.Level.mk _) TokenBucket.take_last
  unfold validateOne
  rw [consumeInputBudget_take]
  dsimp only
  cases hgiven : (options.bucket.take guard.level options.now).1 with
  | false => exact ⟨_, hrecord _ .rateLimited hlevel.symm rfl rfl rfl, hrecorded _ _⟩
  | true =>
      rw [if_neg (by decide)]
      rcases hvalid : isSequenceValid guard.lastSeq command.seq MAX_JUMP with _ | reason
      · obtain ⟨seq, hseq, hascends, hjump⟩ := isSequenceValid_eq_none hvalid
        dsimp only
        cases hangle : angleValid command.angle with
        | false => exact ⟨_, hrecord _ .badAngle hlevel.symm rfl rfl rfl, hrecorded _ _⟩
        | true =>
            cases hdt : dtValid command.dt with
            | false => exact ⟨_, hrecord _ .badDt hlevel.symm rfl rfl rfl, hrecorded _ _⟩
            | true =>
                rw [hseq]
                refine ⟨none, ⟨hlevel.symm, fun _ => hgiven, fun _ =>
                  ⟨integer?_eq_some hseq, hascends,
                  hjump⟩, fun _ => ⟨hangle, hdt⟩, nofun, fun _ => (add_zero _).symm, le_rfl⟩, ?_,
                    ?_⟩
                · exact List.map_append
                · exact (List.append_nil _).symm
      · exact ⟨_, hrecord _ reason hlevel.symm rfl rfl rfl, hrecorded _ _⟩

end Judge

/-! ### Verdicts in order -/

/-- The verdicts lead from one guard to another, with any decay in between. -/
inductive Hears (bucket : TokenBucket ℚ) :
    InputGuardState → List Verdict → InputGuardState → Prop where
  | nil (guard : InputGuardState) : Hears bucket guard [] guard
  | judge {guard guard₁ guard' : InputGuardState} {v : Verdict} {vs : List Verdict}
      (h : Judged bucket guard v guard₁) (t : Hears bucket guard₁ vs guard') :
      Hears bucket guard (v :: vs) guard'
  | decay {guard guard' : InputGuardState} {vs : List Verdict} (amount : ℕ)
      (t : Hears bucket (decaySuspicion guard amount) vs guard') : Hears bucket guard vs guard'

namespace Hears
variable {bucket : TokenBucket ℚ} {guard guard₁ guard' : InputGuardState}
  {vs vs' : List Verdict}

theorem append (h : Hears bucket guard vs guard₁) (h' : Hears bucket guard₁ vs' guard') :
    Hears bucket guard (vs ++ vs') guard' := by
  induction h with
  | nil => exact h'
  | judge hv _ ih => exact .judge hv (ih h')
  | decay amount _ ih => exact .decay amount (ih h')

/-- Each accepted number is in the window after the one before. -/
theorem numbers (h : Hears bucket guard vs guard') (maxDtMs : ℚ) : ∃ seqs : List ℤ,
    (vs.filterMap (Verdict.accepted maxDtMs)).map (·.2.seq) =
        seqs.map (fun seq : ℤ => Game.Num.finite seq) ∧
      (guard.lastSeq :: seqs).IsChain fun a b => a < b ∧ b ≤ a + MAX_JUMP := by
  induction h with
  | nil => exact ⟨[], rfl, .singleton _⟩
  | decay _ _ ih => exact ih
  | @judge guard guard₁ guard' v vs hv _ ih =>
      obtain ⟨seqs, hseqs, hchain⟩ := ih
      rcases hreason : v.reason with _ | reason
      · obtain ⟨hnumber, hascends, hjump⟩ := hv.numbered hreason
        refine ⟨guard₁.lastSeq :: seqs, ?_, .cons_cons ⟨hascends, hjump⟩ hchain⟩
        rw [List.filterMap_cons_some (by rw [Verdict.accepted, hreason]), List.map_cons,
          List.map_cons, hseqs, hnumber]
      · rw [hv.rejected (by rw [hreason]; nofun)] at hchain
        refine ⟨seqs, ?_, hchain⟩
        rw [List.filterMap_cons_none (by rw [Verdict.accepted, hreason]), hseqs]

/-- What is accepted are tokens of the bucket. -/
theorem times (h : Hears bucket guard vs guard') (maxDtMs : ℚ) :
    ((vs.filterMap (Verdict.accepted maxDtMs)).map fun a => (a.1 : ℚ)).Sublist
      (bucket.takes guard.level (vs.map fun v => (v.now : ℚ))) := by
  induction h with
  | nil => exact .slnil
  | decay _ _ ih => exact ih
  | @judge guard guard₁ guard' v vs hv _ ih =>
      rw [List.map_cons, TokenBucket.takes, ← hv.level]
      rcases hreason : v.reason with _ | reason
      · rw [List.filterMap_cons_some (by rw [Verdict.accepted, hreason]), List.map_cons,
          if_pos (hv.given hreason)]
        exact ih.cons_cons _
      · rw [List.filterMap_cons_none (by rw [Verdict.accepted, hreason])]
        split_ifs
        · exact ih.cons _
        · exact ih

theorem rejections (h : Hears bucket guard vs guard') (reason : RejectionReason) :
    guard'.rejections reason =
      guard.rejections reason + vs.countP fun v => v.reason = some reason := by
  induction h with
  | nil => rfl
  | decay _ _ ih => exact ih
  | judge hv _ ih =>
      simp only [ih, hv.rejections, List.countP_cons, decide_eq_true_eq]
      omega

theorem fields (h : Hears bucket guard vs guard') : ∀ v ∈ vs, v.reason = none →
    angleValid v.command.angle = true ∧ dtValid v.command.dt = true := by
  induction h with
  | nil => exact List.forall_mem_nil _
  | decay _ _ ih => exact ih
  | judge hv _ ih => exact List.forall_mem_cons.mpr ⟨hv.fields, ih⟩

end Hears

/-! ### Batches -/

section Batches
variable {options : ValidationOptions}

/-- A batch, command by command. -/
theorem foldl_validateOne (options : ValidationOptions) (commands : List InputCommand) :
    ∀ guard outcome, ∃ vs : List Verdict,
      Hears options.bucket guard vs (commands.foldl (validateOne options) (guard, outcome)).1 ∧
        vs.map (fun v => (v.now, v.command)) = commands.map (fun c => (options.now, c)) ∧
        (commands.foldl (validateOne options) (guard, outcome)).2.accepted.map
            (fun c => (options.now, c)) =
          outcome.accepted.map (fun c => (options.now, c)) ++
            vs.filterMap (Verdict.accepted options.maxDtMs) ∧
        (commands.foldl (validateOne options) (guard, outcome)).2.rejected =
          outcome.rejected ++ vs.filterMap Verdict.rejected := by
  induction commands with
  | nil => exact fun guard outcome =>
      ⟨[], .nil _, rfl, (List.append_nil _).symm, (List.append_nil _).symm⟩
  | cons command commands ih =>
      intro guard outcome
      obtain ⟨reason, hjudged, haccepted, hrejected⟩ :=
        validateOne_judged options guard outcome command
      obtain ⟨vs, hhears, hcommands, haccepted', hrejected'⟩ :=
        ih (validateOne options (guard, outcome) command).1
          (validateOne options (guard, outcome) command).2
      refine ⟨⟨options.now, command, reason⟩ :: vs, .judge hjudged hhears, ?_, ?_, ?_⟩
      · rw [List.map_cons, List.map_cons, hcommands]
      · rw [List.foldl_cons, haccepted', haccepted, List.append_assoc, List.filterMap_cons]
        cases Verdict.accepted options.maxDtMs ⟨options.now, command, reason⟩ <;> rfl
      · rw [List.foldl_cons, hrejected', hrejected, List.append_assoc, List.filterMap_cons]
        cases Verdict.rejected ⟨options.now, command, reason⟩ <;> rfl

/-- What a session has heard. -/
structure Session.Tells (options : ValidationOptions) (commands : List (ℕ × InputCommand))
    (vs : List Verdict) (s s' : Session) : Prop where
  hears : Hears options.bucket s.guard vs s'.guard
  commands : vs.map (fun v => (v.now, v.command)) = commands
  accepted : s'.accepted = s.accepted ++ vs.filterMap (Verdict.accepted options.maxDtMs)
  rejected : s'.rejected = s.rejected ++ vs.filterMap Verdict.rejected

theorem after_tells (options : ValidationOptions) (s : Session) (event : GuardEvent) :
    ∃ vs, s.Tells options event.commands vs (s.after options event) := by
  cases event with
  | batch commands now =>
      obtain ⟨vs, hhears, hcommands, haccepted, hrejected⟩ :=
        foldl_validateOne { options with now } commands s.guard ⟨[], []⟩
      exact ⟨vs, hhears, hcommands, congrArg (s.accepted ++ ·) haccepted,
        congrArg (s.rejected ++ ·) hrejected⟩
  | decay amount =>
      exact ⟨[], .decay amount (.nil _), rfl, (List.append_nil _).symm, (List.append_nil _).symm⟩

theorem play_tells (options : ValidationOptions) (events : List GuardEvent) : ∀ s : Session,
    ∃ vs, s.Tells options (events.flatMap GuardEvent.commands) vs (s.play options events) := by
  induction events with
  | nil => exact fun s => ⟨[], .nil _, rfl, (List.append_nil _).symm, (List.append_nil _).symm⟩
  | cons event events ih =>
      intro s
      obtain ⟨vs, hvs⟩ := after_tells options s event
      obtain ⟨vs', hvs'⟩ := ih (s.after options event)
      refine ⟨vs ++ vs', hvs.hears.append hvs'.hears, ?_, ?_, ?_⟩
      · rw [List.map_append, hvs.commands, hvs'.commands, List.flatMap_cons]
      · rw [Session.play, List.foldl_cons, List.filterMap_append, ← List.append_assoc,
          ← hvs.accepted]
        exact hvs'.accepted
      · rw [Session.play, List.foldl_cons, List.filterMap_append, ← List.append_assoc,
          ← hvs.rejected]
        exact hvs'.rejected

/-- What holds of all that a socket's batches had accepted. -/
structure Session.Bounded (options : ValidationOptions) (commands : List (ℕ × InputCommand))
    (s : Session) : Prop where
  numbers : ∃ seqs : List ℤ,
    s.accepted.map (·.2.seq) = seqs.map (fun seq : ℤ => Game.Num.finite seq) ∧
      (0 :: seqs).IsChain fun a b => a < b ∧ b ≤ a + MAX_JUMP
  angles : ∀ a ∈ s.accepted, ∃ q, a.2.angle = .finite q ∧ |q| ≤ PI + 1 / 1000000
  times : ∀ a ∈ s.accepted, ∃ q, a.2.dt = .finite q ∧ q ≤ options.maxDtMs ∧
    (0 ≤ options.maxDtMs → 0 ≤ q)
  rate : ∀ start stop : ℚ, start ≤ stop →
    (s.accepted.countP fun a => start ≤ a.1 ∧ a.1 ≤ stop : ℚ) ≤
      options.burst + options.ratePerSecond * ((stop - start) / 1000)
  /-- Each command is accepted, or counted in one rejection. -/
  verdicts : ∃ vs : List Verdict, vs.map (fun v => (v.now, v.command)) = commands ∧
    s.accepted = vs.filterMap (Verdict.accepted options.maxDtMs) ∧
    s.rejected = vs.filterMap Verdict.rejected ∧
    ∀ reason, s.guard.rejections reason = vs.countP fun v => v.reason = some reason

theorem mem_accepted {maxDtMs : ℚ} {vs : List Verdict} {a : ℕ × InputCommand}
    (h : a ∈ vs.filterMap (Verdict.accepted maxDtMs)) : ∃ v ∈ vs, v.reason = none ∧
      a = (v.now, { v.command with dt := .finite (clampDeltaTime v.command.dt maxDtMs) }) := by
  obtain ⟨v, hv, ha⟩ := List.mem_filterMap.mp h
  refine ⟨v, hv, ?_⟩
  unfold Verdict.accepted at ha
  rcases hreason : v.reason with _ | reason
  · rw [hreason] at ha
    exact ⟨rfl, (Option.some.inj ha).symm⟩
  · rw [hreason] at ha
    cases ha

theorem angleValid_le {angle : Game.Num} (h : angleValid angle = true) :
    ∃ q, angle = .finite q ∧ |q| ≤ PI + 1 / 1000000 := by
  cases angle with
  | finite q => exact ⟨q, rfl, of_decide_eq_true h⟩
  | infinity | negInfinity | nan => cases h

theorem clampDeltaTime_le {dt : Game.Num} {maxDt : ℚ} (h : dtValid dt = true) :
    clampDeltaTime dt maxDt ≤ maxDt ∧ (0 ≤ maxDt → 0 ≤ clampDeltaTime dt maxDt) := by
  cases dt with
  | finite q =>
      obtain ⟨hnonneg, -⟩ := of_decide_eq_true h
      have hclamp : clampDeltaTime (.finite q) maxDt = min q maxDt := if_neg (not_lt.mpr hnonneg)
      rw [hclamp]
      exact ⟨min_le_right _ _, le_min hnonneg⟩
  | infinity | negInfinity | nan => cases h

/-- The commands of a run come in order when its batches do. -/
theorem sorted_commands {events : List GuardEvent}
    (h : (events.filterMap GuardEvent.now?).Pairwise (· ≤ ·)) :
    ((events.flatMap GuardEvent.commands).map Prod.fst).Pairwise (· ≤ ·) := by
  induction events with
  | nil => exact .nil
  | cons event events ih =>
      cases event with
      | decay amount => exact ih h
      | batch commands now =>
          have hlater : ∀ t ∈ (events.flatMap GuardEvent.commands).map Prod.fst, now ≤ t := by
            intro t ht
            obtain ⟨c, hc, rfl⟩ := List.mem_map.mp ht
            obtain ⟨later, hlater, hc⟩ := List.mem_flatMap.mp hc
            cases later with
            | decay amount => cases hc
            | batch commands' now' =>
                obtain ⟨command, -, rfl⟩ := List.mem_map.mp hc
                exact List.rel_of_pairwise_cons h (List.mem_filterMap.mpr ⟨_, hlater, rfl⟩)
          rw [List.flatMap_cons, List.map_append, List.pairwise_append]
          refine ⟨?_, ih (List.Pairwise.of_cons h), fun t ht t' ht' => ?_⟩
          · refine List.pairwise_of_forall_mem_list fun t ht t' ht' => ?_
            obtain ⟨c, hc, rfl⟩ := List.mem_map.mp ht
            obtain ⟨c', hc', rfl⟩ := List.mem_map.mp ht'
            obtain ⟨command, -, rfl⟩ := List.mem_map.mp hc
            obtain ⟨command', -, rfl⟩ := List.mem_map.mp hc'
            exact le_rfl
          · obtain ⟨c, hc, rfl⟩ := List.mem_map.mp ht
            obtain ⟨command, -, rfl⟩ := List.mem_map.mp hc
            exact hlater t' ht'

/-- **What is accepted of any batches.** -/
theorem accepted_bounded (options : ValidationOptions) (hrate : 0 ≤ options.ratePerSecond)
    (hburst : 0 ≤ options.burst) (start : ℕ) (events : List GuardEvent)
    (hclock : (events.filterMap GuardEvent.now?).Pairwise (· ≤ ·)) :
    ((Session.opened options start).play options events).Bounded options
        (events.flatMap GuardEvent.commands) ∧
      ∀ (s : Session) commands now amount,
        s.guard.suspicion ≤ (s.after options (.batch commands now)).guard.suspicion ∧
        (s.after options (.decay amount)).guard.suspicion = s.guard.suspicion - amount := by
  refine ⟨?_, fun s commands now amount => ⟨?_, rfl⟩⟩
  · obtain ⟨vs, hvs⟩ := play_tells options events (Session.opened options start)
    have haccepted : ((Session.opened options start).play options events).accepted =
        vs.filterMap (Verdict.accepted options.maxDtMs) := hvs.accepted
    constructor
    · rw [haccepted]
      exact hvs.hears.numbers _
    · intro a ha
      obtain ⟨v, hv, hreason, rfl⟩ := mem_accepted (haccepted ▸ ha)
      exact angleValid_le (hvs.hears.fields v hv hreason).1
    · intro a ha
      obtain ⟨v, hv, hreason, rfl⟩ := mem_accepted (haccepted ▸ ha)
      exact ⟨_, rfl, clampDeltaTime_le (hvs.hears.fields v hv hreason).2⟩
    · intro start' stop hspan
      have hsorted : (vs.map fun v => (v.now : ℚ)).Pairwise (· ≤ ·) := by
        have hnows : vs.map (fun v => (v.now : ℚ)) =
            ((events.flatMap GuardEvent.commands).map Prod.fst).map fun t : ℕ => (t : ℚ) := by
          rw [← hvs.commands, List.map_map, List.map_map]
          rfl
        rw [hnows]
        exact (sorted_commands hclock).map _ fun _ _ h => Nat.cast_le.mpr h
      have htakes := (hvs.hears.times options.maxDtMs).countP_le
        (p := fun t : ℚ => start' ≤ t ∧ t ≤ stop)
      have hcount := TokenBucket.count_takes_le (b := options.bucket)
        (s := (Session.opened options start).guard.level) (div_nonneg hrate (by norm_num)) hburst
        hspan hburst hsorted
      rw [List.countP_map, ← haccepted] at htakes
      calc _ ≤ _ := Nat.cast_le.mpr htakes
        _ ≤ _ := hcount
        _ = _ := by rw [ValidationOptions.bucket]; ring
    · refine ⟨vs, hvs.commands, haccepted, hvs.rejected, fun reason => ?_⟩
      exact (hvs.hears.rejections reason).trans (Nat.zero_add _)
  · have hstep : ∀ p : InputGuardState × ValidationOutcome, s.guard.suspicion ≤ p.1.suspicion →
        ∀ command ∈ commands,
          s.guard.suspicion ≤ (validateOne { options with now } p command).1.suspicion := by
      intro p hp command _
      obtain ⟨reason, hjudged, -⟩ := validateOne_judged { options with now } p.1 p.2 command
      exact hp.trans hjudged.suspicion
    exact List.foldlRecOn commands (validateOne { options with now })
      (show s.guard.suspicion ≤ (s.guard, (⟨[], []⟩ : ValidationOutcome)).1.suspicion from le_rfl)
      hstep

/-- Three commands at once, and sixty a second. -/
def threeAtOnce : ValidationOptions := ⟨0, 50, 60, 3⟩

def steered (seq angle dt : ℚ) : InputCommand := ⟨.finite seq, .finite angle, false, .finite dt⟩

/-- A number is repeated, an angle forged, and a command is one too many; later a number is old, one
is far ahead, and a time is no number. -/
def forged : List GuardEvent :=
  [.batch
      [steered 1 0 16, steered 1 0 16, ⟨.finite 2, .nan, false, .finite 16⟩, steered 2 0 16] 0,
    .decay 2,
    .batch [steered 1 0 16, steered 2 (PI + 1 / 2000000) 200, steered 100000 0 16] 100,
    .batch [⟨.finite 3, .finite 0, true, .infinity⟩, steered 3 1 16] 150]

theorem accepted_bounded_forged :
    ((Session.opened threeAtOnce 0).play threeAtOnce forged).Bounded threeAtOnce
      (forged.flatMap GuardEvent.commands) ∧
    ((Session.opened threeAtOnce 0).play threeAtOnce forged).accepted =
      [(0, steered 1 0 16), (100, steered 2 (PI + 1 / 2000000) 50), (150, steered 3 1 16)] ∧
    ((Session.opened threeAtOnce 0).play threeAtOnce forged).rejected.map (·.2) =
      [.staleSequence, .badAngle, .rateLimited, .staleSequence, .sequenceJump, .badDt] :=
  ⟨(accepted_bounded threeAtOnce (by decide) (by decide) 0 forged (by decide)).1,
    by decide +kernel, by decide +kernel⟩

/-- Sixty commands a second, and one whose angle is past `Math.PI`. -/
def sixtyPerSecond : ValidationOptions := ⟨0, 50, 60, 60⟩

def pastPi : List GuardEvent := [.batch [steered 1 (PI + 1 / 2000000) 50] 0, .decay 2]

/-- An angle past `Math.PI` is accepted. -/
theorem accepted_pastPi : ¬∀ (options : ValidationOptions) (start : ℕ) (events : List GuardEvent),
    0 ≤ options.ratePerSecond → 0 ≤ options.burst →
      (events.filterMap GuardEvent.now?).Pairwise (· ≤ ·) →
        ∀ a ∈ ((Session.opened options start).play options events).accepted,
          ∃ q, a.2.angle = .finite q ∧ |q| ≤ PI := by
  intro h
  have hmem : (0, steered 1 (PI + 1 / 2000000) 50) ∈
      ((Session.opened sixtyPerSecond 0).play sixtyPerSecond pastPi).accepted := by decide +kernel
  obtain ⟨q, hq, hle⟩ :=
    h sixtyPerSecond 0 pastPi (by decide) (by decide) (by decide) _ hmem
  obtain rfl := Game.Num.finite.inj hq
  have hpi : PI < PI + 1 / 2000000 := by norm_num
  exact absurd (hpi.trans_le (le_abs_self _)) hle.not_gt

end Batches

end SnakeArena.Realtime
