import SnakeArena.Game.World

/-!
# Game — the newest input

What the queue of a living snake leaves is what its newest command says, the first of those that
have the greatest number, where that is new (`Newest`).  With distinct numbers there is one such
command, so that the order of the queue is nothing to it.  The number acknowledged never falls as
long as the snake is in the world.

The queue of a dead snake is dropped: what it acknowledged last stays.
-/

namespace SnakeArena.Game
open SnakeArena.Library

/-! ### Numbers in order -/

namespace Num
variable {a b c : Num}

theorem lt_self (a : Num) : a.lt a = false := by
  cases a <;> simp [lt]

theorem lt_trans (h : a.lt b = true) (h' : b.lt c = true) : a.lt c = true := by
  cases a <;> cases b <;> cases c <;> simp [lt] at h h' ⊢
  exact h.trans h'

/-- What is above the one is above the other. -/
theorem not_lt_of_lt (h : b.lt a = false) (h' : b.lt c = true) : c.lt a = false := by
  cases a <;> cases b <;> cases c <;> simp [lt] at h h' ⊢
  exact h.trans h'.le

/-- Two numbers neither of which is less, as neither is `NaN`. -/
theorem eq_of_not_lt (ha : c.lt a = true) (hb : c.lt b = true) (h : a.lt b = false)
    (h' : b.lt a = false) : a = b := by
  cases a <;> cases b <;> cases c <;> simp [lt] at ha hb h h' ⊢
  all_goals exact le_antisymm h' h

end Num

/-! ### One queue -/

section Queues

/-- The steering is left alone if no command is new; or it is what the first of the newest
says. -/
structure Newest (s : Steering) (queue : List InputCommand) (s' : Steering) : Prop where
  /-- No number is greater: not the old one, and none of those queued. -/
  old : s'.lastAckSeq.lt s.lastAckSeq = false
  queued : ∀ c ∈ queue, s'.lastAckSeq.lt c.seq = false
  taken : s' = s ∧ (∀ c ∈ queue, s.lastAckSeq.lt c.seq = false) ∨
    ∃ before c after, queue = before ++ c :: after ∧ (∀ d ∈ before, d.seq ≠ c.seq) ∧
      s.lastAckSeq.lt c.seq = true ∧ s' = ⟨c.angle.finite?, c.boost, c.seq⟩

variable {s s' s'' : Steering} {queue queue' : List InputCommand} {command : InputCommand}

theorem Newest.nil (s : Steering) : Newest s [] s where
  old := Num.lt_self _
  queued _ h := absurd h List.not_mem_nil
  taken := .inl ⟨rfl, fun _ h => absurd h List.not_mem_nil⟩

/-- What the old number is not below, the new one is not. -/
theorem Newest.ahead (h : Newest s queue s') {a : Num} (ha : s.lastAckSeq.lt a = false) :
    s'.lastAckSeq.lt a = false := by
  rcases h.taken with ⟨rfl, -⟩ | ⟨_, c, _, -, -, hc, rfl⟩
  · exact ha
  · exact Num.not_lt_of_lt ha hc

/-- A command that is not new is passed over. -/
theorem Newest.pass (hpass : s.lastAckSeq.lt command.seq = false) (h : Newest s queue s') :
    Newest s (command :: queue) s' := by
  refine ⟨h.old, List.forall_mem_cons.mpr ⟨h.ahead hpass, h.queued⟩, ?_⟩
  rcases h.taken with ⟨rfl, hnone⟩ | ⟨before, c, after, rfl, hbefore, hc, rfl⟩
  · exact .inl ⟨rfl, List.forall_mem_cons.mpr ⟨hpass, hnone⟩⟩
  · refine .inr ⟨command :: before, c, after, rfl, List.forall_mem_cons.mpr ⟨?_, hbefore⟩, hc, rfl⟩
    rintro heq
    rw [heq, hc] at hpass
    cases hpass

/-- A new command is taken, and superseded by what is newer. -/
theorem Newest.take (hnew : s.lastAckSeq.lt command.seq = true)
    (h : Newest ⟨command.angle.finite?, command.boost, command.seq⟩ queue s') :
    Newest s (command :: queue) s' := by
  obtain ⟨hold, hqueued, htaken⟩ := h
  refine ⟨?_, List.forall_mem_cons.mpr ⟨hold, hqueued⟩, .inr ?_⟩
  · rcases htaken with ⟨rfl, -⟩ | ⟨_, c, _, -, -, hc, rfl⟩
    · exact Num.not_lt_of_lt (Num.lt_self _) hnew
    · exact Num.not_lt_of_lt (Num.lt_self _) (Num.lt_trans hnew hc)
  · rcases htaken with ⟨rfl, -⟩ | ⟨before, c, after, rfl, hbefore, hc, rfl⟩
    · exact ⟨[], command, queue, rfl, nofun, hnew, rfl⟩
    · refine ⟨command :: before, c, after, rfl, List.forall_mem_cons.mpr ⟨?_, hbefore⟩,
        Num.lt_trans hnew hc, rfl⟩
      rintro heq
      rw [← heq, Num.lt_self] at hc
      cases hc

theorem newest_foldl (queue : List InputCommand) :
    ∀ s, Newest s queue (queue.foldl Steering.apply s) := by
  induction queue with
  | nil => exact Newest.nil
  | cons command queue ih =>
      intro s
      rw [List.foldl_cons]
      cases hnew : s.lastAckSeq.lt command.seq with
      | false =>
          rw [show s.apply command = s from if_neg (by rw [hnew]; nofun)]
          exact (ih s).pass hnew
      | true =>
          rw [show s.apply command = _ from if_pos hnew]
          exact .take hnew (ih _)

/-- With distinct numbers there is one newest command, wherever it is queued. -/
theorem Newest.unique (hdistinct : (queue.map (·.seq)).Nodup) (hmem : ∀ c, c ∈ queue' ↔ c ∈ queue)
    (h : Newest s queue s') (h' : Newest s queue' s'') : s' = s'' := by
  rcases h.taken with ⟨rfl, hnone⟩ | ⟨before, c, after, hqueue, -, hc, rfl⟩
  · rcases h'.taken with ⟨rfl, -⟩ | ⟨before', c', after', hqueue', -, hc', rfl⟩
    · rfl
    · have hmem' : c' ∈ queue' := hqueue' ▸ List.mem_append_right _ (.head _)
      rw [hnone c' ((hmem c').mp hmem')] at hc'
      cases hc'
  · have hc_mem : c ∈ queue := hqueue ▸ List.mem_append_right _ (.head _)
    rcases h'.taken with ⟨rfl, hnone'⟩ | ⟨before', c', after', hqueue', -, hc', rfl⟩
    · rw [hnone' c ((hmem c).mpr hc_mem)] at hc
      cases hc
    · have hc'_mem : c' ∈ queue := (hmem c').mp (hqueue' ▸ List.mem_append_right _ (.head _))
      have hseq : c.seq = c'.seq := Num.eq_of_not_lt hc hc' (h.queued c' hc'_mem)
        (h'.queued c ((hmem c).mpr hc_mem))
      rw [List.inj_on_of_nodup_map hdistinct hc_mem hc'_mem hseq]

theorem foldl_apply_perm (hperm : queue.Perm queue') (hdistinct : (queue.map (·.seq)).Nodup)
    (s : Steering) : queue.foldl Steering.apply s = queue'.foldl Steering.apply s :=
  (newest_foldl queue s).unique hdistinct (fun _ => hperm.mem_iff.symm) (newest_foldl queue' s)

end Queues

/-! ### The queues of a world -/

namespace WorldState
variable {w : WorldState} {id playerId : ℕ}

def queue (w : WorldState) (id : EntityId) : List InputCommand := (w.pendingInputs.get id).getD []

/-- The living are steered by their queues. -/
theorem snakes_applyInputs (w : WorldState) : (applyInputs w).snakes =
    w.snakes.mapValues fun id snake =>
      if snake.alive then
        { snake with toSteering := (w.queue id).foldl Steering.apply snake.toSteering }
      else snake := by
  unfold applyInputs queue
  dsimp only
  refine OrderedMap.mapValues_congr fun id snake _ => ?_
  cases w.pendingInputs.get id with
  | none => simp only [Option.getD_none, List.foldl_nil, ite_self]
  | some queue => rfl

theorem queue_applyInputs : (applyInputs w).queue id = [] := by
  unfold applyInputs queue
  dsimp only
  rw [OrderedMap.get_mapValues]
  cases w.pendingInputs.get id <;> rfl

/-- The commands of some players, one after the other. -/
def enqueueInputs (w : WorldState) (sent : List (ℕ × InputCommand)) : WorldState :=
  sent.foldl (fun w e => enqueueInput w e.1 e.2) w

/-- Those that are for an entity. -/
def sentTo (w : WorldState) (id : EntityId) (sent : List (ℕ × InputCommand)) : List InputCommand :=
  (sent.filter fun e => w.playerIndex.get e.1 = some id).map Prod.snd

theorem enqueueInput_eq (w : WorldState) (playerId : ℕ) (command : InputCommand) :
    ∃ pendingInputs, enqueueInput w playerId command = { w with pendingInputs } ∧
      ∀ id, (enqueueInput w playerId command).queue id =
        w.queue id ++ w.sentTo id [(playerId, command)] := by
  unfold enqueueInput sentTo
  split
  next hnone =>
    refine ⟨w.pendingInputs, rfl, fun id => ?_⟩
    rw [List.filter_cons_of_neg (by simp [hnone])]
    exact (List.append_nil _).symm
  next id hid =>
    refine ⟨_, rfl, fun id' => ?_⟩
    unfold queue
    dsimp only
    rw [OrderedMap.get_set]
    split_ifs with heq
    · rw [heq, List.filter_cons_of_pos (by simp [hid])]
      rfl
    · rw [List.filter_cons_of_neg (by simpa [hid] using Ne.symm heq)]
      exact (List.append_nil _).symm

theorem enqueueInputs_eq (sent : List (ℕ × InputCommand)) : ∀ w : WorldState,
    ∃ pendingInputs, w.enqueueInputs sent = { w with pendingInputs } ∧
      ∀ id, (w.enqueueInputs sent).queue id = w.queue id ++ w.sentTo id sent := by
  induction sent with
  | nil => exact fun w => ⟨_, rfl, fun id => (List.append_nil _).symm⟩
  | cons e sent ih =>
      intro w
      obtain ⟨pendingInputs, heq, hqueue⟩ := enqueueInput_eq w e.1 e.2
      obtain ⟨pendingInputs', heq', hqueue'⟩ := ih (enqueueInput w e.1 e.2)
      refine ⟨pendingInputs', ?_, fun id => ?_⟩
      · exact heq'.trans (by rw [heq])
      · refine (hqueue' id).trans ?_
        rw [hqueue, List.append_assoc, show (enqueueInput w e.1 e.2).sentTo id sent =
          w.sentTo id sent by rw [heq]; rfl]
        unfold sentTo
        rw [← List.map_append, ← List.filter_append, List.singleton_append]

/-- Queues in another order lead to the same snakes. -/
theorem applyInputs_perm (pendingInputs : OrderedMap EntityId (List InputCommand))
    (hperm : ∀ id, (w.queue id).Perm ({ w with pendingInputs }.queue id))
    (hdistinct : ∀ id, ((w.queue id).map (·.seq)).Nodup) :
    (applyInputs { w with pendingInputs }).snakes = (applyInputs w).snakes := by
  rw [snakes_applyInputs, snakes_applyInputs]
  refine OrderedMap.mapValues_congr fun id snake _ => ?_
  rw [foldl_apply_perm (hperm id) (hdistinct id) snake.toSteering]

theorem enqueueInputs_perm {sent sent' : List (ℕ × InputCommand)} (w : WorldState)
    (hperm : sent.Perm sent')
    (hdistinct : ∀ id, (((w.enqueueInputs sent).queue id).map (·.seq)).Nodup) :
    applyInputs (w.enqueueInputs sent') =
      { applyInputs (w.enqueueInputs sent) with
        pendingInputs := (applyInputs (w.enqueueInputs sent')).pendingInputs } := by
  obtain ⟨pendingInputs, heq, hqueue⟩ := enqueueInputs_eq sent w
  obtain ⟨pendingInputs', heq', hqueue'⟩ := enqueueInputs_eq sent' w
  have hperms : ∀ id, ((w.enqueueInputs sent).queue id).Perm ((w.enqueueInputs sent').queue id) :=
    fun id => by
      rw [hqueue, hqueue']
      exact (hperm.filter _ |>.map _).append_left _
  rw [heq] at hperms hdistinct ⊢
  rw [heq'] at hperms ⊢
  have hsnakes := applyInputs_perm pendingInputs' hperms hdistinct
  unfold applyInputs at hsnakes ⊢
  dsimp only at hsnakes ⊢
  rw [hsnakes]

/-! ### The life of a snake -/

variable {config : SimulationConfig} {maths : Maths} {s s' : SnakeEntity} {w' : WorldState}

/-- After the inputs nothing in a step steers. -/
theorem step_toSteering (hs : w.snakes.get id = some s)
    (hs' : (step config maths w).1.snakes.get id = some s') : s'.toSteering =
      if s.alive then (w.queue id).foldl Steering.apply s.toSteering else s.toSteering := by
  have happlied : (applyInputs w).snakes.get id = some
      (if s.alive then { s with toSteering := (w.queue id).foldl Steering.apply s.toSteering }
      else s) := by
    rw [snakes_applyInputs, OrderedMap.get_mapValues, hs]
    rfl
  obtain ⟨s₂, hs₂, hmoved⟩ := (@moveSnakes_moves maths config _).forth happlied
  obtain ⟨s₃, hs₃, hfed⟩ := (step_feasts config w).forth hs₂
  obtain rfl := Option.some.inj (hs'.symm.trans hs₃)
  rw [hfed.toSteering, hmoved]
  split_ifs
  · exact (moveSnake_motion config maths _).toSteering
  · rfl

theorem lastAckSeq_of_run {acts : List WorldAct} (hid : id < w.nextEntityId)
    (h : Run (Plays config maths) w acts w') (hs : w.snakes.get id = some s)
    (hs' : w'.snakes.get id = some s') : s'.lastAckSeq.lt s.lastAckSeq = false := by
  have hlife : id < w'.nextEntityId ∧ ∀ s', w'.snakes.get id = some s' →
      s'.lastAckSeq.lt s.lastAckSeq = false := by
    refine h.invariant (I := fun w => id < w.nextEntityId ∧ ∀ s', w.snakes.get id = some s' →
      s'.lastAckSeq.lt s.lastAckSeq = false) ?_ ⟨hid, fun s' hs' => ?_⟩
    · rintro w a _ ⟨hid, hacked⟩ rfl
      obtain ⟨hid', hback⟩ := w.after_life config maths a hid
      refine ⟨hid', fun s' hs' => ?_⟩
      obtain ⟨s₁, hs₁, rfl | rfl⟩ := hback s' hs'
      · exact hacked s' hs₁
      · rw [show s'.lastAckSeq = s'.toSteering.lastAckSeq from rfl, step_toSteering hs₁ hs']
        split_ifs
        · exact (newest_foldl _ _).ahead (hacked s₁ hs₁)
        · exact hacked s₁ hs₁
    · rw [Option.some.inj (hs'.symm.trans hs)]
      exact Num.lt_self _
  exact hlife.2 s' hs'

end WorldState

/-! ### Any world -/

/-- What the inputs do to a world: each living snake is steered by the newest command queued for it,
the others are left as they are, and every queue is empty; what is queued is what was sent, in the
order in which it was sent, and another order leads to the same world where the numbers in a queue
are distinct.  Over the life of a snake the number it acknowledges never falls. -/
theorem applyInputs_newest (config : SimulationConfig) (maths : Maths) :
    (∀ (w : WorldState) id s, w.snakes.get id = some s → s.alive = true → ∃ steering,
      Newest s.toSteering (w.queue id) steering ∧
        (applyInputs w).snakes.get id = some { s with toSteering := steering }) ∧
    (∀ (w : WorldState) id, (∀ s, w.snakes.get id = some s → s.alive = false) →
      (applyInputs w).snakes.get id = w.snakes.get id) ∧
    (∀ (w : WorldState) id, (applyInputs w).queue id = []) ∧
    (∀ (w : WorldState) sent id, (w.enqueueInputs sent).queue id = w.queue id ++ w.sentTo id sent) ∧
    (∀ (w : WorldState) sent sent', sent.Perm sent' →
      (∀ id, (((w.enqueueInputs sent).queue id).map (·.seq)).Nodup) →
        applyInputs (w.enqueueInputs sent') =
          { applyInputs (w.enqueueInputs sent) with
            pendingInputs := (applyInputs (w.enqueueInputs sent')).pendingInputs }) ∧
    ∀ w, Reachable (Plays config maths) (· = createWorld config maths) w → ∀ acts w',
      Run (Plays config maths) w acts w' → ∀ id s s', w.snakes.get id = some s →
        w'.snakes.get id = some s' → s'.lastAckSeq.lt s.lastAckSeq = false := by
  refine ⟨?_, ?_, fun w id => WorldState.queue_applyInputs, ?_, ?_, ?_⟩
  · intro w id s hs halive
    refine ⟨_, newest_foldl (w.queue id) s.toSteering, ?_⟩
    rw [WorldState.snakes_applyInputs, OrderedMap.get_mapValues, hs, Option.map_some, if_pos halive]
  · intro w id hdead
    rw [WorldState.snakes_applyInputs, OrderedMap.get_mapValues]
    cases hs : w.snakes.get id with
    | none => rfl
    | some s => rw [Option.map_some, if_neg (by rw [hdead s hs]; nofun)]
  · intro w sent id
    obtain ⟨-, -, hqueue⟩ := WorldState.enqueueInputs_eq sent w
    exact hqueue id
  · exact fun w sent sent' hperm hdistinct => w.enqueueInputs_perm hperm hdistinct
  · intro w hw acts w' hrun id s s' hs hs'
    exact WorldState.lastAckSeq_of_run ((reachable_sound hw).snakes id s hs).2.1 hrun hs hs'

/-- Two commands, the newer one first. -/
def lateArrival : List (ℕ × InputCommand) :=
  [(1, ⟨.finite 2, .finite 1, true, .finite 50⟩), (1, ⟨.finite 1, .finite 0, false, .finite 50⟩)]

def alone : WorldState := spawnSnake rounded (createWorld bare rounded) 1 "a" false

theorem applyInputs_newest_lateArrival :
    (∃ s steering, alone.snakes.get 1 = some s ∧
      Newest s.toSteering (lateArrival.map Prod.snd) steering) ∧
    applyInputs (alone.enqueueInputs lateArrival.reverse) =
      { applyInputs (alone.enqueueInputs lateArrival) with
        pendingInputs :=
          (applyInputs (alone.enqueueInputs lateArrival.reverse)).pendingInputs } := by
  obtain ⟨hliving, -, -, hqueue, hperm, -⟩ := applyInputs_newest bare rounded
  have hsent : (alone.enqueueInputs lateArrival).queue 1 = lateArrival.map Prod.snd := by
    decide
  constructor
  · have halive : ((alone.enqueueInputs lateArrival).snakes.get 1).map (·.alive) = some true := by
      decide
    obtain ⟨s, hs, halive⟩ := Option.map_eq_some_iff.mp halive
    obtain ⟨steering, hnewest, -⟩ := hliving _ 1 s hs halive
    exact ⟨s, steering, hs, hsent ▸ hnewest⟩
  · refine hperm alone lateArrival lateArrival.reverse (List.reverse_perm _).symm fun id => ?_
    have hsublist : ((alone.sentTo id lateArrival).map (·.seq)).Sublist
        ((lateArrival.map Prod.snd).map (·.seq)) := (List.filter_sublist.map _).map _
    rw [hqueue]
    exact (show (lateArrival.map Prod.snd |>.map (·.seq)).Nodup by decide).sublist hsublist

/-- An arena no snake fits into. -/
def narrow : SimulationConfig := ⟨20, twenty_pos, 1, 80, eighty_pos, 1, some 0⟩

/-- A snake that has died, and an input. -/
def late : WorldState :=
  enqueueInput (step narrow rounded (spawnSnake rounded (createWorld narrow rounded) 1 "a" false)).1
    1 ⟨.finite 1, .finite 1, false, .finite 50⟩

/-- What is queued for a dead snake is not acknowledged. -/
theorem applyInputs_dead : ¬∀ w, Reachable (Plays narrow rounded)
    (· = createWorld narrow rounded) w →
    ∀ id s, w.snakes.get id = some s → ∃ steering, Newest s.toSteering (w.queue id) steering ∧
      (applyInputs w).snakes.get id = some { s with toSteering := steering } := by
  intro h
  have hreach : Reachable (Plays narrow rounded) (· = createWorld narrow rounded) late :=
    ⟨_, [.spawnSnake 1 "a" false, .step, .enqueueInput 1 _], rfl,
      .cons rfl (.cons rfl (.cons rfl (.nil _)))⟩
  have hdead : (late.snakes.get 1).map (fun s => (s.alive, s.lastAckSeq)) =
      some (false, .finite 0) := by decide +kernel
  have hqueue : late.queue 1 = [⟨.finite 1, .finite 1, false, .finite 50⟩] := by decide +kernel
  obtain ⟨s, hs, hdead⟩ := Option.map_eq_some_iff.mp hdead
  obtain ⟨halive, hacked⟩ := Prod.mk.inj hdead
  obtain ⟨steering, hnewest, happlied⟩ := h late hreach 1 s hs
  rw [WorldState.snakes_applyInputs, OrderedMap.get_mapValues, hs, Option.map_some,
    if_neg (by rw [halive]; nofun)] at happlied
  have hsame : steering.lastAckSeq = s.lastAckSeq :=
    congrArg (fun s : SnakeEntity => s.lastAckSeq) (Option.some.inj happlied).symm
  have hahead := hnewest.queued _ (hqueue ▸ List.mem_singleton_self _)
  rw [hsame, hacked] at hahead
  exact absurd hahead (by decide)

end SnakeArena.Game
