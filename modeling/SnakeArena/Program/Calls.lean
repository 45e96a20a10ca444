import SnakeArena.Program.WellFormed

/-!
# Program — calls

The account lists a client passes: every address derived from the parameters, writable, and
signed wherever a signature exists.  `execAll` executes a list of instructions, each at its
clock; what it reaches is a run of the machine.
-/

namespace SnakeArena.Program
open SnakeArena.Library

/-- `a` passed writable, and signed where a signature exists. -/
def AccountInfo.full (a : Pubkey) : AccountInfo :=
  ⟨a, decide a.CanSign, true, of_decide_eq_true⟩

@[simp] theorem AccountInfo.full_key (a : Pubkey) : (full a).key = a := rfl

@[simp] theorem AccountInfo.full_isWritable (a : Pubkey) : (full a).isWritable = true := rfl

@[simp] theorem AccountInfo.full_isSigner (a : Pubkey) :
    (full a).isSigner = true ↔ a.CanSign := by simp [full]

namespace Call

def initializeProgram (admin settlementAuthority feeDestination : Pubkey)
    (feeBps withdrawalFeeBps : ℕ) : Instruction :=
  .initializeProgram ⟨.full .config, .full .pool, .full .treasury, .full admin,
    .full .systemProgram⟩ settlementAuthority feeDestination feeBps withdrawalFeeBps

def setSettlementAuthority (admin settlementAuthority : Pubkey) : Instruction :=
  .updateConfig ⟨.full .config, .full admin⟩ none none (some settlementAuthority) none none

def setPaused (admin : Pubkey) (paused : Bool) : Instruction :=
  .updateConfig ⟨.full .config, .full admin⟩ none none none none (some paused)

def deposit (player : Pubkey) (amount : ℕ) : Instruction :=
  .deposit ⟨.full .config, .full (.player player), .full .pool, .full player,
    .full .systemProgram⟩ amount

def withdraw (player : Pubkey) (amount : ℕ) : Instruction :=
  .withdraw ⟨.full .config, .full (.player player), .full .pool, .full .treasury, .full player,
    .full .systemProgram⟩ amount

def createRoom (settlementAuthority : Pubkey) (id : RoomId) (entryFee maxPlayers : ℕ) :
    Instruction :=
  .createRoom ⟨.full .config, .full (.room id), .full (.roomVault id), .full settlementAuthority,
    .full .systemProgram⟩ id entryFee maxPlayers

def joinRoom (player : Pubkey) (id : RoomId) : Instruction :=
  .joinRoom ⟨.full .config, .full (.room id), .full (.roomPlayer (.room id) player),
    .full (.player player), .full player, .full .systemProgram⟩

def lockEntryFee (player : Pubkey) (id : RoomId) : Instruction :=
  .lockEntryFee ⟨.full .config, .full (.room id), .full (.roomPlayer (.room id) player),
    .full (.player player), .full .pool, .full (.roomVault id), .full player,
    .full .systemProgram⟩

def enterRoom (player : Pubkey) (id : RoomId) : Instruction :=
  .enterRoom ⟨.full .config, .full (.room id), .full (.roomPlayer (.room id) player),
    .full (.roomVault id), .full player, .full .systemProgram⟩

def startRoom (settlementAuthority : Pubkey) (id : RoomId) : Instruction :=
  .startRoom ⟨.full .config, .full (.room id), .full settlementAuthority⟩

def unlockPrize (settlementAuthority : Pubkey) (id : RoomId) : Instruction :=
  .unlockPrize ⟨.full .config, .full (.room id), .full settlementAuthority⟩

def distributeWinnings (settlementAuthority feeDestination : Pubkey) (id : RoomId)
    (winners : List (Pubkey × ℕ)) : Instruction :=
  .distributeWinnings ⟨.full .config, .full (.room id), .full (.roomVault id), .full .pool,
    .full feeDestination, .full settlementAuthority, .full .systemProgram,
    winners.flatMap fun w => [.full (.roomPlayer (.room id) w.1), .full (.player w.1)]⟩
    (winners.map Prod.snd)

def settleToWinner (settlementAuthority feeDestination winner : Pubkey) (id : RoomId) :
    Instruction :=
  .settleToWinner ⟨.full .config, .full (.room id), .full (.roomVault id),
    .full (.roomPlayer (.room id) winner), .full winner, .full feeDestination,
    .full settlementAuthority, .full .systemProgram⟩

def cancelRoom (signer : Pubkey) (id : RoomId) : Instruction :=
  .cancelRoom ⟨.full .config, .full (.room id), .full signer⟩

def claimRefund (player claimant : Pubkey) (id : RoomId) : Instruction :=
  .claimRefund ⟨.full .config, .full (.room id), .full (.roomPlayer (.room id) player),
    .full (.player player), .full (.roomVault id), .full .pool, .full player, .full claimant,
    .full .systemProgram⟩

def closeRoom (settlementAuthority : Pubkey) (id : RoomId) : Instruction :=
  .closeRoom ⟨.full .config, .full (.room id), .full (.roomVault id), .full settlementAuthority⟩

def closeRoomPlayer (player : Pubkey) (id : RoomId) : Instruction :=
  .closeRoomPlayer ⟨.full (.room id), .full (.roomPlayer (.room id) player), .full player⟩

end Call

/-! ### Lists of calls -/

/-- Instructions executed one after the other, each at its clock. -/
def execAll (rt : Runtime) (s : State) : List (ℤ × Instruction) → Result State
  | [] => .ok s
  | (now, i) :: rest => do
      let t ← exec rt now s i
      execAll rt t.state rest

theorem execAll_guarded {rt : Runtime} {G : State → Event → Prop} {is : List (ℤ × Instruction)} :
    ∀ {s s' : State}, (∀ p ∈ is, ∀ s, G s (.exec p.1 p.2)) → execAll rt s is = .ok s' →
    Run (Guarded (Step rt) G) s (is.map fun p => .exec p.1 p.2) s' := by
  induction is with
  | nil =>
      rintro s s' - h
      obtain rfl : s = s' := Except.ok.inj h
      exact .nil _
  | cons p rest ih =>
      rintro s s' hG h
      simp only [execAll, bind_eq_ok] at h
      obtain ⟨t, h₁, h₂⟩ := h
      exact .cons ⟨.exec h₁, hG p (by simp) s⟩ (ih (fun q hq => hG q (by simp [hq])) h₂)

theorem execAll_run {rt : Runtime} {is : List (ℤ × Instruction)} {s s' : State}
    (h : execAll rt s is = .ok s') : Run (Step rt) s (is.map fun p => .exec p.1 p.2) s' :=
  (execAll_guarded (G := fun _ _ => True) (fun _ _ _ => trivial) h).of_guarded

/-- A chain before the program's first call, on which the first keys hold lamports. -/
def State.funded : State where
  lamports
    | .key n => if n < 9 then 10 ^ 12 else 0
    | _ => 0
  config := none
  players := .empty
  rooms := .empty
  roomPlayers := .empty

theorem State.funded_genesis : State.funded.Genesis := by
  refine ⟨rfl, rfl, rfl, rfl, fun S => ?_⟩
  let keys : Finset Pubkey := (Finset.range 9).image .key
  have outside : ∀ a ∉ keys, State.funded.lamports a = 0 := by
    intro a ha
    cases a with
    | key n =>
        refine if_neg fun hn => ha ?_
        exact Finset.mem_image_of_mem _ (Finset.mem_range.mpr hn)
    | _ => rfl
  calc ∑ a ∈ S, State.funded.lamports a
      ≤ ∑ a ∈ S ∪ keys, State.funded.lamports a :=
        Finset.sum_le_sum_of_subset Finset.subset_union_left
    _ = ∑ a ∈ keys, State.funded.lamports a :=
        (Finset.sum_subset Finset.subset_union_right fun a _ ha => outside a ha).symm
    _ < u64Max + 1 := by decide

/-- Right after `initialize` no room has been entered. -/
theorem State.funded_initialized {rt : Runtime} {now : ℤ} {accs : Initialize}
    {sa fd : Pubkey} {fee wfee : ℕ} {t : Tx}
    (h : exec rt now .funded (.initializeProgram accs sa fd fee wfee) = .ok t) :
    t.state.roomPlayers = .empty := by
  cases exec_effect h with
  | initializeProgram => rfl
  | config _ _ _ _ hcases =>
      rcases hcases with ⟨_, _, _, _, _, _, h⟩ | ⟨_, _, h⟩ | ⟨_, h⟩ <;> cases h

/-- The room id of one byte repeated. -/
def RoomId.ofByte (b : UInt8) : RoomId := ⟨List.replicate roomIdLen b, List.length_replicate⟩

/-- A validator with the rent of every public cluster. -/
def Runtime.validator : Runtime := ⟨fun space => 6960 * (128 + space), true⟩

/-- The same without the runtime's comparison: every lamport write succeeds as written. -/
def Runtime.asWritten : Runtime := { validator with ownerRule := false }

/-- What a list of calls reaches from the funded chain, when it is all executed. -/
theorem reached_of_execAll {rt : Runtime} {is : List (ℤ × Instruction)} {s : State}
    (h : execAll rt .funded is = .ok s) : Reached rt s :=
  ⟨_, _, State.funded_genesis, execAll_run h⟩

/-- The result is a value that passes the test. -/
def Result.passes {α : Type} (x : Result α) (test : α → Bool) : Bool :=
  match x with
  | .ok a => test a
  | .error _ => false

theorem Result.passes_iff {α : Type} {x : Result α} {test : α → Bool} :
    x.passes test = true ↔ ∃ a, x = .ok a ∧ test a = true := by
  cases x <;> simp [passes]

/-- The result is this error. -/
def Result.failsWith {α : Type} (x : Result α) (e : Error) : Bool :=
  match x with
  | .ok _ => false
  | .error e' => decide (e' = e)

theorem Result.failsWith_iff {α : Type} {x : Result α} {e : Error} :
    x.failsWith e = true ↔ x = .error e := by
  cases x <;> simp [failsWith]

end SnakeArena.Program
