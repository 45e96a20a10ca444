import SnakeArena.Program.Calls

/-!
# Program — the runtime's account rules

After an instruction the runtime compares the accounts with what they were: an account that
lost lamports by a write must be the program's own (`OwnerRule`), and the instruction's accounts
must hold together what they held (`Balanced`).  Every handler that succeeds keeps both, with
one exception.  `close_room` drains the vault by writing its balance, and a vault carries no
data and belongs to the System Program: the runtime takes the whole instruction back, and the
rent of the vault and of the room stays where it is (`account_rules`).

Only an empty vault gets past it, or one that is itself the address the rent goes to.
-/

namespace SnakeArena.Program
open SnakeArena.Library

/-- The accounts of an instruction, any set outside which no balance changed, hold together what
they held. -/
def Balanced (s : State) (t : Tx) : Prop :=
  ∀ A : Finset Pubkey, (∀ a ∉ A, t.state.lamports a = s.lamports a) →
    ∑ a ∈ A, t.state.lamports a = ∑ a ∈ A, s.lamports a

/-- A closed room gives back what its vault and its account held. -/
def ReturnsRent (s : State) (t : Tx) : Instruction → Prop
  | .closeRoom accs =>
      t.moves = [⟨accs.roomVault.key, accs.settlementAuthority.key, s.lamports accs.roomVault.key⟩,
        ⟨accs.room.key, accs.settlementAuthority.key, s.lamports accs.room.key⟩]
  | _ => True

/-- The instruction closes a room whose vault holds lamports, for another address to take. -/
def DrainsVault (s : State) : Instruction → Prop
  | .closeRoom accs =>
      0 < s.lamports accs.roomVault.key ∧ accs.roomVault.key ≠ accs.settlementAuthority.key
  | _ => False

section Rules
variable {rt : Runtime} {now : ℤ} {s : State} {i : Instruction} {t : Tx}

/-- What `close_room` moves, by the accounts it was passed. -/
theorem closeRoom_moves {accs : CloseRoom} (h : closeRoom rt accs s = .ok t) :
    ∃ id, accs.room.key = .room id ∧ accs.roomVault.key = .roomVault id ∧
      (s.rooms.get id).isSome = true ∧ accs.room.key ≠ accs.settlementAuthority.key ∧
      ReturnsRent s t (.closeRoom accs) ∧ Moved s.lamports t.moves t.state.lamports ∧
      t.debits = [accs.roomVault.key, accs.room.key] := by
  simp only [closeRoom, bind_eq_ok, loadConfig_eq_ok, loadRoom_eq_ok, seeds_eq_ok,
    require_eq_ok, mutable_eq_ok, Tx.closeRoomAccount, Except.ok.injEq] at h
  obtain ⟨c, -, -, -, r, ⟨id, hid, hr⟩, -, -, -, hkey, -, hne, -, -, -, hv, -, -, -, -, -,
    -, -, -, t₁, h₁, t₂, h₂, rfl⟩ := h
  obtain ⟨hrk, hr⟩ := room_of_seeds hid hr hkey
  obtain ⟨l₁, m₁, rfl⟩ := writeMove_eq_ok h₁
  obtain ⟨l₂, m₂, rfl⟩ := writeMove_eq_ok h₂
  -- the vault's lamports did not go to the room, so the room gives what it held before
  have hroom : l₁ (.room r.roomId) = s.lamports (.room r.roomId) := by
    refine m₁.same ?_ ?_
    · simp [hv]
    · simpa [← hrk] using hne.symm
  refine ⟨r.roomId, hrk, hv, by rw [hr]; rfl, hne, ?_, m₁.append m₂, ?_⟩
  · simp [ReturnsRent, Tx.start, hrk, hroom]
  · simp [Tx.start, hrk]

/-- The vault ends empty, unless it is what the rent went to. -/
theorem closeRoom_vault {accs : CloseRoom} (h : closeRoom rt accs s = .ok t) :
    t.state.lamports accs.roomVault.key < s.lamports accs.roomVault.key ↔
      DrainsVault s (.closeRoom accs) := by
  obtain ⟨id, hroom, hvault, -, -, hmoves, hmoved, -⟩ := closeRoom_moves h
  have e := hmoved.balance accs.roomVault.key
  have hne : accs.room.key ≠ accs.roomVault.key := by rw [hroom, hvault]; simp
  rw [hmoves] at e
  simp only [outflow_cons, outflow_nil, inflow_cons, inflow_nil, ↓reduceIte, if_neg hne] at e
  by_cases hself : accs.settlementAuthority.key = accs.roomVault.key
  · simp only [hself, ↓reduceIte] at e
    refine iff_of_false (by omega) fun hd => hd.2 hself.symm
  · simp only [if_neg hself] at e
    refine ⟨fun hlt => ⟨by omega, Ne.symm hself⟩, fun hd => ?_⟩
    have := hd.1
    omega

/-- The owner rule refuses a closed room for its vault alone. -/
theorem closeRoom_ownerRule {accs : CloseRoom} (h : closeRoom rt accs s = .ok t) :
    OwnerRule s t ↔ ¬ DrainsVault s (.closeRoom accs) := by
  obtain ⟨id, hroom, hvault, hsome, -, -, -, hdebits⟩ := closeRoom_moves h
  rw [← closeRoom_vault h, OwnerRule, hdebits]
  refine ⟨fun howner hlt => ?_, fun hvaultKept a ha hlt => ?_⟩
  · have := howner _ (by simp) hlt
    rw [hvault] at this
    cases this
  · rcases List.mem_pair.mp ha with rfl | rfl
    · exact absurd hlt hvaultKept
    · rw [hroom, State.account]
      simpa using hsome

/-- An instruction that closes no room lowers by a write nothing but an entry record, which is
the program's. -/
theorem Effect.ownerRule (h : Effect rt now s i t) (hclose : ∀ accs, i ≠ .closeRoom accs) :
    OwnerRule s t := by
  cases h with
  | closeRoom => exact absurd rfl (hclose _)
  | closeRoomPlayer hr hkey hrp =>
      intro a ha _
      obtain rfl := List.mem_singleton.mp ha
      simp [State.account, hrp]
  | _ => exact fun a ha => (List.not_mem_nil ha).elim

theorem handle_ownerRule (h : handle rt now s i = .ok t) :
    OwnerRule s t ↔ ¬ DrainsVault s i := by
  cases i with
  | closeRoom accs => exact closeRoom_ownerRule h
  | _ => exact iff_of_true ((handle_effect h).ownerRule (by simp)) not_false

theorem handle_returnsRent (h : handle rt now s i = .ok t) : ReturnsRent s t i := by
  cases i with
  | closeRoom accs =>
      obtain ⟨-, -, -, -, -, hrent, -, -⟩ := closeRoom_moves h
      exact hrent
  | _ => trivial

/-- Totals balance whatever the handler does. -/
theorem Effect.balanced (h : Effect rt now s i t) : Balanced s t := fun _ hA => h.moved.total hA

/-- **The account rules.**  What a handler leaves when it succeeds is what the runtime commits,
with the rent of a closed room returned, exactly when no vault is drained by writing it. -/
theorem account_rules (h : handle rt now s i = .ok t) :
    (OwnerRule s t ∧ Balanced s t ∧ exec rt now s i = .ok t ∧ ReturnsRent s t i) ↔
      ¬ DrainsVault s i := by
  rw [← handle_ownerRule h]
  refine ⟨And.left, fun howner => ⟨howner, (handle_effect h).balanced, ?_, handle_returnsRent h⟩⟩
  simp only [exec, h, bind_eq_ok, require_eq_ok, Except.ok.injEq]
  exact ⟨t, rfl, (), fun _ => howner, rfl⟩

end Rules

/-- A refunded player's entry record is closed: its rent is written away from an account the
program owns. -/
theorem account_rules_entry_record : ∃ s t, Reached .validator s ∧
    handle .validator 9 s (Call.closeRoomPlayer (.key 4) (.ofByte 7)) = .ok t ∧
    t.debits ≠ [] ∧ OwnerRule s t ∧ Balanced s t ∧
    exec .validator 9 s (Call.closeRoomPlayer (.key 4) (.ofByte 7)) = .ok t := by
  have run : (execAll .validator .funded
      [(0, Call.initializeProgram (.key 1) (.key 2) (.key 3) 500 50),
        (1, Call.createRoom (.key 2) (.ofByte 7) 1000000 4),
        (2, Call.deposit (.key 4) 5000000), (3, Call.enterRoom (.key 4) (.ofByte 7)),
        (4, Call.cancelRoom (.key 2) (.ofByte 7)),
        (5, Call.claimRefund (.key 4) (.key 4) (.ofByte 7))]).passes (fun s =>
      (handle .validator 9 s (Call.closeRoomPlayer (.key 4) (.ofByte 7))).passes fun t =>
        decide (t.debits ≠ [])) = true := by
    decide
  obtain ⟨s, hs, htest⟩ := Result.passes_iff.mp run
  obtain ⟨t, ht, hdebits⟩ := Result.passes_iff.mp htest
  obtain ⟨howner, hbalanced, hexec, -⟩ := (account_rules ht).mpr not_false
  exact ⟨s, t, reached_of_execAll hs, ht, of_decide_eq_true hdebits, howner, hbalanced, hexec⟩

/-- A cancelled room with its vault at the rent floor is closed: the handler succeeds and the
runtime refuses what it did. -/
theorem account_rules_close_room : ∃ s r t, Reached .validator s ∧
    s.rooms.get (.ofByte 7) = some r ∧ r.status = .cancelled ∧
    s.lamports (.roomVault (.ofByte 7)) = Runtime.validator.minimumBalance 0 ∧
    handle .validator 9 s (Call.closeRoom (.key 2) (.ofByte 7)) = .ok t ∧ ¬ OwnerRule s t ∧
    exec .validator 9 s (Call.closeRoom (.key 2) (.ofByte 7)) =
      .error (.system .externalAccountLamportSpend) := by
  have run : (execAll .validator .funded
      [(0, Call.initializeProgram (.key 1) (.key 2) (.key 3) 500 50),
        (1, Call.createRoom (.key 2) (.ofByte 7) 1000000 4),
        (2, Call.cancelRoom (.key 2) (.ofByte 7))]).passes (fun s =>
      (s.rooms.get (.ofByte 7)).any (fun r => decide (r.status = .cancelled)) &&
      decide (s.lamports (.roomVault (.ofByte 7)) = Runtime.validator.minimumBalance 0) &&
      (handle .validator 9 s (Call.closeRoom (.key 2) (.ofByte 7))).passes (fun t =>
        decide (¬ OwnerRule s t)) &&
      (exec .validator 9 s (Call.closeRoom (.key 2) (.ofByte 7))).failsWith
        (.system .externalAccountLamportSpend)) = true := by
    decide
  obtain ⟨s, hs, htest⟩ := Result.passes_iff.mp run
  simp only [Bool.and_eq_true, Option.any_eq_true, decide_eq_true_iff, Result.passes_iff,
    Result.failsWith_iff] at htest
  obtain ⟨⟨⟨⟨r, hr, hst⟩, hfloor⟩, t, ht, hrule⟩, hrefused⟩ := htest
  exact ⟨s, r, t, reached_of_execAll hs, hr, hst, hfloor, ht, hrule, hrefused⟩

end SnakeArena.Program
