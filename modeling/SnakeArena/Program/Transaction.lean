import SnakeArena.Program.Machine

/-!
# Program — transactions

A transaction is a list of legs, each an instruction of the program or what another program
does to lamports, executed one after the other or not at all.

What a transaction does to the pool and to one custody account is added up leg by leg
(`sumLegs_change`).  `Instruction.entries` are the custody accounts an instruction books
something on; `Instruction.unbooked` is what it brings into the pool on nobody's account.
-/

namespace SnakeArena.Program
open SnakeArena.Library

instance : DecidablePred Pubkey.Derived := fun a => by
  unfold Pubkey.Derived
  rcases a <;> dsimp only <;> infer_instance

inductive Leg where
  | arena (i : Instruction)
  /-- What another program does to lamports, or the network when it takes its fee. -/
  | other (ms : List (Move Pubkey))

/-- Another program's transfers, none of them out of an address the program derives. -/
def moveAll (t : Tx) : List (Move Pubkey) → Result Tx
  | [] => .ok t
  | m :: ms => do
      require (¬ m.source.Derived) (.system .externalAccountLamportSpend)
      let t ← t.transfer m.source m.dest m.amount
      moveAll t ms

def Leg.exec (rt : Runtime) (now : ℤ) (s : State) : Leg → Result Tx
  | .arena i => Program.exec rt now s i
  | .other ms => moveAll (.start s) ms

def execLegs (rt : Runtime) (now : ℤ) (s : State) : List Leg → Result State
  | [] => .ok s
  | leg :: legs => do
      let t ← leg.exec rt now s
      execLegs rt now t.state legs

/-- `f` of every leg, at the state it is executed in, added up. -/
def sumLegs (rt : Runtime) (now : ℤ) (f : State → Leg → Tx → ℤ) (s : State) : List Leg → ℤ
  | [] => 0
  | leg :: legs =>
      match leg.exec rt now s with
      | .ok t => f s leg t + sumLegs rt now f t.state legs
      | .error _ => 0

section Legs
variable {rt : Runtime} {now : ℤ} {s s' : State} {t : Tx}

theorem moveAll_eq_ok {ms : List (Move Pubkey)} : ∀ {t t' : Tx}, moveAll t ms = .ok t' →
    (∀ m ∈ ms, ¬ m.source.Derived) ∧
      ∃ l, Moved t.state.lamports ms l ∧
        t' = ⟨{ t.state with lamports := l }, t.moves ++ ms, t.debits⟩ := by
  induction ms with
  | nil =>
      rintro t t' h
      obtain rfl : t = t' := Except.ok.inj h
      exact ⟨by simp, _, .nil _, by simp⟩
  | cons m ms ih =>
      rintro t t' h
      simp only [moveAll, bind_eq_ok, require_eq_ok] at h
      obtain ⟨-, hm, t₁, h₁, h₂⟩ := h
      obtain ⟨l₁, hl₁, rfl⟩ := transfer_eq_ok h₁
      obtain ⟨hms, l, hl, rfl⟩ := ih h₂
      refine ⟨?_, l, hl₁.append hl, by simp⟩
      rintro m' hm'
      rcases List.mem_cons.mp hm' with rfl | hm'
      · exact hm
      · exact hms m' hm'

theorem Leg.exec_moved {leg : Leg} (h : leg.exec rt now s = .ok t) :
    Moved s.lamports t.moves t.state.lamports := by
  cases leg with
  | arena i => exact (exec_effect h).moved
  | other ms =>
      obtain ⟨-, l, hl, rfl⟩ := moveAll_eq_ok h
      exact hl

/-- What every leg changes by `f`, the transaction changes by the sum. -/
theorem sumLegs_change {F : State → ℤ} {f : State → Leg → Tx → ℤ}
    (hf : ∀ s leg t, leg.exec rt now s = .ok t → F t.state = F s + f s leg t)
    {legs : List Leg} : ∀ {s : State}, execLegs rt now s legs = .ok s' →
    F s' = F s + sumLegs rt now f s legs := by
  induction legs with
  | nil =>
      rintro s h
      obtain rfl : s = s' := Except.ok.inj h
      simp [sumLegs]
  | cons leg legs ih =>
      rintro s h
      simp only [execLegs, bind_eq_ok] at h
      obtain ⟨t, h₁, h₂⟩ := h
      rw [ih h₂, hf s leg t h₁]
      simp only [sumLegs, h₁]
      omega

end Legs

/-! ### The custody books -/

/-- The custody balance of a wallet; one without an account has none. -/
def State.balanceOf (s : State) (o : Pubkey) : ℤ :=
  match s.players.get o with
  | some p => p.balance
  | none => 0

/-- The room account at an address. -/
def State.roomAt (s : State) : Pubkey → Option Room
  | .room id => s.rooms.get id
  | _ => none

namespace Instruction

/-- The custody accounts an instruction books something on, by address, and how much. -/
def entries (s : State) : Instruction → List (Pubkey × ℤ)
  | .deposit accs amount => [(.player accs.player.key, amount)]
  | .withdraw accs amount => [(.player accs.player.key, -amount)]
  | .lockEntryFee accs =>
      match s.roomAt accs.room.key with
      | some r => [(.player accs.player.key, -r.entryFee)]
      | none => []
  | .claimRefund accs =>
      match s.roomPlayers.get (accs.room.key, accs.player.key) with
      | some rp => [(.player accs.player.key, rp.lockedAmount)]
      | none => []
  | .distributeWinnings accs payouts =>
      ((winnerAccounts accs.remaining).zip payouts).map fun e => (e.1, (e.2 : ℤ))
  | _ => []

/-- What an instruction books on the account of `o`. -/
def credit (s : State) (o : Pubkey) (i : Instruction) : ℤ :=
  ((i.entries s).map fun e => if e.1 = .player o then e.2 else 0).sum

/-- What it books on the other accounts. -/
def others (s : State) (o : Pubkey) (i : Instruction) : ℤ :=
  ((i.entries s).map fun e => if e.1 = .player o then 0 else e.2).sum

/-- What an instruction brings into the pool on nobody's account. -/
def unbooked (s : State) (t : Tx) : Instruction → ℤ
  | .deposit _ _ | .withdraw _ _ | .lockEntryFee _ | .claimRefund _ => 0
  | .distributeWinnings accs _ =>
      match s.config, s.roomAt accs.room.key with
      | some c, some r => if c.feeDestination = .pool then r.rakeAmount else 0
      | _, _ => 0
  | _ => inflow .pool t.moves

theorem credit_add_others (s : State) (o : Pubkey) (i : Instruction) :
    i.credit s o + i.others s o = ((i.entries s).map Prod.snd).sum := by
  rw [credit, others, ← List.sum_map_add]
  congr 1
  refine List.map_congr_left fun e _ => ?_
  split <;> simp

end Instruction

/-- The payout loop credits an account with the payouts in its name. -/
theorem Credited.balanceOf {room : Pubkey} {s s' : State} {ws : List (Pubkey × ℕ)}
    (h : Credited room s ws s') (o : Pubkey) :
    s'.balanceOf o = s.balanceOf o + (ws.map fun w => if w.1 = o then (w.2 : ℤ) else 0).sum := by
  induction h with
  | nil => simp
  | @cons s _ w n ws rp p _ _ _ _ hp _ _ ih =>
      rw [ih, List.map_cons, List.sum_cons, ← add_assoc]
      congr 1
      by_cases e : w = o
      · subst e
        simp [State.balanceOf, hp]
      · simp [State.balanceOf, Table.get_upd_other (Ne.symm e), e]

theorem State.balanceOf_upd (s : State) (l : Pubkey → ℕ) (rooms : Table RoomId Room)
    (rps : Table (Pubkey × Pubkey) RoomPlayer) (c : Option Config) (k o : Pubkey)
    (p : PlayerAccount) :
    State.balanceOf ⟨l, c, s.players.upd k p, rooms, rps⟩ o
      = if k = o then (p.balance : ℤ) else s.balanceOf o := by
  by_cases e : k = o
  · subst e
    simp [State.balanceOf]
  · simp [State.balanceOf, Table.get_upd_other (Ne.symm e), e]

theorem State.balanceOf_some {s : State} {o : Pubkey} {p : PlayerAccount}
    (h : s.players.get o = some p) : s.balanceOf o = p.balance := by
  simp [State.balanceOf, h]

section Effects
variable {rt : Runtime} {now : ℤ} {s : State} {i : Instruction} {t : Tx}

/-- An instruction changes a custody balance by its entries. -/
theorem Effect.balanceOf (h : Effect rt now s i t) (o : Pubkey) :
    t.state.balanceOf o = s.balanceOf o + i.credit s o := by
  -- one account written, with one entry
  have one : ∀ {k : Pubkey} {p p' : PlayerAccount} {n : ℤ} {l c rooms rps},
      s.balanceOf k = p.balance → (p'.balance : ℤ) = p.balance + n →
      State.balanceOf ⟨l, c, s.players.upd k p', rooms, rps⟩ o
        = s.balanceOf o + if k = o then n else 0 := by
    intro k p p' n l c rooms rps hp hn
    rw [State.balanceOf_upd]
    split
    · next e => rw [← e, hp, hn]
    · rw [add_zero]
  cases h with
  | deposit _ _ _ hp =>
      simp only [Instruction.credit, Instruction.entries, List.map_cons, List.map_nil,
        List.sum_cons, List.sum_nil, add_zero, Pubkey.player.injEq]
      rcases hp with hp | ⟨hp, rfl⟩
      · exact one (State.balanceOf_some hp) (Nat.cast_add _ _)
      · exact one (by simp [State.balanceOf, hp, PlayerAccount.zeroed]) (Nat.cast_add _ _)
  | withdraw _ _ hp hbal =>
      simp only [Instruction.credit, Instruction.entries, List.map_cons, List.map_nil,
        List.sum_cons, List.sum_nil, add_zero, Pubkey.player.injEq]
      exact one (State.balanceOf_some hp) (by simp only; omega)
  | joinRoom _ _ _ _ _ _ hp =>
      refine (one (n := 0) (State.balanceOf_some hp) (by simp)).trans ?_
      simp [Instruction.credit, Instruction.entries]
  | lockEntryFee _ _ hr hkey _ _ hp _ _ hbal =>
      simp only [Instruction.credit, Instruction.entries, hkey, State.roomAt, hr, List.map_cons,
        List.map_nil, List.sum_cons, List.sum_nil, add_zero, Pubkey.player.injEq]
      exact one (State.balanceOf_some hp) (by simp only; omega)
  | claimRefund _ hkey hrp hp =>
      simp only [Instruction.credit, Instruction.entries, hkey, hrp, List.map_cons, List.map_nil,
        List.sum_cons, List.sum_nil, add_zero, Pubkey.player.injEq]
      exact one (State.balanceOf_some hp) (Nat.cast_add _ _)
  | distributeWinnings _ _ _ _ _ _ _ _ _ hcr _ hpays =>
      refine (hcr.balanceOf o).trans ?_
      simp only [Instruction.credit, Instruction.entries, List.map_map]
      rw [hpays, List.map_map]
      simp [Function.comp_def]
  | config _ _ _ _ hi =>
      rcases hi with ⟨_, _, _, _, _, _, rfl⟩ | ⟨_, _, rfl⟩ | ⟨_, rfl⟩ <;>
        simp [Instruction.credit, Instruction.entries, State.balanceOf]
  | _ => simp [Instruction.credit, Instruction.entries, State.balanceOf]

/-- What reaches the pool is booked, or on nobody's account. -/
theorem Effect.pool_flow (h : Effect rt now s i t) :
    (inflow .pool t.moves : ℤ) - outflow .pool t.moves
      = ((i.entries s).map Prod.snd).sum + i.unbooked s t := by
  -- with nothing booked, it is enough that nothing leaves the pool
  have nothing : i.entries s = [] → i.unbooked s t = inflow .pool t.moves →
      (∀ m ∈ t.moves, m.source ≠ .pool) → (inflow .pool t.moves : ℤ) - outflow .pool t.moves
        = ((i.entries s).map Prod.snd).sum + i.unbooked s t := by
    intro he hu hm
    rw [he, hu, outflow_eq_zero hm]
    simp
  cases h with
  | initializeProgram _ hsig =>
      refine nothing rfl rfl fun m hm => ?_
      simp only [List.append_assoc, List.mem_append, List.mem_singleton] at hm
      rcases hm with rfl | hm | hm
      · exact hsig.ne trivial
      · rw [mem_payment hm]; exact hsig.ne trivial
      · rw [mem_payment hm]; exact hsig.ne trivial
  | config _ _ _ _ hi =>
      rcases hi with ⟨_, _, _, _, _, _, rfl⟩ | ⟨_, _, rfl⟩ | ⟨_, rfl⟩ <;>
        exact nothing rfl rfl (by simp)
  | withdrawTreasury =>
      refine nothing rfl rfl fun m hm => ?_
      rw [mem_payment hm]
      rintro ⟨⟩
  | @deposit accs n _ p ms l _ _ hsig hp hms =>
      have out : outflow .pool ms = 0 := outflow_eq_zero fun m hm =>
        (hms m hm).1 ▸ hsig.ne trivial
      have hin : inflow .pool ms = 0 := inflow_eq_zero fun m hm => by
        rw [(hms m hm).2]; rintro ⟨⟩
      simp [Instruction.entries, Instruction.unbooked, out, hin, hsig.ne (b := .pool) trivial]
  | withdraw _ hsig _ _ _ hle =>
      simp [Instruction.entries, Instruction.unbooked, hsig.ne (b := .pool) trivial]
      omega
  | createRoom _ _ _ _ hsig =>
      refine nothing rfl rfl fun m hm => ?_
      rcases List.mem_append.mp hm with hm | hm
      · rw [List.mem_singleton.mp hm]; exact hsig.ne trivial
      · rw [mem_payment hm]; exact hsig.ne trivial
  | joinRoom _ _ _ _ hsig =>
      refine nothing rfl rfl fun m hm => ?_
      rw [List.mem_singleton.mp hm]
      exact hsig.ne trivial
  | enterRoom _ _ _ _ hsig =>
      refine nothing rfl rfl fun m hm => ?_
      simp only [List.mem_cons, List.not_mem_nil, or_false] at hm
      rcases hm with rfl | rfl
      · exact hsig.ne trivial
      · exact hsig.ne trivial
  | startRoom => exact nothing rfl rfl (by simp)
  | unlockPrize => exact nothing rfl rfl (by simp)
  | lockEntryFee _ _ hr hkey =>
      simp [Instruction.entries, Instruction.unbooked, hkey, State.roomAt, hr]
  | @distributeWinnings accs payouts c r ws _ _ hc hr hkey _ _ _ hsnd _ hsum _ _ hpays =>
      have hentries : ((Instruction.entries s (.distributeWinnings accs payouts)).map Prod.snd).sum
          = (r.prizePool : ℤ) := by
        rw [Instruction.entries, hpays, List.map_map, List.map_map, ← hsum, ← hsnd,
          Nat.cast_list_sum, List.map_map]
        rfl
      rw [hentries]
      simp only [Instruction.unbooked, hc, hkey, State.roomAt, hr, inflow_append, outflow_append,
        inflow_payment, outflow_payment, reduceCtorEq, ↓reduceIte]
      split <;> simp
  | settleToWinner _ hr hkey _ _ hrp =>
      refine nothing rfl rfl fun m hm => ?_
      rcases List.mem_append.mp hm with hm | hm
      · rw [mem_payment hm]; rintro ⟨⟩
      · rw [mem_payment hm]; rintro ⟨⟩
  | cancelRoom => exact nothing rfl rfl (by simp)
  | claimRefund _ hkey hrp =>
      simp [Instruction.entries, Instruction.unbooked, hkey, hrp]
  | closeRoom =>
      refine nothing rfl rfl fun m hm => ?_
      simp only [List.mem_cons, List.not_mem_nil, or_false] at hm
      rcases hm with rfl | rfl <;> rintro ⟨⟩
  | closeRoomPlayer =>
      refine nothing rfl rfl fun m hm => ?_
      rw [List.mem_singleton.mp hm]
      rintro ⟨⟩

end Effects

/-! ### What a leg brings to an address -/

namespace Leg

def credit (s : State) (o : Pubkey) : Leg → ℤ
  | .arena i => i.credit s o
  | .other _ => 0

/-- What a leg brings into the pool on other accounts than that of `o`, and on nobody's. -/
def stray (s : State) (t : Tx) (o : Pubkey) : Leg → ℤ
  | .arena i => i.others s o + i.unbooked s t
  | .other ms => inflow .pool ms

/-- What a leg brings to `a` beyond what it books on the account of `o`. -/
def beyond (a o : Pubkey) (s : State) (leg : Leg) (t : Tx) : ℤ :=
  if a = .pool then leg.stray s t o
  else (inflow a t.moves : ℤ) - outflow a t.moves - leg.credit s o

variable {rt : Runtime} {now : ℤ} {s : State} {t : Tx} {leg : Leg}

theorem exec_balanceOf (h : leg.exec rt now s = .ok t) (o : Pubkey) :
    t.state.balanceOf o = s.balanceOf o + leg.credit s o := by
  cases leg with
  | arena i => exact (exec_effect h).balanceOf o
  | other ms =>
      obtain ⟨-, l, -, rfl⟩ := moveAll_eq_ok h
      simp [credit, State.balanceOf, Tx.start]

theorem exec_stray (h : leg.exec rt now s = .ok t) (o : Pubkey) :
    (inflow .pool t.moves : ℤ) - outflow .pool t.moves = leg.credit s o + leg.stray s t o := by
  cases leg with
  | arena i =>
      rw [(exec_effect h).pool_flow, ← i.credit_add_others s o, credit, stray, add_assoc]
  | other ms =>
      obtain ⟨hms, l, -, rfl⟩ := moveAll_eq_ok h
      have out : outflow .pool ms = 0 := outflow_eq_zero fun m hm e => hms m hm (e ▸ trivial)
      simp [credit, stray, Tx.start, out]

theorem exec_beyond (h : leg.exec rt now s = .ok t) (a o : Pubkey) :
    (t.state.lamports a : ℤ) - t.state.balanceOf o
      = s.lamports a - s.balanceOf o + leg.beyond a o s t := by
  have hbal := exec_balanceOf h o
  have hmoved := (exec_moved h).balance a
  unfold beyond
  split
  · next e =>
      subst e
      have := exec_stray h o
      omega
  · omega

end Leg

/-- **What a transaction does to an address and to a custody account.** -/
theorem execLegs_beyond {rt : Runtime} {now : ℤ} {s s' : State} {legs : List Leg}
    (h : execLegs rt now s legs = .ok s') (a o : Pubkey) :
    (s'.lamports a : ℤ) - s'.balanceOf o
      = s.lamports a - s.balanceOf o + sumLegs rt now (Leg.beyond a o) s legs :=
  sumLegs_change (F := fun s => (s.lamports a : ℤ) - s.balanceOf o)
    (fun _ _ _ h => Leg.exec_beyond h a o) h

end SnakeArena.Program
