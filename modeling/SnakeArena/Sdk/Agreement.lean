import SnakeArena.Sdk.Accounts
import Mathlib.Data.List.Nodup
import SnakeArena.Library.Rows

/-!
# SDK — agreement

A builder agrees with the program when its instruction is dispatched to a handler with exactly
the builder's parameters as arguments and the accounts it lists are, position by position, those
the handler's struct asks for (`Agrees`).

Every builder encodes what the program decodes.  As to the accounts there are two mismatches:
`createEnterRoomInstruction` passes the player read-only, who pays for the entry record, and
`createDistributeWinningsInstruction` passes the treasury where the program wants the config's fee
destination.  Apart from these a builder agrees when the wallets it is given for a key of the
config are the stored ones (`Builder.Matched`).
-/

namespace SnakeArena.Sdk
open SnakeArena.Library SnakeArena.Library.Borsh

/-! ### Dispatch -/

/-- Data that starts with a handler's discriminator reaches this handler, and nothing of its
arguments is left unread. -/
theorem dispatch_eq {web3 : Web3} (hd : web3.Distinct) {name : String} {args : Reader HandlerCall}
    (hl : handlers.lookup name = some args) {bs : Bytes} {call : HandlerCall}
    (hr : Reads args bs call) :
    dispatch web3 (instructionDiscriminator web3 name ++ bs) = some (call, []) := by
  obtain ⟨l₁, l₂, hl, -⟩ := List.lookup_eq_some_iff.mp hl
  have hmem : (name, args) ∈ handlers := by simp [hl]
  have hlen := length_instructionDiscriminator web3 name
  have hfind : handlers.find? (fun h => instructionDiscriminator web3 h.1 =
      (instructionDiscriminator web3 name ++ bs).take 8) = some (name, args) := by
    rw [List.take_left' hlen]
    exact UniqueKeys.find hd hmem
  simp only [dispatch, hfind, List.drop_left' hlen]
  exact hr.run_eq

/-! ### Addresses -/

/-- The SDK's seeds are the program's. -/
theorem seeds_eq : configSeed = Seeds.config ∧ poolSeed = Seeds.pool ∧
    treasurySeed = Seeds.treasury ∧ playerSeed = Seeds.player ∧ roomSeed = Seeds.room ∧
    roomVaultSeed = Seeds.roomVault ∧ roomPlayerSeed = Seeds.roomPlayer := by
  decide

section Pda
variable {web3 : Web3} {programId : PublicKey}

@[simp] theorem findConfigPda_fst :
    (findConfigPda web3 programId).1 = web3.derive programId [Seeds.config] := by
  rw [← seeds_eq.1]; rfl

@[simp] theorem findPoolPda_fst :
    (findPoolPda web3 programId).1 = web3.derive programId [Seeds.pool] := by
  rw [← seeds_eq.2.1]; rfl

@[simp] theorem findTreasuryPda_fst :
    (findTreasuryPda web3 programId).1 = web3.derive programId [Seeds.treasury] := by
  rw [← seeds_eq.2.2.1]; rfl

@[simp] theorem findPlayerPda_fst (owner : PublicKey) :
    (findPlayerPda web3 programId owner).1 =
      web3.derive programId [Seeds.player, owner.toBytes] := by
  rw [← seeds_eq.2.2.2.1]; rfl

@[simp] theorem findRoomPlayerPda_fst (room player : PublicKey) :
    (findRoomPlayerPda web3 programId room player).1 =
      web3.derive programId [Seeds.roomPlayer, room.toBytes, player.toBytes] := by
  rw [← seeds_eq.2.2.2.2.2.2]; rfl

/-- The address of a room is derived from its id, when the id has the width of one. -/
theorem findRoomPda_fst {id : Bytes} (hid : id.length = roomIdLen) {room : Pda}
    (h : findRoomPda web3 programId id = .ok room) :
    room.1 = web3.derive programId [Seeds.room, id] := by
  simp only [findRoomPda, normalizeRoomId_of_length hid, bind_returns, seeds_eq] at h
  obtain ⟨id', hid', h⟩ := h
  cases hid'
  cases h
  rfl

/-- The address of its vault too. -/
theorem findRoomVaultPda_fst {id : Bytes} (hid : id.length = roomIdLen) {vault : Pda}
    (h : findRoomVaultPda web3 programId id = .ok vault) :
    vault.1 = web3.derive programId [Seeds.roomVault, id] := by
  simp only [findRoomVaultPda, normalizeRoomId_of_length hid, bind_returns, seeds_eq] at h
  obtain ⟨id', hid', h⟩ := h
  cases hid'
  cases h
  rfl

end Pda

/-! ### Records -/

section Records
variable {web3 : Web3} {programId : PublicKey} {st : Stored web3 programId}

namespace Stored

/-- An account under the room's own id is the one that the program asks for. -/
theorem ofRoom {id seed : Bytes} (hid : id.length = roomIdLen) {room m : AccountMeta}
    (hr : room.pubkey = web3.derive programId [Seeds.room, id])
    (hm : m.pubkey = web3.derive programId [seed, id]) : st.OfRoom room m seed := by
  intro id' h
  rw [hr] at h
  rw [st.roomId_eq id id' hid h]
  exact hm

/-- An account under the player's key is the player's. -/
theorem playerOf {player m : AccountMeta}
    (hm : m.pubkey = web3.derive programId [Seeds.player, player.pubkey.toBytes]) :
    st.PlayerOf player m := by
  refine ⟨hm, fun o h => ?_⟩
  rw [hm] at h
  exact st.owner_eq _ _ h

/-- The record of a room and a player names both. -/
theorem names {room player m : AccountMeta} (hm : st.RecordOf room player m) :
    st.NamesRoom room m ∧ st.NamesPlayer player m := by
  refine ⟨fun k h => ?_, fun k h => ?_⟩
  all_goals
    rw [show m.pubkey = _ from hm] at h
    rw [st.roomPlayer_eq _ _ _ h]

/-- The treasury the SDK derives is the one in the config. -/
theorem treasuryPda (st : Stored web3 programId) :
    (findTreasuryPda web3 programId).1 = st.treasury :=
  findTreasuryPda_fst.trans st.treasury_eq.symm

end Stored

end Records

/-! ### Agreement -/

/-- The parameters of the builder are the arguments of the call. -/
inductive Builder.Carries : Builder → HandlerCall → Prop where
  | deposit {player : PublicKey} (amount : ℕ) : Carries (.deposit player amount) (.deposit amount)
  | withdraw {player : PublicKey} (amount : ℕ) :
      Carries (.withdraw player amount) (.withdraw amount)
  | initializeProgram {admin settlementAuthority feeDestination : PublicKey}
      (feeBps withdrawalFeeBps : ℕ) :
      Carries (.initializeProgram admin settlementAuthority feeDestination (.integer feeBps)
          (.integer withdrawalFeeBps))
        (.initializeProgram settlementAuthority feeDestination feeBps withdrawalFeeBps)
  | updateConfig {admin : PublicKey} {settlementAuthority feeDestination : Option PublicKey}
      {paused : Option Bool} (feeBps withdrawalFeeBps : Option ℕ) :
      Carries (.updateConfig admin (feeBps.map fun n : ℕ => .integer n)
          (withdrawalFeeBps.map fun n : ℕ => .integer n) settlementAuthority feeDestination paused)
        (.updateConfig feeBps withdrawalFeeBps settlementAuthority feeDestination paused)
  | createRoom {settlementAuthority : PublicKey} {roomId id : Bytes} (entryFee maxPlayers : ℕ)
      (hid : normalizeRoomId roomId = .ok id) :
      Carries (.createRoom settlementAuthority roomId entryFee (.integer maxPlayers))
        (.createRoom id entryFee maxPlayers)
  | joinRoom {player : PublicKey} {roomId : Bytes} : Carries (.joinRoom player roomId) .joinRoom
  | lockEntryFee {player : PublicKey} {roomId : Bytes} :
      Carries (.lockEntryFee player roomId) .lockEntryFee
  | startRoom {settlementAuthority : PublicKey} {roomId : Bytes} :
      Carries (.startRoom settlementAuthority roomId) .startRoom
  | unlockPrize {settlementAuthority : PublicKey} {roomId : Bytes} :
      Carries (.unlockPrize settlementAuthority roomId) .unlockPrize
  | distributeWinnings {settlementAuthority : PublicKey} {roomId : Bytes}
      {winners : List WinnerPayout} (payouts : List ℕ)
      (hp : winners.map (·.lamports) = payouts.map fun n : ℕ => (n : ℤ)) :
      Carries (.distributeWinnings settlementAuthority roomId winners)
        (.distributeWinnings payouts)
  | cancelRoom {caller : PublicKey} {roomId : Bytes} :
      Carries (.cancelRoom caller roomId) .cancelRoom
  | claimRefund {player claimant : PublicKey} {roomId : Bytes} :
      Carries (.claimRefund player claimant roomId) .claimRefund
  | withdrawTreasury {admin destination : PublicKey} (amount : ℕ) :
      Carries (.withdrawTreasury admin destination amount) (.withdrawTreasury amount)
  | enterRoom {player : PublicKey} {roomId : Bytes} : Carries (.enterRoom player roomId) .enterRoom
  | settleToWinner {settlementAuthority feeDestination winner : PublicKey} {roomId : Bytes} :
      Carries (.settleToWinner settlementAuthority feeDestination winner roomId) .settleToWinner
  | closeRoom {settlementAuthority : PublicKey} {roomId : Bytes} :
      Carries (.closeRoom settlementAuthority roomId) .closeRoom
  | closeRoomPlayer {player : PublicKey} {roomId : Bytes} :
      Carries (.closeRoomPlayer player roomId) .closeRoomPlayer

section Agrees
variable {web3 : Web3} {programId : PublicKey} (st : Stored web3 programId)

/-- The instruction of a builder reaches a handler of the program with the builder's parameters
for arguments, none of its data is left over, and its accounts are those of the struct. -/
def Agrees (b : Builder) (ix : TransactionInstruction) : Prop :=
  ix.programId = programId ∧ ∃ call, dispatch web3 ix.data = some (call, []) ∧
    b.Carries call ∧ call.Accepts st ix.keys

/-- The wallets given for keys of the config are the stored ones, the builder is not
`createEnterRoomInstruction`, and for `createDistributeWinningsInstruction` the stored fee
destination is the treasury. -/
def Builder.Matched : Builder → Prop
  | .updateConfig admin .. | .withdrawTreasury admin .. => admin = st.admin
  | .createRoom settlementAuthority .. | .startRoom settlementAuthority _
  | .unlockPrize settlementAuthority _ | .closeRoom settlementAuthority _ =>
      settlementAuthority = st.settlementAuthority
  | .settleToWinner settlementAuthority feeDestination .. =>
      settlementAuthority = st.settlementAuthority ∧ feeDestination = st.feeDestination
  | .distributeWinnings settlementAuthority .. =>
      settlementAuthority = st.settlementAuthority ∧ st.feeDestination = st.treasury
  | .enterRoom .. => False
  | .deposit .. | .withdraw .. | .initializeProgram .. | .joinRoom .. | .lockEntryFee ..
  | .cancelRoom .. | .claimRefund .. | .closeRoomPlayer .. => True

variable {st}

/-- The data decodes to one call, so agreement is about its accounts. -/
theorem agrees_iff (hd : web3.Distinct) {b : Builder} {call : HandlerCall} {name : String}
    {args : Reader HandlerCall} {bss : List Bytes} {keys : List AccountMeta}
    (hl : handlers.lookup name = some args) (hr : Reads args bss.flatten call)
    (hc : b.Carries call) :
    Agrees st b ⟨programId, keys, encodeInstruction web3 name bss⟩ ↔ call.Accepts st keys := by
  have hdis := dispatch_eq hd hl hr
  constructor
  · rintro ⟨-, call', hcall, -, ha⟩
    rw [encodeInstruction, hdis] at hcall
    cases hcall
    exact ha
  · intro ha
    exact ⟨rfl, call, hdis, hc, ha⟩

variable {ix : TransactionInstruction}

/-- A deposit is built as the program reads it. -/
theorem agrees_deposit (hd : web3.Distinct) {player : PublicKey} {lamports : ℤ}
    (h : createDepositInstruction web3 programId player lamports = .ok ix) :
    Agrees st (.deposit player lamports) ix := by
  simp only [createDepositInstruction, bind_returns] at h
  obtain ⟨bs, hbs, h⟩ := h
  cases h
  obtain ⟨amount, rfl, hr⟩ := encodeU64_encodes _ _ hbs
  refine (agrees_iff hd rfl ?_ (.deposit amount)).mpr ?_
  · exact hr.bind (.pure _)
  exact Accounts.Deposit.mk ⟨rfl, findConfigPda_fst⟩ ⟨⟨rfl, rfl⟩, findPlayerPda_fst _⟩
    ⟨⟨rfl, rfl⟩, findPoolPda_fst⟩ ⟨rfl, rfl⟩ ⟨rfl, rfl⟩

/-- So is a withdrawal. -/
theorem agrees_withdraw (hd : web3.Distinct) {player : PublicKey} {lamports : ℤ}
    (h : createWithdrawInstruction web3 programId player lamports = .ok ix) :
    Agrees st (.withdraw player lamports) ix := by
  simp only [createWithdrawInstruction, bind_returns] at h
  obtain ⟨bs, hbs, h⟩ := h
  cases h
  obtain ⟨amount, rfl, hr⟩ := encodeU64_encodes _ _ hbs
  refine (agrees_iff hd rfl ?_ (.withdraw amount)).mpr ?_
  · exact hr.bind (.pure _)
  exact Accounts.Withdraw.mk ⟨rfl, findConfigPda_fst⟩
    ⟨⟨rfl, rfl⟩, Stored.playerOf (findPlayerPda_fst _)⟩ ⟨⟨rfl, rfl⟩, findPoolPda_fst⟩
    ⟨⟨rfl, rfl⟩, findTreasuryPda_fst, st.treasuryPda⟩ ⟨rfl, rfl⟩ ⟨rfl, rfl⟩

/-- The set-up, with both authorities and both rates. -/
theorem agrees_initializeProgram (hd : web3.Distinct)
    {admin settlementAuthority feeDestination : PublicKey} {feeBps withdrawalFeeBps : Number}
    (h : createInitializeInstruction web3 programId admin settlementAuthority feeDestination feeBps
      withdrawalFeeBps = .ok ix) :
    Agrees st (.initializeProgram admin settlementAuthority feeDestination feeBps
      withdrawalFeeBps) ix := by
  simp only [createInitializeInstruction, bind_returns] at h
  obtain ⟨fbs, hf, wbs, hw, h⟩ := h
  cases h
  obtain ⟨fee, rfl, hfr⟩ := encodeU16_encodes _ _ hf
  obtain ⟨withdrawalFee, rfl, hwr⟩ := encodeU16_encodes _ _ hw
  refine (agrees_iff hd rfl ?_ (.initializeProgram fee withdrawalFee)).mpr ?_
  · exact (reads_pubkey _).bind ((reads_pubkey _).bind (hfr.bind (hwr.bind (.pure _))))
  exact Accounts.Initialize.mk ⟨⟨rfl, rfl⟩, findConfigPda_fst⟩ ⟨⟨rfl, rfl⟩, findPoolPda_fst⟩
    ⟨⟨rfl, rfl⟩, findTreasuryPda_fst⟩ ⟨rfl, rfl⟩ ⟨rfl, rfl⟩

/-- Each field of an update is optional, and is written so. -/
theorem agrees_updateConfig (hd : web3.Distinct) {admin : PublicKey}
    {feeBps withdrawalFeeBps : Option Number}
    {settlementAuthority feeDestination : Option PublicKey} {paused : Option Bool}
    (h : createUpdateConfigInstruction web3 programId admin feeBps withdrawalFeeBps
      settlementAuthority feeDestination paused = .ok ix) :
    Agrees st (.updateConfig admin feeBps withdrawalFeeBps settlementAuthority feeDestination
      paused) ix ↔ admin = st.admin := by
  simp only [createUpdateConfigInstruction, bind_returns] at h
  obtain ⟨fbs, hf, wbs, hw, abs, ha, dbs, hds, pbs, hp, h⟩ := h
  cases h
  obtain ⟨fee, rfl, hfr⟩ := encodeU16_encodes.option _ _ hf
  obtain ⟨withdrawalFee, rfl, hwr⟩ := encodeU16_encodes.option _ _ hw
  obtain ⟨authority, rfl, har⟩ := (Encodes.of_reads reads_pubkey).option _ _ ha
  obtain ⟨destination, rfl, hdr⟩ := (Encodes.of_reads reads_pubkey).option _ _ hds
  obtain ⟨isPaused, rfl, hpr⟩ := (Encodes.of_reads reads_bool).option _ _ hp
  simp only [Option.map_id, id_eq]
  refine (agrees_iff hd rfl ?_ (.updateConfig fee withdrawalFee)).trans ?_
  · exact hfr.bind (hwr.bind (har.bind (hdr.bind (hpr.bind (.pure _)))))
  constructor
  · intro h
    exact (h : Accounts.UpdateConfig ..).config_ok.2.2
  · intro hadmin
    exact Accounts.UpdateConfig.mk ⟨⟨rfl, rfl⟩, findConfigPda_fst, hadmin⟩ rfl

/-- A room is created by the authority of the config, or the program refuses it. -/
theorem agrees_createRoom (hd : web3.Distinct) {settlementAuthority : PublicKey} {roomId : Bytes}
    {entryFeeLamports : ℤ} {maxPlayers : Number}
    (h : createRoomInstruction web3 programId settlementAuthority roomId entryFeeLamports
      maxPlayers = .ok ix) :
    Agrees st (.createRoom settlementAuthority roomId entryFeeLamports maxPlayers) ix ↔
      settlementAuthority = st.settlementAuthority := by
  simp only [createRoomInstruction, bind_returns] at h
  obtain ⟨id, hid, room, hroom, vault, hvault, ibs, hi, ebs, he, pbs, hp, h⟩ := h
  cases h
  have hlen := length_normalizeRoomId hid
  have hir : Reads (bytes 16) ibs id := by
    simp only [encodeFixedBytes, hlen, ne_eq, not_true_eq_false, if_false] at hi
    cases hi
    exact reads_bytes hlen
  obtain ⟨entryFee, rfl, her⟩ := encodeU64_encodes _ _ he
  obtain ⟨players, rfl, hpr⟩ := encodeU16_encodes _ _ hp
  refine (agrees_iff hd rfl ?_ (.createRoom entryFee players hid)).trans ?_
  · exact hir.bind (her.bind (hpr.bind (.pure _)))
  constructor
  · intro h
    exact (h : Accounts.CreateRoom ..).settlementAuthority_ok.2
  · intro hauthority
    exact Accounts.CreateRoom.mk ⟨⟨rfl, rfl⟩, findConfigPda_fst⟩
      ⟨⟨rfl, rfl⟩, findRoomPda_fst hlen hroom⟩ ⟨⟨rfl, rfl⟩, findRoomVaultPda_fst hlen hvault⟩
      ⟨⟨rfl, rfl⟩, hauthority⟩ ⟨rfl, rfl⟩

/-- A join names the record that it creates. -/
theorem agrees_joinRoom (hd : web3.Distinct) {player : PublicKey} {roomId : Bytes}
    (h : createJoinRoomInstruction web3 programId player roomId = .ok ix) :
    Agrees st (.joinRoom player roomId) ix := by
  simp only [createJoinRoomInstruction, bind_returns] at h
  obtain ⟨id, hid, room, hroom, h⟩ := h
  cases h
  have hlen := length_normalizeRoomId hid
  have hr := findRoomPda_fst hlen hroom
  refine (agrees_iff hd rfl (Reads.pure _) .joinRoom).mpr ?_
  exact Accounts.JoinRoom.mk ⟨rfl, findConfigPda_fst⟩ ⟨⟨rfl, rfl⟩, Stored.ofRoom hlen hr hr⟩
    ⟨⟨rfl, rfl⟩, findRoomPlayerPda_fst _ _⟩ ⟨⟨rfl, rfl⟩, Stored.playerOf (findPlayerPda_fst _)⟩
    ⟨rfl, rfl⟩ ⟨rfl, rfl⟩

/-- The fee is taken from the player's own account. -/
theorem agrees_lockEntryFee (hd : web3.Distinct) {player : PublicKey} {roomId : Bytes}
    (h : createLockEntryFeeInstruction web3 programId player roomId = .ok ix) :
    Agrees st (.lockEntryFee player roomId) ix := by
  simp only [createLockEntryFeeInstruction, bind_returns] at h
  obtain ⟨id, hid, room, hroom, vault, hvault, h⟩ := h
  cases h
  have hlen := length_normalizeRoomId hid
  have hr := findRoomPda_fst hlen hroom
  refine (agrees_iff hd rfl (Reads.pure _) .lockEntryFee).mpr ?_
  have hrecord : st.RecordOf (writable room.1) (signer player)
    (writable (findRoomPlayerPda web3 programId room.1 player).1) := findRoomPlayerPda_fst _ _
  exact Accounts.LockEntryFee.mk ⟨rfl, findConfigPda_fst⟩ ⟨⟨rfl, rfl⟩, Stored.ofRoom hlen hr hr⟩
    ⟨⟨rfl, rfl⟩, hrecord, Stored.names hrecord⟩
    ⟨⟨rfl, rfl⟩, Stored.playerOf (findPlayerPda_fst _)⟩ ⟨⟨rfl, rfl⟩, findPoolPda_fst⟩
    ⟨⟨rfl, rfl⟩, Stored.ofRoom hlen hr (findRoomVaultPda_fst hlen hvault)⟩ rfl ⟨rfl, rfl⟩

/-- Only the config's authority starts a room. -/
theorem agrees_startRoom (hd : web3.Distinct) {settlementAuthority : PublicKey} {roomId : Bytes}
    (h : createStartRoomInstruction web3 programId settlementAuthority roomId = .ok ix) :
    Agrees st (.startRoom settlementAuthority roomId) ix ↔
      settlementAuthority = st.settlementAuthority := by
  simp only [createStartRoomInstruction, bind_returns] at h
  obtain ⟨id, hid, room, hroom, h⟩ := h
  cases h
  have hlen := length_normalizeRoomId hid
  have hr := findRoomPda_fst hlen hroom
  rw [agrees_iff hd rfl (Reads.pure _) .startRoom]
  constructor
  · intro h
    exact (h : Accounts.StartRoom ..).settlementAuthority_ok.2
  · intro hauthority
    exact Accounts.StartRoom.mk ⟨rfl, findConfigPda_fst⟩ ⟨⟨rfl, rfl⟩, Stored.ofRoom hlen hr hr⟩
      ⟨rfl, hauthority⟩

/-- And unlocks its prize. -/
theorem agrees_unlockPrize (hd : web3.Distinct) {settlementAuthority : PublicKey} {roomId : Bytes}
    (h : createUnlockPrizeInstruction web3 programId settlementAuthority roomId = .ok ix) :
    Agrees st (.unlockPrize settlementAuthority roomId) ix ↔
      settlementAuthority = st.settlementAuthority := by
  simp only [createUnlockPrizeInstruction, bind_returns] at h
  obtain ⟨id, hid, room, hroom, h⟩ := h
  cases h
  have hlen := length_normalizeRoomId hid
  have hr := findRoomPda_fst hlen hroom
  rw [agrees_iff hd rfl (Reads.pure _) .unlockPrize]
  constructor
  · intro h
    exact (h : Accounts.UnlockPrize ..).settlementAuthority_ok.2
  · intro hauthority
    exact Accounts.UnlockPrize.mk ⟨rfl, findConfigPda_fst⟩ ⟨⟨rfl, rfl⟩, Stored.ofRoom hlen hr hr⟩
      ⟨rfl, hauthority⟩

/-- Accepted winners are distinct. -/
theorem checkWinners_nodup {seen : List String} {winners : List WinnerPayout} {u : Unit}
    (h : checkWinners web3 seen winners = .ok u) :
    (winners.map fun w => web3.toBase58 w.player).Nodup ∧
      ∀ w ∈ winners, web3.toBase58 w.player ∉ seen := by
  induction winners generalizing seen with
  | nil => simp
  | cons winner winners ih =>
      simp only [checkWinners] at h
      split at h
      · cases h
      · rename_i hseen
        split at h
        · cases h
        · obtain ⟨hnodup, hmem⟩ := ih h
          rw [List.map_cons, List.nodup_cons]
          refine ⟨⟨fun hin => ?_, hnodup⟩, fun w hw => ?_⟩
          · obtain ⟨w, hw, heq⟩ := List.mem_map.mp hin
            exact hmem w hw (heq ▸ List.mem_cons_self)
          · rcases List.mem_cons.mp hw with rfl | hw
            · exact hseen
            · exact fun hin => hmem w hw (List.mem_cons_of_mem _ hin)

/-- Where the struct has the config's fee destination the builder passes the treasury. -/
theorem agrees_distributeWinnings (hd : web3.Distinct) {settlementAuthority : PublicKey}
    {roomId : Bytes} {winners : List WinnerPayout}
    (h : createDistributeWinningsInstruction web3 programId settlementAuthority roomId winners =
      .ok ix) :
    Agrees st (.distributeWinnings settlementAuthority roomId winners) ix ↔
      settlementAuthority = st.settlementAuthority ∧ st.feeDestination = st.treasury := by
  simp only [createDistributeWinningsInstruction] at h
  split at h
  · cases h
  split at h
  · cases h
  simp only [bind_returns] at h
  obtain ⟨u, hw, id, hid, room, hroom, vault, hvault, bs, hbs, h⟩ := h
  cases h
  have hlen := length_normalizeRoomId hid
  have hr := findRoomPda_fst hlen hroom
  obtain ⟨payouts, hp, hpr⟩ := encodeU64_encodes.vec _ _ hbs
  refine (agrees_iff hd rfl ?_ (.distributeWinnings payouts hp)).trans ?_
  · exact hpr.bind (.pure _)
  constructor
  · intro h
    have hs : Accounts.DistributeWinnings .. := h
    exact ⟨hs.settlementAuthority_ok.2, hs.feeDestination_ok.2.symm.trans st.treasuryPda⟩
  · rintro ⟨hauthority, hdestination⟩
    refine Accounts.DistributeWinnings.mk ⟨rfl, findConfigPda_fst⟩
      ⟨⟨rfl, rfl⟩, Stored.ofRoom hlen hr hr⟩
      ⟨⟨rfl, rfl⟩, Stored.ofRoom hlen hr (findRoomVaultPda_fst hlen hvault)⟩
      ⟨⟨rfl, rfl⟩, findPoolPda_fst⟩ ⟨⟨rfl, rfl⟩, st.treasuryPda.trans hdestination.symm⟩
      ⟨rfl, hauthority⟩ ⟨rfl, rfl⟩ ⟨winners.map (·.player), ?_, ?_, ?_⟩
    · have := congrArg List.length hp
      simpa using this
    · refine List.Nodup.of_map web3.toBase58 ?_
      rw [List.map_map]
      exact (checkWinners_nodup hw).1
    · simp only [findRoomPlayerPda_fst, findPlayerPda_fst, List.flatMap_map]
      rfl

/-- Anyone may call a cancel: the program asks the clock. -/
theorem agrees_cancelRoom (hd : web3.Distinct) {caller : PublicKey} {roomId : Bytes}
    (h : createCancelRoomInstruction web3 programId caller roomId = .ok ix) :
    Agrees st (.cancelRoom caller roomId) ix := by
  simp only [createCancelRoomInstruction, bind_returns] at h
  obtain ⟨id, hid, room, hroom, h⟩ := h
  cases h
  have hlen := length_normalizeRoomId hid
  have hr := findRoomPda_fst hlen hroom
  refine (agrees_iff hd rfl (Reads.pure _) .cancelRoom).mpr ?_
  exact Accounts.CancelRoom.mk ⟨rfl, findConfigPda_fst⟩ ⟨⟨rfl, rfl⟩, Stored.ofRoom hlen hr hr⟩ rfl

/-- A refund is claimed by anyone, for the player. -/
theorem agrees_claimRefund (hd : web3.Distinct) {player claimant : PublicKey} {roomId : Bytes}
    (h : createClaimRefundInstruction web3 programId player claimant roomId = .ok ix) :
    Agrees st (.claimRefund player claimant roomId) ix := by
  simp only [createClaimRefundInstruction, bind_returns] at h
  obtain ⟨id, hid, room, hroom, vault, hvault, h⟩ := h
  cases h
  have hlen := length_normalizeRoomId hid
  have hr := findRoomPda_fst hlen hroom
  refine (agrees_iff hd rfl (Reads.pure _) .claimRefund).mpr ?_
  have hrecord : st.RecordOf (writable room.1) (readonly player)
    (writable (findRoomPlayerPda web3 programId room.1 player).1) := findRoomPlayerPda_fst _ _
  exact Accounts.ClaimRefund.mk ⟨rfl, findConfigPda_fst⟩ ⟨⟨rfl, rfl⟩, Stored.ofRoom hlen hr hr⟩
    ⟨⟨rfl, rfl⟩, hrecord, Stored.names hrecord⟩
    ⟨⟨rfl, rfl⟩, Stored.playerOf (findPlayerPda_fst _)⟩
    ⟨⟨rfl, rfl⟩, Stored.ofRoom hlen hr (findRoomVaultPda_fst hlen hvault)⟩
    ⟨⟨rfl, rfl⟩, findPoolPda_fst⟩ rfl ⟨rfl, rfl⟩ ⟨rfl, rfl⟩

/-- The treasury is the admin's. -/
theorem agrees_withdrawTreasury (hd : web3.Distinct) {admin destination : PublicKey}
    {lamports : ℤ}
    (h : createWithdrawTreasuryInstruction web3 programId admin destination lamports = .ok ix) :
    Agrees st (.withdrawTreasury admin destination lamports) ix ↔ admin = st.admin := by
  simp only [createWithdrawTreasuryInstruction, bind_returns] at h
  obtain ⟨bs, hbs, h⟩ := h
  cases h
  obtain ⟨amount, rfl, hr⟩ := encodeU64_encodes _ _ hbs
  refine (agrees_iff hd rfl ?_ (.withdrawTreasury amount)).trans ?_
  · exact hr.bind (.pure _)
  constructor
  · intro h
    exact (h : Accounts.WithdrawTreasury ..).config_ok.2.2
  · intro hadmin
    exact Accounts.WithdrawTreasury.mk ⟨rfl, findConfigPda_fst, hadmin⟩
      ⟨⟨rfl, rfl⟩, findTreasuryPda_fst, st.treasuryPda⟩ ⟨rfl, rfl⟩ rfl ⟨rfl, rfl⟩

/-- The player, who pays for the entry record, is passed read-only. -/
theorem not_agrees_enterRoom (hd : web3.Distinct) {player : PublicKey} {roomId : Bytes}
    (h : createEnterRoomInstruction web3 programId player roomId = .ok ix) :
    ¬ Agrees st (.enterRoom player roomId) ix := by
  simp only [createEnterRoomInstruction, bind_returns] at h
  obtain ⟨id, -, room, -, vault, -, h⟩ := h
  cases h
  rw [agrees_iff hd rfl (Reads.pure _) .enterRoom]
  intro h
  exact Bool.false_ne_true (h : Accounts.EnterRoom ..).player_ok.2

/-- The settlement names the authority and the fee destination of the config. -/
theorem agrees_settleToWinner (hd : web3.Distinct)
    {settlementAuthority feeDestination winner : PublicKey} {roomId : Bytes}
    (h : createSettleToWinnerInstruction web3 programId settlementAuthority feeDestination winner
      roomId = .ok ix) :
    Agrees st (.settleToWinner settlementAuthority feeDestination winner roomId) ix ↔
      settlementAuthority = st.settlementAuthority ∧ feeDestination = st.feeDestination := by
  simp only [createSettleToWinnerInstruction, bind_returns] at h
  obtain ⟨id, hid, room, hroom, vault, hvault, h⟩ := h
  cases h
  have hlen := length_normalizeRoomId hid
  have hr := findRoomPda_fst hlen hroom
  rw [agrees_iff hd rfl (Reads.pure _) .settleToWinner]
  have hrecord : st.RecordOf (writable room.1) (writable winner)
    (writable (findRoomPlayerPda web3 programId room.1 winner).1) := findRoomPlayerPda_fst _ _
  constructor
  · intro h
    have hs : Accounts.SettleToWinner .. := h
    exact ⟨hs.settlementAuthority_ok.2, hs.feeDestination_ok.2⟩
  · rintro ⟨hauthority, hdestination⟩
    exact Accounts.SettleToWinner.mk ⟨rfl, findConfigPda_fst⟩
      ⟨⟨rfl, rfl⟩, Stored.ofRoom hlen hr hr⟩
      ⟨⟨rfl, rfl⟩, Stored.ofRoom hlen hr (findRoomVaultPda_fst hlen hvault)⟩
      ⟨⟨rfl, rfl⟩, hrecord, (Stored.names hrecord).2⟩ ⟨rfl, rfl⟩ ⟨⟨rfl, rfl⟩, hdestination⟩
      ⟨rfl, hauthority⟩ ⟨rfl, rfl⟩

/-- A room is closed by the config's authority. -/
theorem agrees_closeRoom (hd : web3.Distinct) {settlementAuthority : PublicKey} {roomId : Bytes}
    (h : createCloseRoomInstruction web3 programId settlementAuthority roomId = .ok ix) :
    Agrees st (.closeRoom settlementAuthority roomId) ix ↔
      settlementAuthority = st.settlementAuthority := by
  simp only [createCloseRoomInstruction, bind_returns] at h
  obtain ⟨id, hid, room, hroom, vault, hvault, h⟩ := h
  cases h
  have hlen := length_normalizeRoomId hid
  have hr := findRoomPda_fst hlen hroom
  rw [agrees_iff hd rfl (Reads.pure _) .closeRoom]
  constructor
  · intro h
    exact (h : Accounts.CloseRoom ..).settlementAuthority_ok.2
  · intro hauthority
    exact Accounts.CloseRoom.mk ⟨rfl, findConfigPda_fst⟩ ⟨⟨rfl, rfl⟩, Stored.ofRoom hlen hr hr⟩
      ⟨⟨rfl, rfl⟩, Stored.ofRoom hlen hr (findRoomVaultPda_fst hlen hvault)⟩
      ⟨⟨rfl, rfl⟩, hauthority⟩

/-- A record is closed for its player. -/
theorem agrees_closeRoomPlayer (hd : web3.Distinct) {player : PublicKey} {roomId : Bytes}
    (h : createCloseRoomPlayerInstruction web3 programId player roomId = .ok ix) :
    Agrees st (.closeRoomPlayer player roomId) ix := by
  simp only [createCloseRoomPlayerInstruction, bind_returns] at h
  obtain ⟨id, hid, room, hroom, h⟩ := h
  cases h
  have hlen := length_normalizeRoomId hid
  have hr := findRoomPda_fst hlen hroom
  refine (agrees_iff hd rfl (Reads.pure _) .closeRoomPlayer).mpr ?_
  have hrecord : st.RecordOf (readonly room.1) (writable player)
    (writable (findRoomPlayerPda web3 programId room.1 player).1) := findRoomPlayerPda_fst _ _
  exact Accounts.CloseRoomPlayer.mk ⟨rfl, Stored.ofRoom hlen hr hr⟩
    ⟨⟨rfl, rfl⟩, hrecord, (Stored.names hrecord).2⟩ ⟨rfl, rfl⟩

end Agrees

/-! ### Runs on the deployed addresses -/

/-- A value of 32 bytes, most significant first. -/
def key (n : ℕ) : PublicKey :=
  ⟨(leBytes 32 n).reverse, by simp⟩

/-- The digests of `global:` and the program's function names. -/
def digests : List (String × ℕ) := [
  ("initialize",
    0xafaf6d1f0d989bedd46a95073281adc21bb5e0e1d773b2fbbd7ab504cdd4aa30),
  ("update_config",
    0x1d9efcbf0a53db630b4ece6a0b22e9f7b197e7e7d0f005b24492d2a36f9bd296),
  ("transfer_admin",
    0x2af2426ae40a6f9c2c502b130ffbca2721053ec50c73f2fcee7f7a51303be22f),
  ("accept_admin",
    0x702a2d5a74b50daa14824ea890d5e735222dbc91903319f59b4e490b99fc9341),
  ("withdraw_treasury",
    0x283f7a9e90d853609dd1976119854330591c38c33f2b1c5e8f3b4ae9d9d0abc9),
  ("deposit",
    0xf223c68952e1f2b64f7fdf8db46763fed2f53987356e679488d82c0aa642809f),
  ("withdraw",
    0xb712469c946da1223bcc9925f37578514968cda18f0109adca80cfa712061d4c),
  ("create_room",
    0x82a62002f778b235e7db3e6136e92e3c0ca540b4b1d422f4d4053639e4495e11),
  ("join_room",
    0x5fe8bc517c824e8b77ad3e003a3d59438ab9467ae28df8855193d71781292762),
  ("enter_room",
    0x0bb791ac8ea3cf1f1d666db89a76d872b46337f908d172a039a91a933147f9f1),
  ("lock_entry_fee",
    0xab6ccd362581d92c6b4e30979c36132fe139ff9abd99246bb57383d85da0ae72),
  ("start_room",
    0x01ff4dc2abaa3ef8ccabd7233c149d9d9ee4c7388818aed690d31a205a5de96f),
  ("unlock_prize",
    0x12051908db14e1987f5c17e3e77a1111f936c418ecc9a4a582030177f8760d6e),
  ("distribute_winnings",
    0xd0fe7f944e68f9fadd670499e7f4a640879d8afd344c22647f5d6bc5bda49b18),
  ("settle_to_winner",
    0x692da6b64272975e978822cba42c2f8948b65757e29ba353618d61cea5935dff),
  ("cancel_room",
    0x5b6bd7b2c8e0f1eddf7bceaee855bf7710955667fa478b11f17c63187bab9bb3),
  ("claim_refund",
    0x0f101ea1ffe4613c3361151b6bb0965c45b33ae2346c8c79136aae1edb0bbb59),
  ("close_room",
    0x98c558c062c533d3460e28f76ebeaeb561fb1b96f07ed06f0642fd3b719f8fb1),
  ("close_room_player",
    0xe9ef1a09519a67929617b42e64e74130ab9515813ee5b4a09f50f63a662d3558)]

/-- `declare_id!`. -/
def arenaId : PublicKey := key 0x3aed7305adecf5dc57cf0f02c8fd9a72c753ea6468c127a1c3f6440ef6d751eb

def somePlayer : PublicKey := key 0x646a413a079da0a2f5ba2d36257c4d0d0b576783de8cca49efbcd33a65f39cfe

def someRoomId : Bytes := (leBytes 16 0x123e4567e89b12d3a456426614174000).reverse

def someRoom : PublicKey := key 0xd27fa89bc916ae43d9e07049f0e8dab785c326cb8af5f9e24401f0ce4f628cf6

/-- The addresses the program derives for the player and the room above. -/
def derivations : List (List Bytes × PublicKey × ℕ) := [
  ([literal "config"],
    key 0x1511febaff61f041c52739105764184a90f59b7985b9f97ca8b93bf3c54cee46, 255),
  ([literal "pool"],
    key 0xb49ba597a5de599815f14ad77bb69da5458153cb8a79696ab86cd9b1343bc19d, 255),
  ([literal "treasury"],
    key 0x333adb22856afcea82bf8e5b7902609e9fba3aad4afe6429caabaebcb2132d8c, 253),
  ([literal "player", somePlayer.toBytes],
    key 0x9c3eba5cf531cba0efa10d5301a2b51e82e9cc87acc8e8397bc52197f5300887, 255),
  ([literal "room_vault", someRoomId],
    key 0x5c69f1b44b8e93a30568ca5e5b6e17f6b051cbe94ca39dbf55f9436d5435c8fe, 255),
  ([literal "room", someRoomId], someRoom, 253),
  ([literal "room_player", someRoom.toBytes, somePlayer.toBytes],
    key 0xf1764673df468174141613adde9090a62369ab2339ce37627509ba1680e9044d, 255)]

/-- The packages, on the inputs above. -/
def deployed : Web3 where
  findProgramAddressSync seeds _ :=
    match derivations.lookup seeds with
    | some pda => pda
    | none => (systemProgramId, 0)
  toBase58 _ := "7kyk3GMrVVmZmmRxnrk8cJcRt9Rw6fV9c1CUMQfC1vwX"
  sha256 m :=
    match digests.find? fun e => utf8 s!"global:{e.1}" = m with
    | some e => (key e.2).toBytes
    | none => systemProgramId.toBytes
  sha256_length m := by
    split
    · exact (key _).length_eq
    · rfl

/-- No two addresses of the deployment are the same. -/
theorem deployed_distinct : deployed.Distinct := by
  unfold Web3.Distinct
  decide

/-- Among the addresses above only the room's is the room. -/
theorem derive_eq_someRoom {id : Bytes}
    (h : deployed.derive arenaId [Seeds.room, id] = someRoom) : id = someRoomId := by
  have hentry : ∀ e ∈ derivations, e.2.1 = someRoom → e.1 = [Seeds.room, someRoomId] := by
    decide
  simp only [Web3.derive, deployed] at h
  split at h
  · rename_i pda hpda
    obtain ⟨l₁, l₂, hl, -⟩ := List.lookup_eq_some_iff.mp hpda
    have := hentry _ (hl ▸ List.mem_append_right _ List.mem_cons_self) h
    simpa using this
  · exact absurd h (by decide)

/-- The player runs the program, and a room stands at its address. -/
def deployedStored : Stored deployed arenaId where
  admin := somePlayer
  settlementAuthority := somePlayer
  treasury := deployed.derive arenaId [Seeds.treasury]
  feeDestination := somePlayer
  roomId k := if k = someRoom then some someRoomId else none
  owner _ := none
  roomPlayer _ := none
  treasury_eq := rfl
  roomId_eq id id' _ h := by
    split at h
    · rename_i hroom
      cases h
      exact (derive_eq_someRoom hroom).symm
    · cases h
  owner_eq _ _ h := by cases h
  roomPlayer_eq _ _ _ h := by cases h

section Agrees
variable {web3 : Web3} {programId : PublicKey} {st : Stored web3 programId}
  {ix : TransactionInstruction}

/-- **The SDK and the program agree on exactly the matched builders.** -/
theorem sdk_agrees (hd : web3.Distinct) {b : Builder}
    (h : b.build web3 programId = .ok ix) : Agrees st b ix ↔ b.Matched st := by
  cases b with
  | deposit => exact iff_true_intro (agrees_deposit hd h)
  | withdraw => exact iff_true_intro (agrees_withdraw hd h)
  | initializeProgram => exact iff_true_intro (agrees_initializeProgram hd h)
  | updateConfig => exact agrees_updateConfig hd h
  | createRoom => exact agrees_createRoom hd h
  | joinRoom => exact iff_true_intro (agrees_joinRoom hd h)
  | lockEntryFee => exact iff_true_intro (agrees_lockEntryFee hd h)
  | startRoom => exact agrees_startRoom hd h
  | unlockPrize => exact agrees_unlockPrize hd h
  | distributeWinnings => exact agrees_distributeWinnings hd h
  | cancelRoom => exact iff_true_intro (agrees_cancelRoom hd h)
  | claimRefund => exact iff_true_intro (agrees_claimRefund hd h)
  | withdrawTreasury => exact agrees_withdrawTreasury hd h
  | enterRoom => exact iff_false_intro (not_agrees_enterRoom hd h)
  | settleToWinner => exact agrees_settleToWinner hd h
  | closeRoom => exact agrees_closeRoom hd h
  | closeRoomPlayer => exact iff_true_intro (agrees_closeRoomPlayer hd h)

end Agrees

/-- A deposit of a million lamports by the player. -/
theorem sdk_agrees_deposit :
    ∃ ix, (Builder.deposit somePlayer 1000000).build deployed arenaId = .ok ix ∧
      Agrees deployedStored (.deposit somePlayer 1000000) ix :=
  ⟨_, rfl, (sdk_agrees deployed_distinct rfl).mpr trivial⟩

/-- The player cannot enter the room with the instruction built for it, and the prize of the room
cannot be distributed while the fee destination is a wallet. -/
theorem sdk_disagrees :
    (∃ ix, (Builder.enterRoom somePlayer someRoomId).build deployed arenaId = .ok ix ∧
      ¬ Agrees deployedStored (.enterRoom somePlayer someRoomId) ix) ∧
    ∃ ix, (Builder.distributeWinnings somePlayer someRoomId [⟨somePlayer, 1000000⟩]).build
        deployed arenaId = .ok ix ∧
      ¬ Agrees deployedStored (.distributeWinnings somePlayer someRoomId [⟨somePlayer, 1000000⟩])
        ix := by
  refine ⟨⟨_, rfl, not_agrees_enterRoom deployed_distinct rfl⟩, ⟨_, rfl, fun h => ?_⟩⟩
  have hfee := ((agrees_distributeWinnings deployed_distinct rfl).mp h).2
  exact absurd hfee (by decide)

end SnakeArena.Sdk
