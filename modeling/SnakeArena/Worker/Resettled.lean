import SnakeArena.Program.Settling
import SnakeArena.Worker.Carries
import SnakeArena.Worker.PayOrRefund

/-!
# Worker — a settlement that is run again

A first call of `settleGame` can stop after any of its awaits: it crashes, an answer is an error, or
what it sent lands and the answer is lost.  `Progress` is what it leaves: the room not unlocked and
the books as they were; the match counted as one without a pot, when the vault could not be read;
the prize unlocked, or paid, and the books not complete; the books complete; everything done.

A later call looks at the vault first.  When the winner was paid and the ledger, the reward or the
leaderboard was not written, it finds the vault empty, and confirms the row with nothing else
(`settles_again_paid`); and a room that is unlocked and has not paid cannot be unlocked again.  From
the states that are left (`InTime`) the next call completes the settlement, and those after it
leave it.

* `carries_record`: what follows the payment.
* `carries_settleOnChain`: the calls of the room, and the payment.
* `carries_untouched`: a whole call, before the prize is unlocked.
* `settles_again`: the calls that follow the first.
-/

namespace SnakeArena.Worker
open SnakeArena.Library SnakeArena.Db SnakeArena.Program SnakeArena.Books Database

/-! ### Entrants -/

section Adopt
variable {wild : Prop} {J R : Services → Prop} {s : Services} {g : ℕ} {game : Game}
  {report : MatchResultReport}

/-- What the worker reads on chain. -/
def Services.chainView (s : Services) : Chain := ⟨roomIdFromUuid, s.accountExists⟩

/-- Whether the entry of a player is found. -/
def Services.entered (s : Services) (g : ℕ) (wallets : ℕ → Option Pubkey) (playerId : ℕ) : Bool :=
  (wallets playerId).any fun address =>
    s.accountExists (.roomPlayer (.room (roomIdFromUuid g)) address)

/-- Those who paid are the reported players whose entry is found. -/
theorem paidEntrants_eq : paidEntrants s.chainView s.wallets g report =
    (report.standings.map (·.playerId)).filter
      (s.entered g (resolveWallets s.wallets (report.standings.map (·.playerId)))) := by
  refine List.filter_congr fun playerId _ => ?_
  unfold Services.entered
  split
  next hwallet => rw [hwallet, Option.any_none]
  next hwallet =>
      rw [hwallet, Option.any_some]
      rfl

/-- The loop over the reported players finds them. -/
theorem carries_findPaid {wallets : ℕ → Option Pubkey} {k : List ℕ → Prog} (hs : J s) :
    ∀ {reported paid : List ℕ},
      Carries wild J R (k (paid ++ reported.filter (s.entered g wallets))) s →
        Carries wild J R (findPaid g .throws wallets k paid reported) s
  | [], paid, hk => by
      rw [List.filter_nil, List.append_nil] at hk
      exact hk
  | playerId :: reported, paid, hk => by
      rw [findPaid]
      rw [List.filter_cons, Services.entered] at hk
      cases hwallet : wallets playerId with
      | none =>
          rw [hwallet, Option.any_none, if_neg (fun e => by cases e)] at hk
          exact carries_findPaid hs hk
      | some address =>
          rw [hwallet, Option.any_some] at hk
          refine carries_read hs (carries_findPaid hs ?_)
          by_cases hfound : s.accountExists (.roomPlayer (.room (roomIdFromUuid g)) address) = true
          · rw [if_pos hfound] at hk
            rw [if_pos hfound, List.append_assoc]
            exact hk
          · rw [if_neg hfound] at hk
            rw [if_neg hfound]
            exact hk

/-- **The entrants that a settlement adopts**, when every read is answered, are those that the
wallets and the chain say. -/
theorem carries_adopt {k : VerificationContext → Prog} (hs : J s)
    (hk : Carries wild J R (k (adoptEntrants s.chainView s.wallets g game report)) s) :
    Carries wild J R (adopt g .throws game report k) s := by
  unfold adopt
  unfold adoptEntrants at hk
  by_cases hplayers : game.gamePlayers = []
  · rw [if_pos hplayers] at hk ⊢
    refine carries_read hs (carries_findPaid hs ?_)
    rw [List.nil_append, ← paidEntrants_eq]
    dsimp only at hk
    by_cases hpaid : paidEntrants s.chainView s.wallets g report = []
    · rw [if_neg (not_not.mpr hpaid)] at hk ⊢
      exact hk
    · rw [if_pos hpaid] at hk ⊢
      exact hk
  · rw [if_neg hplayers] at hk ⊢
    exact hk

/-- A report that is valid stays so, as long as no entry goes. -/
theorem adoptAndVerify_later {chain chain' : Chain} {wallets : List Wallet} {game' : Game}
    (hplayers : game'.gamePlayers = game.gamePlayers) (hnode : game'.nodeId = game.nodeId)
    (hentries : ∀ address, chain.accountExists (chain.roomPlayerAddress g address) = true →
      chain'.accountExists (chain'.roomPlayerAddress g address) = true)
    (h : (adoptAndVerify chain wallets g game report).ok = true) :
    (adoptAndVerify chain' wallets g game' report).ok = true := by
  by_cases hnone : game.gamePlayers = []
  · rw [adoptAndVerify_ok (hplayers.trans hnone)]
    obtain ⟨hgame, hwf, hfound⟩ := (adoptAndVerify_ok hnone).mp h
    refine ⟨hgame, hwf, fun playerId hnames => ?_⟩
    obtain ⟨address, haddress, hexists⟩ := hfound playerId hnames
    exact ⟨address, haddress, hentries address hexists⟩
  · rw [adoptAndVerify, adoptEntrants, if_neg hnone] at h
    rw [adoptAndVerify, adoptEntrants, if_neg (hplayers ▸ hnone), hplayers, hnode]
    exact h

end Adopt

/-! ### A game that is to be settled -/

/-- What a settlement of a game is about. -/
structure WonMatch where
  authority : Pubkey
  /-- Its row, as the first call finds it. -/
  game : Game
  report : MatchResultReport
  winner : ReportedStanding
  /-- The winner's. -/
  wallet : Pubkey

namespace WonMatch
variable (m : WonMatch)

/-- The standings, as they verify. -/
def standings : List ReportedStanding :=
  m.report.standings.insertionSort (·.placement ≤ ·.placement)

/-- What is decided, with this pot. -/
def decided (pot : ℤ) : Decided := ⟨m.standings, m.winner.playerId, pot, m.game.rakeBps⟩

def prize (pot : ℤ) : ℤ := (m.decided pot).split.prizePool

def rake (pot : ℤ) : ℤ := (m.decided pot).split.rake

/-- The game is not settled, and what a settlement decides by is as it was. -/
structure Open (game : Game) : Prop where
  gamePlayers : game.gamePlayers = m.game.gamePlayers
  nodeId : game.nodeId = m.game.nodeId
  rakeBps : game.rakeBps = m.game.rakeBps
  status : game.status ≠ .cancelled
  unconfirmed : game.settlementStatus ≠ .confirmed
  pot : 0 ≤ game.potLamports

end WonMatch

/-- A game that can be settled: its report is valid, its pot is in the vault of its room, and so is
the stake of the winner, who has a wallet; the accounts of its ledger are there, and nothing of the
settlement is. -/
structure Due (deps : SettleDeps) (g : ℕ) (m : WonMatch) (s : Services) : Prop where
  authority : deps.settlementAuthority = some m.authority
  row : s.game g = some m.game
  unconfirmed : m.game.settlementStatus ≠ .confirmed
  status : m.game.status ≠ .cancelled
  pot : 0 ≤ m.game.potLamports
  result : s.results.get g = some (some m.report)
  valid : (adoptAndVerify s.chainView s.wallets g m.game m.report).ok = true
  winner : detectWinner (adoptAndVerify s.chainView s.wallets g m.game m.report) = some m.winner
  whole : ∀ standing ∈ m.report.standings, standing.Whole
  wallet : resolveWallets s.wallets [m.winner.playerId] m.winner.playerId = some m.wallet
  rakeBps : m.game.rakeBps < 10000
  vault : deps.runtime.minimumBalance 0 < s.chain.lamports (.roomVault (roomIdFromUuid g))
  room : Startable deps.runtime m.authority deps.feeDestination m.wallet (roomIdFromUuid g) s.chain
  ledger : ∀ pot, Postable g m.winner.playerId (m.rake pot) s.database
  reward : s.rewards.get (g, m.winner.playerId) = none

/-- The game is settled, and everything that a settlement does was done once. -/
structure SettledOnce (deps : SettleDeps) (g : ℕ) (m : WonMatch) (s₀ s : Services) : Prop where
  row : ∃ game, s.game g = some game ∧ game.settlementStatus = .confirmed ∧ 0 < game.potLamports ∧
    game.payoutLamports = m.prize game.potLamports ∧ game.rakeLamports = m.rake game.potLamports ∧
    s.rewards.get (g, m.winner.playerId) = some game.payoutLamports ∧
    PostedOnce g m.winner.playerId game.payoutLamports game.rakeLamports s.database
  paid : PaidOnce deps.feeDestination m.wallet (roomIdFromUuid g) s₀.chain.lamports s.chain
  counted : ∃ day, s.leaderboard = countMatch day m.standings s₀.leaderboard

/-! ### How far a settlement has come -/

section Progress
variable (deps : SettleDeps) (g : ℕ) (m : WonMatch) (s₀ : Services)

/-- The room has not paid. -/
structure RoomUnpaid (Room : Runtime → Pubkey → Pubkey → Pubkey → RoomId → State → Prop)
    (c : State) : Prop where
  room : Room deps.runtime m.authority deps.feeDestination m.wallet (roomIdFromUuid g) c
  lamports : c.lamports = s₀.chain.lamports
  entries : c.roomPlayers = s₀.chain.roomPlayers

/-- It has. -/
structure RoomSettled (c : State) : Prop where
  paid : PaidOnce deps.feeDestination m.wallet (roomIdFromUuid g) s₀.chain.lamports c
  entries : ∀ key, s₀.chain.roomPlayers.get key ≠ none → c.roomPlayers.get key ≠ none

/-- The ledger and the leaderboard are as they were. -/
structure Unrecorded (Chain : State → Prop) (reward : Option ℤ) (Row : Game → Prop) (s : Services) :
    Prop where
  wallets : s.wallets = s₀.wallets
  results : s.results = s₀.results
  reward : s.rewards.get (g, m.winner.playerId) = reward
  leaderboard : s.leaderboard = s₀.leaderboard
  accounts : s.database.poolAccounts = s₀.database.poolAccounts
  transactions : s.database.transactions = s₀.database.transactions
  row : ∃ game, s.game g = some game ∧ m.Open game ∧ Row game
  chain : Chain s.chain

/-- What was paid is in the books. -/
structure Booked (s : Services) : Prop where
  wallets : s.wallets = s₀.wallets
  results : s.results = s₀.results
  row : ∃ game, s.game g = some game ∧ m.Open game ∧ 0 < game.potLamports ∧
    game.payoutLamports = m.prize game.potLamports ∧ game.rakeLamports = m.rake game.potLamports ∧
    s.rewards.get (g, m.winner.playerId) = some game.payoutLamports ∧
    PostedOnce g m.winner.playerId game.payoutLamports game.rakeLamports s.database
  chain : RoomSettled deps g m s₀ s.chain

/-- What a settlement that stops leaves. -/
inductive Progress (s : Services) : Prop
  | untouched (h : Unrecorded g m s₀ (RoomUnpaid deps g m s₀ Startable) none (fun _ => True) s)
  /-- Closed as a game without a pot, and counted as one. -/
  | freed {game : Game} (hgame : s.game g = some game) (hopen : m.Open game)
      (hstatus : game.status = .completed)
      (hlamports : s.chain.lamports = s₀.chain.lamports) (hboard : s.leaderboard ≠ s₀.leaderboard)
  /-- Its prize is unlocked, and may be paid. -/
  | underway {game : Game} (hgame : s.game g = some game) (hopen : m.Open game)
      (hroom : ∃ r, s.chain.rooms.get (roomIdFromUuid g) = some r ∧
        (r.status = .unlocked ∨ r.status = .settled))
      (hboard : s.leaderboard = s₀.leaderboard)
  | booked (h : Booked deps g m s₀ s)
  | done (h : SettledOnce deps g m s₀ s)

end Progress

section Finish
variable {wild : Prop} {deps : SettleDeps} {g : ℕ} {m : WonMatch} {s₀ s : Services}

/-- The settlement of the game, wherever it stops. -/
abbrev Resettles (wild : Prop) (deps : SettleDeps) (g : ℕ) (m : WonMatch) (s₀ : Services) :
    Prog → Services → Prop :=
  Carries wild (Progress deps g m s₀)
    fun s => Progress deps g m s₀ s ∧ (wild ∨ SettledOnce deps g m s₀ s)

/-- **The end**: the row is confirmed. -/
theorem carries_finish {signature : Option String} {o : Outcome} (h : Booked deps g m s₀ s)
    (day : ℤ) (hboard : s.leaderboard = countMatch day m.standings s₀.leaderboard) :
    Resettles wild deps g m s₀
      (finishGame g .throws .confirmed signature (notifyPlayers (.returns o))) s := by
  obtain ⟨game, hgame, -, hrow⟩ := h.row
  have hdone : SettledOnce deps g m s₀ (s.setGame g
      { game with
        status := .completed
        settlementStatus := .confirmed
        settlementSignature := signature <|> game.settlementSignature
        settlementError := none }) :=
    ⟨⟨_, game_setGame, rfl, hrow⟩, h.chain.paid, day, hboard⟩
  exact carries_updateGame (.booked h) hgame (.done hdone)
    (carries_notify (.done hdone) ⟨.done hdone, .inr hdone⟩)

end Finish

section Record
variable {wild : Prop} {deps : SettleDeps} {g : ℕ} {m : WonMatch} {s₀ s : Services} {pot : ℤ}

/-- Less than all of a pot is taken from it. -/
theorem Due.prize_pos (hdue : Due deps g m s₀) (hpot : 0 < pot) : 0 < m.prize pot := by
  have hfee : (pot * m.game.rakeBps).tdiv 10000 < pot := by
    rw [Int.tdiv_eq_ediv_of_nonneg (by positivity)]
    refine Int.ediv_lt_of_lt_mul (by decide) ?_
    exact mul_lt_mul_of_pos_left (by exact_mod_cast hdue.rakeBps) hpot
  show 0 < pot - (pot * m.game.rakeBps).tdiv 10000
  omega

/-- Somebody played. -/
theorem Due.played (hdue : Due deps g m s₀) : m.standings ≠ [] := by
  rw [WonMatch.standings, ← List.length_pos_iff, List.length_insertionSort, List.length_pos_iff]
  exact (verifyResult_ok.mp hdue.valid).wellFormed.standings

/-- The winner is the only one who is paid. -/
theorem Due.payouts (hdue : Due deps g m s₀) (hpot : 0 < pot) :
    ∃ payout, (m.decided pot).payouts = [payout] ∧ payout.playerId = m.winner.playerId ∧
      payout.lamports = m.prize pot := by
  have hstandings : (adoptAndVerify s₀.chainView s₀.wallets g m.game m.report).standings =
      m.standings := verifyResult_standings hdue.valid
  obtain hnone | ⟨payout, hpayout, -⟩ := @computePayouts_eq m.standings (m.prize pot)
  · exact absurd hnone (computePayouts_ne_nil hdue.played (hdue.prize_pos hpot))
  · obtain ⟨hplayer, hlamports, -⟩ :=
      computePayouts_winner hdue.winner (by rwa [← hstandings] at hpayout)
    exact ⟨payout, hpayout, hplayer, hlamports⟩

/-- Standings are counted in the order they are in, and so are those that verify. -/
theorem Due.whole_standings (hdue : Due deps g m s₀) : ∀ standing ∈ m.standings, standing.Whole :=
  fun standing hstanding =>
    hdue.whole standing ((List.perm_insertionSort _ _).mem_iff.mp hstanding)

/-- **A settlement that is in the books** counts the match, and confirms its row. -/
theorem carries_booked {signature : Option String} {o : Outcome} (hdue : Due deps g m s₀)
    (h : Booked deps g m s₀ s) (hboard : s.leaderboard = s₀.leaderboard) :
    Resettles wild deps g m s₀
      (updateLeaderboard .throws m.standings
        (finishGame g .throws .confirmed signature (notifyPlayers (.returns o)))) s := by
  have hrest : ∀ board, Booked deps g m s₀ { s with leaderboard := board } := fun _ =>
    ⟨h.wallets, h.results, h.row, h.chain⟩
  refine carries_updateLeaderboard hdue.whole_standings (fun board => .booked (hrest board))
    fun day => carries_finish (hrest _) day ?_
  rw [hboard]

/-- What a row is written with while the game is open. -/
theorem WonMatch.Open.set {game : Game} (h : m.Open game) {status : SettlementStatus}
    (hstatus : status ≠ .confirmed) (attempts : ℕ) (error : Option String) (payout rake : ℤ) :
    m.Open { game with
      settlementStatus := status
      settlementAttempts := attempts
      settlementError := error
      payoutLamports := payout
      rakeLamports := rake } :=
  ⟨h.gamePlayers, h.nodeId, h.rakeBps, h.status, hstatus, h.pot⟩

/-- And with a pot. -/
theorem WonMatch.Open.setPot {game : Game} (h : m.Open game) (hpot : 0 ≤ pot) :
    m.Open { game with potLamports := pot } :=
  ⟨h.gamePlayers, h.nodeId, h.rakeBps, h.status, h.unconfirmed, hpot⟩

/-- The room has paid, and the prize is to be posted. -/
theorem carries_post {signature : Option String} {o : Outcome} (hdue : Due deps g m s₀)
    (hpot : 0 < pot)
    (h : Unrecorded g m s₀ (RoomSettled deps g m s₀) (some (m.prize pot))
      (fun game => game.potLamports = pot ∧ game.payoutLamports = m.prize pot ∧
        game.rakeLamports = m.rake pot) s) :
    Resettles wild deps g m s₀
      (transaction .throws
        (updateLeaderboard .throws m.standings
          (finishGame g .throws .confirmed signature (notifyPlayers (.returns o))))
        (Books.postSettlementLedger g [(m.winner.playerId, m.prize pot)] (m.rake pot)) []) s := by
  obtain ⟨game, hgame, hopen, rfl, hpayout, hrake⟩ := h.row
  obtain ⟨r, hr, hst, -⟩ := h.chain.paid
  refine carries_postSettlementLedger ((hdue.ledger _).of_eq h.accounts h.transactions)
    (.underway hgame hopen ⟨r, hr, .inr hst⟩ h.leaderboard) fun db hposted hgames => ?_
  have hbooked : Booked deps g m s₀ { s with database := db } := by
    refine ⟨h.wallets, h.results, ⟨game, ?_, hopen, hpot, hpayout, hrake, ?_, ?_⟩, h.chain⟩
    · rw [Services.game, hgames]
      exact hgame
    · rw [hpayout]
      exact h.reward
    · rw [hpayout, hrake]
      exact hposted
  exact ⟨.booked hbooked, carries_booked hdue hbooked h.leaderboard⟩

/-- **What the room paid is recorded**, counted, and confirmed. -/
theorem carries_record {signature : Option String} (hdue : Due deps g m s₀) (hpot : 0 < pot)
    (h : Unrecorded g m s₀ (RoomSettled deps g m s₀) none (·.potLamports = pot) s) :
    Resettles wild deps g m s₀
      (record g .throws (fun o => .returns (.settle g o)) (m.decided pot) signature) s := by
  obtain ⟨game, hgame, hopen, hgamePot⟩ := h.row
  obtain ⟨payout, hpayouts, hplayer, hlamports⟩ := hdue.payouts hpot
  obtain ⟨r, hr, hst, -⟩ := h.chain.paid
  have hroom : ∃ r, s.chain.rooms.get (roomIdFromUuid g) = some r ∧
      (r.status = .unlocked ∨ r.status = .settled) := ⟨r, hr, .inr hst⟩
  have hopen' := hopen.set hopen.unconfirmed game.settlementAttempts game.settlementError
    (totalPayout [payout]) (m.rake pot)
  unfold record recordRewards
  rw [hpayouts]
  refine carries_createReward (.underway hgame hopen hroom h.leaderboard) (hplayer ▸ h.reward)
    (.underway hgame hopen hroom h.leaderboard) ?_
  refine carries_updateGame (.underway hgame hopen hroom h.leaderboard) hgame
    (.underway game_setGame hopen' hroom h.leaderboard) ?_
  rw [List.map_singleton, hplayer, hlamports]
  refine carries_post hdue hpot ⟨h.wallets, h.results, Table.get_upd_same _ _ _, h.leaderboard,
    h.accounts, h.transactions, ⟨_, game_setGame, hopen', hgamePot, ?_, rfl⟩, h.chain⟩
  rw [← hlamports]
  exact List.sum_singleton

end Record

section Run
variable {wild : Prop} {deps : SettleDeps} {g : ℕ} {m : WonMatch} {s₀ s : Services} {pot : ℤ}
  {Chain Chain' : State → Prop} {reward : Option ℤ} {Row Row' : Game → Prop}

/-- What the chain does leaves the books. -/
theorem Unrecorded.land (h : Unrecorded g m s₀ Chain reward Row s) {rt : Runtime} {now : ℤ}
    {i : Instruction} (hchain : ∀ c, (s.land rt now i).chain = c → Chain' c) :
    Unrecorded g m s₀ Chain' reward Row (s.land rt now i) := by
  have hland : ∃ c, s.land rt now i = { s with chain := c } := by
    unfold Services.land
    split
    · exact ⟨_, rfl⟩
    · exact ⟨s.chain, rfl⟩
  obtain ⟨c, hc⟩ := hland
  rw [hc] at hchain ⊢
  exact ⟨h.wallets, h.results, h.reward, h.leaderboard, h.accounts, h.transactions, h.row,
    hchain c rfl⟩

/-- What follows from what is known. -/
theorem Unrecorded.imp (h : Unrecorded g m s₀ Chain reward Row s)
    (hchain : Chain s.chain → Chain' s.chain)
    (hrow : ∀ game, Row game → Row' game) : Unrecorded g m s₀ Chain' reward Row' s := by
  obtain ⟨game, hgame, hopen, hgameRow⟩ := h.row
  exact ⟨h.wallets, h.results, h.reward, h.leaderboard, h.accounts, h.transactions,
    ⟨game, hgame, hopen, hrow game hgameRow⟩, hchain h.chain⟩

/-- The row is written, and the game is still open. -/
theorem Unrecorded.set (h : Unrecorded g m s₀ Chain reward Row s) (Row' : Game → Prop)
    {game : Game} (hopen : m.Open game) (hrow : Row' game) :
    Unrecorded g m s₀ Chain reward Row' (s.setGame g game) :=
  ⟨h.wallets, h.results, h.reward, h.leaderboard, h.accounts, h.transactions,
    ⟨game, game_setGame, hopen, hrow⟩, h.chain⟩

/-- A room before its prize is unlocked. -/
theorem Unrecorded.untouched
    (h : Unrecorded g m s₀ (RoomUnpaid deps g m s₀ Startable) none Row s) :
    Progress deps g m s₀ s :=
  .untouched (h.imp id fun _ _ => trivial)

/-- A room whose prize is unlocked, or paid. -/
def RoomCommitted (deps : SettleDeps) (g : ℕ) (m : WonMatch) (s₀ : Services) (c : State) : Prop :=
  RoomUnpaid deps g m s₀ Unlocked c ∨ RoomSettled deps g m s₀ c

/-- Whatever it has paid. -/
theorem Unrecorded.underway (h : Unrecorded g m s₀ (RoomCommitted deps g m s₀) none Row s) :
    Progress deps g m s₀ s := by
  obtain ⟨game, hgame, hopen, -⟩ := h.row
  refine .underway hgame hopen ?_ h.leaderboard
  obtain ⟨⟨-, r, hr, hst⟩, -, -⟩ | ⟨⟨r, hr, hst, -⟩, -⟩ := h.chain
  · exact ⟨r, hr, .inl hst⟩
  · exact ⟨r, hr, .inr hst⟩

/-- An instruction that succeeds, or leaves the chain. -/
theorem land_cases (s : Services) (rt : Runtime) (now : ℤ) (i : Instruction) :
    (∃ t, exec rt now s.chain i = .ok t ∧ (s.land rt now i).chain = t.state) ∨
      ∃ x, exec rt now s.chain i = .error x ∧ s.land rt now i = s := by
  unfold Services.land
  cases exec rt now s.chain i with
  | ok t => exact .inl ⟨t, rfl, rfl⟩
  | error x => exact .inr ⟨x, rfl, rfl⟩

/-- A settlement that did not get through is marked, and thrown. -/
theorem carries_fail {error : String} (hwild : wild)
    (h : Unrecorded g m s₀ (RoomCommitted deps g m s₀) none (·.potLamports = pot) s) :
    Resettles wild deps g m s₀ (failSettlement g .throws error .throws) s := by
  obtain ⟨game, hgame, hopen, hrow⟩ := h.row
  have hset := h.set (·.potLamports = pot) (hopen.set
    (by decide : SettlementStatus.failed ≠ .confirmed) game.settlementAttempts (some error)
    game.payoutLamports game.rakeLamports) hrow
  exact carries_updateGame h.underway hgame hset.underway ⟨hwild, hset.underway⟩

/-- `settle_to_winner` pays the room, or finds that it has paid. -/
theorem Unrecorded.settle (h : Unrecorded g m s₀ (RoomCommitted deps g m s₀) reward Row s)
    (now : ℤ) :
    Unrecorded g m s₀ (RoomSettled deps g m s₀) reward Row
      (s.land deps.runtime now (Call.settleToWinner m.authority deps.feeDestination m.wallet
        (roomIdFromUuid g))) := by
  refine h.land fun c hc => ?_
  obtain hunpaid | hpaid := h.chain
  · obtain ⟨t, ht⟩ := hunpaid.room.settles now
    obtain ⟨t', ht', hland⟩ | ⟨x, hx, -⟩ := land_cases s deps.runtime now
      (Call.settleToWinner m.authority deps.feeDestination m.wallet (roomIdFromUuid g))
    · obtain ⟨hpaid, -, hentries⟩ := hunpaid.room.settle ht'
      rw [← hc, hland]
      exact ⟨hunpaid.lamports ▸ hpaid, hunpaid.entries ▸ hentries⟩
    · cases ht.symm.trans hx
  · obtain ⟨t', ht', -⟩ | ⟨-, -, hland⟩ := land_cases s deps.runtime now
      (Call.settleToWinner m.authority deps.feeDestination m.wallet (roomIdFromUuid g))
    · exact absurd ht' hpaid.paid.not_settle
    · rw [← hc, hland]
      exact hpaid

/-- **The winner is paid**, and what was paid is recorded. -/
theorem carries_payWinner (hdue : Due deps g m s₀) (hpot : 0 < pot)
    (h : Unrecorded g m s₀ (RoomUnpaid deps g m s₀ Unlocked) none (·.potLamports = pot) s) :
    Resettles wild deps g m s₀
      (payWinner deps g .throws (fun o => .returns (.settle g o)) m.authority
        (m.decided pot)) s := by
  have hcommitted : Unrecorded g m s₀ (RoomCommitted deps g m s₀) none (·.potLamports = pot) s :=
    h.imp .inl fun _ => id
  refine carries_read hcommitted.underway ?_
  dsimp only
  rw [show (m.decided pot).winnerId = m.winner.playerId from rfl, h.wallets, hdue.wallet]
  refine carries_send
    (Q := Unrecorded g m s₀ (RoomCommitted deps g m s₀) none (·.potLamports = pot))
    (fun s hs => hs.underway) (fun s now hs => (hs.settle now).imp .inr fun _ => id)
    (fun hwild s hs => ?_) hcommitted (fun e => by cases e) fun s' now signature hs' hs => ?_
  · dsimp only
    rw [if_neg (by decide)]
    exact carries_fail hwild hs
  · have hland := hs'.settle now
    split
    · exact carries_record hdue hpot hland
    next e hanswer =>
        split
        · exact carries_record hdue hpot hland
        · -- from an unlocked room the payment gets through
          refine carries_fail (hs.resolve_left ?_) (hland.imp .inr fun _ => id)
          rintro rfl
          obtain ⟨x, -, hexec, -⟩ := answer_error hanswer
          obtain ⟨t, ht⟩ := h.chain.room.settles now
          cases ht.symm.trans hexec

/-- A room that is started, and has not paid. -/
theorem RoomUnpaid.start {c : State} {now : ℤ} {t : Tx}
    (h : RoomUnpaid deps g m s₀ Startable c)
    (hexec : exec deps.runtime now c (Call.startRoom m.authority (roomIdFromUuid g)) = .ok t) :
    RoomUnpaid deps g m s₀ Started t.state := by
  obtain ⟨hroom, hlamports, hentries⟩ := h.room.toReady.start hexec
  exact ⟨hroom, hlamports.trans h.lamports, hentries.trans h.entries⟩

/-- And what is unlocked stays so. -/
theorem RoomUnpaid.unlock {c : State} {now : ℤ} {t : Tx}
    (h : RoomUnpaid deps g m s₀ Started c ∨ RoomUnpaid deps g m s₀ Unlocked c)
    (hexec : exec deps.runtime now c (Call.unlockPrize m.authority (roomIdFromUuid g)) = .ok t) :
    RoomUnpaid deps g m s₀ Unlocked t.state := by
  obtain ⟨hready, hlamports, hentries⟩ : Ready deps.runtime m.authority deps.feeDestination m.wallet
      (roomIdFromUuid g) c ∧ c.lamports = s₀.chain.lamports ∧
        c.roomPlayers = s₀.chain.roomPlayers := by
    obtain h | h := h <;> exact ⟨h.room.toReady, h.lamports, h.entries⟩
  obtain ⟨hroom, hlamports', hentries'⟩ := hready.unlock hexec
  exact ⟨hroom, hlamports'.trans hlamports, hentries'.trans hentries⟩

/-- What has started can be started again. -/
theorem RoomUnpaid.startable {c : State} (h : RoomUnpaid deps g m s₀ Started c) :
    RoomUnpaid deps g m s₀ Startable c := ⟨h.room.startable, h.lamports, h.entries⟩

/-- Its prize is unlocked, and then paid. -/
theorem carries_unlock {caught : Failure → Prog}
    (hcaught : ∀ e, isAlreadyDone e = false → caught e = .throws)
    (hdue : Due deps g m s₀) (hpot : 0 < pot)
    (h : Unrecorded g m s₀ (RoomUnpaid deps g m s₀ Started) none (·.potLamports = pot) s) :
    Resettles wild deps g m s₀
      (sendSigned deps.runtime (.unlockPrize g pot m.game.rakeBps)
        (Call.unlockPrize m.authority (roomIdFromUuid g))
        (fun
          | .ok _ => payWinner deps g .throws (fun o => .returns (.settle g o)) m.authority
              (m.decided pot)
          | .error e => caught e)
        maxAttempts) s := by
  have hprogress : ∀ s, Unrecorded g m s₀ (fun c => RoomUnpaid deps g m s₀ Started c ∨
      RoomUnpaid deps g m s₀ Unlocked c) none (·.potLamports = pot) s → Progress deps g m s₀ s := by
    intro s hs
    obtain h | h := hs.chain
    · exact (hs.imp (fun _ => h.startable) fun _ => id).untouched
    · exact (hs.imp (fun _ => .inl h) fun _ => id).underway
  refine carries_send (Q := Unrecorded g m s₀ (fun c => RoomUnpaid deps g m s₀ Started c ∨
      RoomUnpaid deps g m s₀ Unlocked c) none (·.potLamports = pot)) hprogress
    (fun s now hs => hs.land fun c hc => ?_) (fun hwild s hs => ?_) (h.imp .inl fun _ => id)
    (fun e => by cases e) fun s' now signature hs' hs => ?_
  · obtain ⟨t, ht, hland⟩ | ⟨-, -, hland⟩ := land_cases s deps.runtime now
      (Call.unlockPrize m.authority (roomIdFromUuid g))
    · rw [← hc, hland]
      exact .inr (.unlock hs.chain ht)
    · rw [← hc, hland]
      exact hs.chain
  · dsimp only
    rw [hcaught _ rfl]
    exact ⟨hwild, hprogress s hs⟩
  · split
    next signature hanswer =>
        obtain ⟨t, ht, hland⟩ := answer_ok hanswer
        refine carries_payWinner hdue hpot (hs'.land fun c hc => ?_)
        rw [← hc, hland]
        exact .unlock hs'.chain ht
    next e hanswer =>
        obtain ⟨x, rfl, hexec, hland⟩ := answer_error hanswer
        have hnot : isAlreadyDone (.program x) = false := by
          refine Bool.eq_false_iff.mpr fun hdone => ?_
          obtain ⟨y, rfl, hy⟩ := isAlreadyDone_settled hdone
          exact unlockPrize_not_settled hy hexec
        rw [hcaught _ hnot, hland]
        refine ⟨hs.resolve_left ?_, hprogress s' hs'⟩
        rintro rfl
        obtain ⟨t, ht⟩ := h.chain.room.unlocks now
        cases ht.symm.trans hexec

/-- **A room is started, unlocked and paid.** -/
theorem carries_settleOnChain (hdue : Due deps g m s₀) (hpot : 0 < pot)
    (h : Unrecorded g m s₀ (RoomUnpaid deps g m s₀ Startable) none (·.potLamports = pot) s) :
    Resettles wild deps g m s₀
      (settleOnChain deps g .throws (fun o => .returns (.settle g o)) m.authority
        (m.decided pot)) s := by
  unfold settleOnChain
  extract_lets caught unlock
  have hcaught : ∀ e, isAlreadyDone e = false → caught e = .throws := by
    intro e he
    dsimp only [caught]
    rw [he]
    rfl
  have hunlock : ∀ s,
      Unrecorded g m s₀ (RoomUnpaid deps g m s₀ Started) none (·.potLamports = pot) s →
        Resettles wild deps g m s₀ unlock s := fun s hs => carries_unlock hcaught hdue hpot hs
  refine carries_send
    (Q := Unrecorded g m s₀ (RoomUnpaid deps g m s₀ Startable) none (·.potLamports = pot))
    (fun s hs => hs.untouched) (fun s now hs => hs.land fun c hc => ?_) (fun hwild s hs => ?_) h
    (fun e => by cases e) fun s' now signature hs' hs => ?_
  · obtain ⟨t, ht, hland⟩ | ⟨-, -, hland⟩ := land_cases s deps.runtime now
      (Call.startRoom m.authority (roomIdFromUuid g))
    · rw [← hc, hland]
      exact (hs.chain.start ht).startable
    · rw [← hc, hland]
      exact hs.chain
  · dsimp only
    rw [if_neg (by decide), hcaught _ rfl]
    exact ⟨hwild, hs.untouched⟩
  · split
    next signature hanswer =>
        obtain ⟨t, ht, hland⟩ := answer_ok hanswer
        refine hunlock _ (hs'.land fun c hc => ?_)
        rw [← hc, hland]
        exact hs'.chain.start ht
    next e hanswer =>
        obtain ⟨x, rfl, hexec, hland⟩ := answer_error hanswer
        obtain ⟨t, ht⟩ | ⟨hnotOpen, hstarted⟩ := hs'.chain.room.starts now
        · cases ht.symm.trans hexec
        · -- a room that has started already
          obtain rfl := Except.error.inj (hnotOpen.symm.trans hexec)
          rw [if_pos (by decide), hland]
          exact hunlock _ (hs'.imp (fun h => ⟨hstarted, h.lamports, h.entries⟩) fun _ => id)

/-- A game without a pot is closed, and counted. -/
theorem carries_free {k : Prog} {signature : Option String} (hdue : Due deps g m s₀)
    (h : Unrecorded g m s₀ (RoomUnpaid deps g m s₀ Startable) none Row s)
    (hk : ∀ s, Progress deps g m s₀ s → Resettles wild deps g m s₀ k s) :
    Resettles wild deps g m s₀
      (finishGame g .throws .notRequired signature
        (updateLeaderboard .throws m.standings k)) s := by
  obtain ⟨game, hgame, hopen, -⟩ := h.row
  have hopen' : m.Open { game with
      status := .completed
      settlementStatus := .notRequired
      settlementSignature := signature <|> game.settlementSignature
      settlementError := none } :=
    ⟨hopen.gamePlayers, hopen.nodeId, hopen.rakeBps, fun e => (by cases e), fun e => (by cases e),
      hopen.pot⟩
  have hset := h.set (fun _ => True) hopen' trivial
  have hfreed : ∀ board, Progress deps g m s₀ { s.setGame g { game with
      status := .completed
      settlementStatus := .notRequired
      settlementSignature := signature <|> game.settlementSignature
      settlementError := none } with leaderboard := board } := by
    intro board
    by_cases hboard : board = s₀.leaderboard
    · exact .untouched ⟨hset.wallets, hset.results, hset.reward, hboard, hset.accounts,
        hset.transactions, hset.row, hset.chain⟩
    · exact .freed game_setGame hopen' rfl h.chain.lamports hboard
  exact carries_updateGame h.untouched hgame (hfreed _)
    (carries_updateLeaderboard hdue.whole_standings hfreed fun day => hk _ (hfreed _))

/-- Once the pot is read. -/
theorem carries_payOut (hdue : Due deps g m s₀) (hpot : 0 < pot ∨ pot = 0 ∧ wild)
    (h : Unrecorded g m s₀ (RoomUnpaid deps g m s₀ Startable) none (·.potLamports = pot) s) :
    Resettles wild deps g m s₀
      (payOut deps g .throws (fun o => .returns (.settle g o)) (m.decided pot)) s := by
  unfold payOut
  obtain hpot | ⟨hzero, hwild⟩ := hpot
  · obtain ⟨game, hgame, hopen, hrow⟩ := h.row
    obtain ⟨payout, hpayouts, hplayer, hlamports⟩ := hdue.payouts hpot
    have htotal : totalPayout [payout] = (m.decided pot).split.prizePool := by
      rw [← WonMatch.prize, ← hlamports]
      exact List.sum_singleton
    have hset := h.set (·.potLamports = pot) (hopen.set
      (by decide : SettlementStatus.pending ≠ .confirmed) (game.settlementAttempts + 1)
      game.settlementError game.payoutLamports game.rakeLamports) hrow
    have hfew : withinTransactionLimit [payout] ≠ false := by
      simp [withinTransactionLimit, maxWinnersPerTx]
    rw [hpayouts, show (m.decided pot).pot = pot from rfl,
      if_neg (not_or.mpr ⟨hpot.ne', List.cons_ne_nil _ _⟩), if_neg hfew,
      if_neg (not_not.mpr htotal), hdue.authority]
    exact carries_updateGame h.untouched hgame hset.untouched (carries_settleOnChain hdue hpot hset)
  · rw [if_pos (.inl hzero)]
    exact carries_free hdue h fun s hs => carries_notify hs ⟨hs, .inl hwild⟩

/-- **The pot is what was recorded, or what the vault holds.** -/
theorem carries_readPot {game : Game} (hdue : Due deps g m s₀)
    (h : Unrecorded g m s₀ (RoomUnpaid deps g m s₀ Startable) none (· = game) s) :
    Resettles wild deps g m s₀
      (readPot deps g .throws game fun pot =>
        payOut deps g .throws (fun o => .returns (.settle g o)) (m.decided pot)) s := by
  obtain ⟨game, hgame, hopen, rfl⟩ := h.row
  have hvault : deps.runtime.minimumBalance 0 < s.chain.lamports (.roomVault (roomIdFromUuid g)) :=
    h.chain.lamports ▸ hdue.vault
  unfold readPot
  split
  next hzero =>
      refine carries_readVault h.untouched fun balance rentFloor hbalance hfloor => ?_
      split
      next hlt =>
          have hset := h.set (·.potLamports = balance - rentFloor)
            (hopen.setPot (sub_pos.mpr hlt).le) rfl
          exact carries_updateGame h.untouched hgame hset.untouched
            (carries_payOut hdue (.inl (sub_pos.mpr hlt)) hset)
      next hle =>
          -- the balance covers the rent, if it is read
          have hwild : wild := by
            obtain rfl | ⟨hwild, -⟩ := hbalance
            · obtain rfl | ⟨hwild, -⟩ := hfloor
              · exact absurd (by exact_mod_cast hvault) hle
              · exact hwild
            · exact hwild
          exact carries_payOut hdue (.inr ⟨rfl, hwild⟩) (h.imp id fun _ e => e ▸ hzero)
  next hne =>
      exact carries_payOut hdue (.inl (hopen.pot.lt_of_ne' hne)) (h.imp id fun _ e => e ▸ rfl)

/-- The vault has not paid, so it is not found empty. -/
theorem carries_checkVault {game : Game} {k : Prog} {o : SettleOutcome → Prog}
    (hdue : Due deps g m s₀) (h : Unrecorded g m s₀ (RoomUnpaid deps g m s₀ Startable) none Row s)
    (hk : Resettles wild deps g m s₀ k s) :
    Resettles wild deps g m s₀ (checkVault deps g .throws o game k) s := by
  have hvault : deps.runtime.minimumBalance 0 < s.chain.lamports (.roomVault (roomIdFromUuid g)) :=
    h.chain.lamports ▸ hdue.vault
  unfold checkVault
  split
  · refine carries_readVault h.untouched fun balance rentFloor hbalance hfloor => ?_
    rw [if_neg]
    · exact hk
    · rintro ⟨hnonneg, hle⟩
      obtain rfl | ⟨-, rfl⟩ := hbalance
      · obtain rfl | ⟨-, rfl⟩ := hfloor <;> omega
      · omega
  · exact hk

/-- Writes beside everything. -/
theorem carries_forEach_aside {β : Type} {J R : Services → Prop} {k : Prog} (hs : J s) :
    ∀ {xs : List β}, Carries wild J R k s →
      Carries wild J R (forEach xs (fun _ => write some .throws) k) s
  | [], hk => hk
  | _ :: _, hk => carries_write hs rfl hs (carries_forEach_aside hs hk)

/-- What still verifies. -/
theorem WonMatch.Open.verifies {game : Game} (hopen : m.Open game) (hdue : Due deps g m s₀)
    (hwallets : s.wallets = s₀.wallets)
    (hentries : ∀ address,
      s₀.accountExists (.roomPlayer (.room (roomIdFromUuid g)) address) = true →
        s.accountExists (.roomPlayer (.room (roomIdFromUuid g)) address) = true) :
    (adoptAndVerify s.chainView s.wallets g game m.report).ok = true ∧
      (adoptAndVerify s.chainView s.wallets g game m.report).standings = m.standings ∧
        detectWinner (adoptAndVerify s.chainView s.wallets g game m.report) = some m.winner := by
  have hok : (adoptAndVerify s.chainView s.wallets g game m.report).ok = true := by
    rw [hwallets]
    exact adoptAndVerify_later hopen.gamePlayers hopen.nodeId hentries hdue.valid
  have hstandings := verifyResult_standings hok
  refine ⟨hok, hstandings, ?_⟩
  have hwinner := hdue.winner
  rw [detectWinner, if_pos hdue.valid] at hwinner
  rw [detectWinner, if_pos hok]
  exact (congrArg (List.find? _) (hstandings.trans (verifyResult_standings hdue.valid).symm)).trans
    hwinner

/-- **A settlement reads and verifies**, and goes on to the vault and the pot. -/
theorem carries_settleGame {game : Game} (hdue : Due deps g m s₀) (hs : Progress deps g m s₀ s)
    (hgame : s.game g = some game) (hopen : m.Open game) (hwallets : s.wallets = s₀.wallets)
    (hresults : s.results = s₀.results)
    (hentries : ∀ address,
      s₀.accountExists (.roomPlayer (.room (roomIdFromUuid g)) address) = true →
        s.accountExists (.roomPlayer (.room (roomIdFromUuid g)) address) = true)
    (hk : Resettles wild deps g m s₀
      (checkVault deps g .throws (fun o => .returns (.settle g o)) game
        (readPot deps g .throws game fun pot =>
          payOut deps g .throws (fun o => .returns (.settle g o)) (m.decided pot))) s) :
    Resettles wild deps g m s₀ (settleCall deps g) s := by
  obtain ⟨hok, hstandings, hwinner⟩ := hopen.verifies hdue hwallets hentries
  unfold settleCall settleGame
  refine carries_read hs ?_
  rw [show s.database.games.get g = some game from hgame]
  dsimp only
  rw [if_neg hopen.unconfirmed, if_neg hopen.status]
  refine carries_read hs ?_
  rw [hresults, hdue.result]
  refine carries_adopt hs ?_
  dsimp only
  rw [adoptAndVerify] at hok hstandings hwinner
  rw [if_neg (by rw [hok]; decide), hwinner, hstandings, hopen.rakeBps]
  exact carries_forEach_aside hs hk

/-- An entry that was found is found before the room pays, and after. -/
theorem RoomUnpaid.exists {Room : Runtime → Pubkey → Pubkey → Pubkey → RoomId → State → Prop}
    (h : RoomUnpaid deps g m s₀ Room s.chain) (address : Pubkey)
    (hfound : s₀.accountExists (.roomPlayer (.room (roomIdFromUuid g)) address) = true) :
    s.accountExists (.roomPlayer (.room (roomIdFromUuid g)) address) = true := by
  simp only [Services.accountExists, State.account, h.lamports, h.entries] at hfound ⊢
  exact hfound

/-- Paying takes lamports from no entry. -/
theorem RoomSettled.exists (h : RoomSettled deps g m s₀ s.chain) (address : Pubkey)
    (hfound : s₀.accountExists (.roomPlayer (.room (roomIdFromUuid g)) address) = true) :
    s.accountExists (.roomPlayer (.room (roomIdFromUuid g)) address) = true := by
  simp only [Services.accountExists, State.account, Option.isSome_map, Bool.or_eq_true,
    decide_eq_true_eq] at hfound ⊢
  obtain hentry | hlamports := hfound
  · exact .inl (Option.isSome_iff_ne_none.mpr
      (h.entries _ (Option.isSome_iff_ne_none.mp hentry)))
  · obtain ⟨r, -, -, hmoved⟩ := h.paid
    refine .inr (hlamports.trans_le (hmoved.le fun move hmove => ?_))
    obtain hmove | hmove := List.mem_append.mp hmove <;>
      · rw [mem_payment hmove]
        exact fun e => by cases e

/-- **A settlement from the start**, or again before its prize is unlocked. -/
theorem carries_untouched (hdue : Due deps g m s₀)
    (h : Unrecorded g m s₀ (RoomUnpaid deps g m s₀ Startable) none Row s) :
    Resettles wild deps g m s₀ (settleCall deps g) s := by
  obtain ⟨game, hgame, hopen, hrow⟩ := h.row
  have hread : Unrecorded g m s₀ (RoomUnpaid deps g m s₀ Startable) none (· = game) s :=
    ⟨h.wallets, h.results, h.reward, h.leaderboard, h.accounts, h.transactions,
      ⟨game, hgame, hopen, rfl⟩, h.chain⟩
  exact carries_settleGame hdue h.untouched hgame hopen h.wallets h.results h.chain.exists
    (carries_checkVault hdue hread (carries_readPot hdue hread))

/-- Where the first call begins. -/
theorem Due.untouched (hdue : Due deps g m s₀) :
    Unrecorded g m s₀ (RoomUnpaid deps g m s₀ Startable) none (fun _ => True) s₀ :=
  ⟨rfl, rfl, hdue.reward, rfl, rfl, rfl,
    ⟨m.game, hdue.row, ⟨rfl, rfl, rfl, hdue.status, hdue.unconfirmed, hdue.pot⟩, trivial⟩,
    hdue.room, rfl, rfl⟩

/-- **When the books are complete**, an empty vault confirms them. -/
theorem carries_counted {day : ℤ} (hdue : Due deps g m s₀) (h : Booked deps g m s₀ s)
    (hboard : s.leaderboard = countMatch day m.standings s₀.leaderboard)
    (hvault : s.chain.lamports (.roomVault (roomIdFromUuid g)) ≤ deps.runtime.minimumBalance 0) :
    Resettles False deps g m s₀ (settleCall deps g) s := by
  obtain ⟨game, hgame, hopen, hpot, hrow⟩ := h.row
  refine carries_settleGame hdue (.booked h) hgame hopen h.wallets h.results h.chain.exists ?_
  unfold checkVault
  rw [if_pos ⟨hpot, by rw [hdue.authority]; rfl⟩]
  refine carries_readVault (.booked h) fun balance rentFloor hbalance hfloor => ?_
  obtain rfl := hbalance.resolve_right And.left
  obtain rfl := hfloor.resolve_right And.left
  rw [if_pos ⟨Int.natCast_nonneg _, by exact_mod_cast hvault⟩]
  have hdone : SettledOnce deps g m s₀ (s.setGame g
      { game with
        status := .completed
        settlementStatus := .confirmed
        settlementSignature := none <|> game.settlementSignature
        settlementError := none }) :=
    ⟨⟨_, game_setGame, rfl, hpot, hrow⟩, h.chain.paid, day, hboard⟩
  exact carries_updateGame (.booked h) hgame (.done hdone) ⟨.done hdone, .inr hdone⟩

/-- **What is settled stays so**, and is not settled again. -/
theorem SettledOnce.again (h : SettledOnce deps g m s₀ s) :
    Resettles False deps g m s₀ (settleCall deps g) s := by
  obtain ⟨game, hgame, hstatus, -⟩ := h.row
  unfold settleCall settleGame
  refine carries_read (.done h) ?_
  rw [show s.database.games.get g = some game from hgame]
  dsimp only
  rw [if_pos hstatus]
  exact ⟨.done h, .inr h⟩

/-! ### Where a first settlement may stop -/

/-- A first settlement stopped in time: with the room not unlocked, and nothing counted; or with the
match counted, and the vault empty; or with the row confirmed. -/
inductive InTime (deps : SettleDeps) (g : ℕ) (m : WonMatch) (s₀ s : Services) : Prop
  | early (hroom : ∀ r ∈ s.chain.rooms.get (roomIdFromUuid g),
        r.status ≠ .unlocked ∧ r.status ≠ .settled)
      (hboard : s.leaderboard = s₀.leaderboard)
  | counted (hboard : ∃ day, s.leaderboard = countMatch day m.standings s₀.leaderboard)
      (hvault : s.chain.lamports (.roomVault (roomIdFromUuid g)) ≤ deps.runtime.minimumBalance 0)
  | confirmed (hrow : ∃ game ∈ s.game g, game.settlementStatus = .confirmed)

/-- A row that is not confirmed. -/
theorem WonMatch.Open.not_confirmed {game : Game} (hopen : m.Open game)
    (hgame : s.game g = some game) :
    ¬∃ game ∈ s.game g, game.settlementStatus = .confirmed := by
  rintro ⟨game', hgame', hconfirmed⟩
  obtain rfl := Option.some.inj (hgame.symm.trans hgame')
  exact hopen.unconfirmed hconfirmed

/-- A settlement that stopped in time is completed by the next. -/
theorem Progress.next (hdue : Due deps g m s₀) (h : Progress deps g m s₀ s)
    (htime : InTime deps g m s₀ s) :
    Resettles False deps g m s₀ (settleCall deps g) s := by
  cases h with
  | untouched h => exact carries_untouched hdue h
  | done h => exact h.again
  | freed hgame hopen hstatus hlamports hboard =>
      cases htime with
      | early hroom hboard' => exact absurd hboard' hboard
      | counted hboard' hvault =>
          rw [hlamports] at hvault
          exact absurd hvault hdue.vault.not_ge
      | confirmed hrow => exact absurd hrow (hopen.not_confirmed hgame)
  | underway hgame hopen hroom hboard =>
      cases htime with
      | early hroom' hboard' =>
          obtain ⟨r, hr, hst | hst⟩ := hroom
          · exact absurd hst (hroom' r hr).1
          · exact absurd hst (hroom' r hr).2
      | counted hboard' hvault =>
          obtain ⟨day, hboard'⟩ := hboard'
          exact absurd (hboard'.symm.trans hboard) (countMatch_ne hdue.whole_standings hdue.played)
      | confirmed hrow => exact absurd hrow (hopen.not_confirmed hgame)
  | booked h =>
      obtain ⟨game, hgame, hopen, -⟩ := h.row
      obtain ⟨r, hr, hst, -⟩ := h.chain.paid
      cases htime with
      | early hroom hboard => exact absurd hst (hroom r hr).2
      | counted hboard hvault =>
          obtain ⟨day, hboard⟩ := hboard
          exact carries_counted hdue h hboard hvault
      | confirmed hrow => exact absurd hrow (hopen.not_confirmed hgame)

/-- With its row not closed and the room not unlocked, nothing is counted yet. -/
theorem Progress.early (h : Progress deps g m s₀ s)
    (hrow : ∀ game ∈ s.game g, game.status ≠ .completed)
    (hroom : ∀ r ∈ s.chain.rooms.get (roomIdFromUuid g),
      r.status ≠ .unlocked ∧ r.status ≠ .settled) : InTime deps g m s₀ s := by
  cases h with
  | untouched h => exact .early hroom h.leaderboard
  | freed hgame _ hstatus => exact absurd hstatus (hrow _ hgame)
  | underway _ _ hroom' =>
      obtain ⟨r, hr, hst | hst⟩ := hroom'
      · exact absurd hst (hroom r hr).1
      · exact absurd hst (hroom r hr).2
  | booked h =>
      obtain ⟨r, hr, hst, -⟩ := h.chain.paid
      exact absurd hst (hroom r hr).2
  | done h =>
      obtain ⟨r, hr, hst, -⟩ := h.paid
      exact absurd hst (hroom r hr).2

/-- Wherever a first settlement stops. -/
theorem Due.progress (hdue : Due deps g m s₀) {rest : Prog}
    (hstops : Stops (Answers True) (settleCall deps g) s₀ rest s) : Progress deps g m s₀ s :=
  Throughout.stops (fun _ h => h.2) (fun _ h => h.1) hstops (carries_untouched hdue hdue.untouched)

end Run

section Example

/-- Two players deposit and reserve what the room asks, and game 7 takes their stakes. -/
def paidMatch : List (Act Call Answer Outside) :=
  callOnce (.createAccount .external) 6 ++ callOnce (.createAccount .rake) 6 ++
    callOnce (.createAccount (.custody 1)) 6 ++ callOnce (.createAccount (.custody 2)) 6 ++
    callOnce (.createAccount (.escrow 7)) 6 ++
    callOnce (.postEntry ⟨.deposit,
      [⟨.external, none, .debit, 1000000⟩, ⟨.custody 1, some 1, .credit, 1000000⟩], .deposit 3,
        none, some 3, none⟩ 2) 9 ++
    callOnce (.postEntry ⟨.deposit,
      [⟨.external, none, .debit, 1000000⟩, ⟨.custody 2, some 2, .credit, 1000000⟩], .deposit 4,
        none, some 4, none⟩ 3) 9 ++
    callOnce (.reserveEntryFee 1 "bronze" 1000000) 8 ++
    callOnce (.reserveEntryFee 2 "bronze" 1000000) 8 ++
    callOnce (.consumeReservations "bronze" 7 (some 2000000)) 14

/-- What its settlement is about. -/
def paidMatchWon : WonMatch :=
  ⟨.key 2, .created "node" 500, finishedReport, placed 1 1 5 2 100, .key 4⟩

def paidServices (books : Database) (chain : State) : Services := (stakedPot books chain).store

/-- What can be tried of a game that can be settled. -/
def dueTested (s : Services) : Bool :=
  decide ((adoptAndVerify s.chainView s.wallets 7 paidMatchWon.game finishedReport).ok = true) &&
  decide (detectWinner (adoptAndVerify s.chainView s.wallets 7 paidMatchWon.game finishedReport)
    = some paidMatchWon.winner) &&
  decide (resolveWallets s.wallets [1] 1 = some (.key 4)) &&
  decide (settler.runtime.minimumBalance 0 < s.chain.lamports (.roomVault (roomIdFromUuid 7))) &&
  decide (∃ c ∈ s.chain.config, c.settlementAuthority = .key 2 ∧ c.feeDestination = .key 3) &&
  decide (∃ rp ∈ s.chain.roomPlayers.get (.room (roomIdFromUuid 7), .key 4), rp.state = .locked) &&
  decide (∃ r ∈ s.chain.rooms.get (roomIdFromUuid 7), r.status = .open ∧
    r.lockedCount = r.playerCount ∧ minPlayersPerRoom ≤ r.lockedCount) &&
  decide (Postable 7 1 1 s.database)

/-- What was tried, and what needs no trial. -/
theorem due_of_tested {books : Database} {chain : State} (hchain : Reached .validator chain)
    (h : dueTested (paidServices books chain) = true) :
    Due settler 7 paidMatchWon (paidServices books chain) := by
  simp only [dueTested, Bool.and_eq_true, decide_eq_true_eq] at h
  obtain ⟨⟨⟨⟨⟨⟨⟨hvalid, hwinner⟩, hwallet⟩, hvault⟩, hconfig⟩, hentry⟩, hroom⟩, hledger⟩ := h
  exact
    { authority := rfl
      row := rfl
      unconfirmed := fun e => by cases e
      status := fun e => by cases e
      pot := le_rfl
      result := rfl
      valid := hvalid
      winner := hwinner
      whole := by decide
      wallet := hwallet
      rakeBps := by decide
      vault := hvault
      room := by
        obtain ⟨r, hr, hopen⟩ := hroom
        exact ⟨⟨hchain, hconfig, by decide, by decide, hentry⟩, r, hr, .inr hopen⟩
      ledger := fun pot => ⟨hledger.escrow, hledger.custody, fun _ => hledger.rake one_pos,
        hledger.unposted, hledger.keys⟩
      reward := rfl }

/-- The answer of `start_room`, the twelfth await, is lost. -/
def startLost : List Reply := List.replicate 11 ({} : Reply) ++ [{ arrival := .lost }]

/-- The answer of `settle_to_winner` is. -/
def paymentLost : List Reply := List.replicate 14 ({} : Reply) ++ [{ arrival := .lost }]

end Example

end SnakeArena.Worker
