import SnakeArena.Db.Prizes
import SnakeArena.Worker.Finished

/-!
# Worker — pay or refund

Any number of settlements and of cancellations of one game run, each from await to await, and each
can crash there (`potCalls`).  The others commit, write and send what they like, as long as they
neither pay nor refund the game, and leave its row CANCELLED once it is.

A settlement looks at the row once, at its first read, and then goes on to the room and the ledger.
A cancellation looks at the row and the ledger, and never at the room.  So the stakes of a game go
both ways when a cancellation commits behind the look of a settlement, or after a room that has
paid (`pay_or_refund_looked`).  In a run where the first refund is committed before either
(`Unhurried`), a later settlement finds the row CANCELLED, and ends; and a prize that was posted
meanwhile has moved the escrow on, so the refund is not committed.

* `paysOnly_settleGame`: no await of a settlement refunds.
* `relies_cancelGameAndRefund`: a cancellation pays nothing, and refunds what it cancels.
* `apart_potEvent`: the others do neither.
* `pot_keeps`: the invariant, and what each call knows of it.
* `pay_or_refund`: every run.
-/

namespace SnakeArena.Worker
open SnakeArena.Library SnakeArena.Db SnakeArena.Program SnakeArena.Books Database

/-! ### The money of a game -/

/-- The room of the game paid its winner. -/
def RoomPaid (g : ℕ) (s : State) : Prop :=
  ∃ r ∈ s.rooms.get (roomIdFromUuid g), r.status = .settled

/-- The pot went to a winner, on chain or in the ledger. -/
def PaidOut (g : ℕ) (s : Services) : Prop := RoomPaid g s.chain ∨ Posted g .payout s.database

instance (g : ℕ) (s : State) : Decidable (RoomPaid g s) := by
  unfold RoomPaid
  infer_instance

instance (g : ℕ) (s : Services) : Decidable (PaidOut g s) := by
  unfold PaidOut
  infer_instance

theorem refunded_iff {g : ℕ} {db : Database} : Refunded db g ↔ Posted g .refund db := by
  simp only [Refunded, Posted, List.any_eq_true, Bool.and_eq_true, decide_eq_true_eq]

/-- Its row says so. -/
def RowCancelled (g : ℕ) (s : Services) : Prop := ∃ game ∈ s.game g, game.status = .cancelled

/-! ### The calls -/

inductive PotCall where
  | settleGame
  | cancelGameAndRefund (reason : String)

inductive PotOp where
  /-- What a settlement awaits once it has looked at the row. -/
  | settling
  | other
deriving DecidableEq

abbrev PotProg := Async Services PotOp Reply Outcome

/-- Its awaits are all of one kind. -/
def labelled (op : PotOp) (prog : Prog) : PotProg :=
  .within id (fun _ s => s) op .throws .returns prog

/-- The first await is the look at the row. -/
def lookFirst : Prog → PotProg
  | .returns o => .returns o
  | .throws => .throws
  | .await _ act k => .await .other act fun s c => labelled .settling (k s c)

/-- What the others do. -/
inductive PotEvent where
  | exec (now : ℤ) (i : Instruction)
  /-- A transfer of lamports from a wallet. -/
  | transfer (m : Move Pubkey)
  /-- Another call commits. -/
  | commit (statements : List Statement)
  /-- The row of a game is written. -/
  | game (gameId : ℕ) (row : Game)
  /-- The tables beside the books, and the result keys. -/
  | tables (services : Services)

/-- A settlement of the room, or the end of its record. -/
def Instruction.settlesOrCloses (id : RoomId) : Instruction → Bool
  | .settleToWinner accs => decide (accs.room.key = .room id)
  | .distributeWinnings accs _ => decide (accs.room.key = .room id)
  | .closeRoom accs => decide (accs.room.key = .room id)
  | _ => false

/-- A statement that neither pays or refunds the game, nor cancels it. -/
def foreign (g : ℕ) (b : Statement) : Bool :=
  decide (cancels b ≠ some g) &&
    (posted b).all fun p =>
      decide (p.row.gameId = some g → p.row.type ≠ .payout ∧ p.row.type ≠ .refund)

def potEvent (rt : Runtime) (g : ℕ) (s : Services) : PotEvent → Option Services
  | .exec now i =>
      if Instruction.settlesOrCloses (roomIdFromUuid g) i then none else some (s.land rt now i)
  | .transfer m =>
      if m.source.CanSign ∧ m.amount ≤ s.chain.lamports m.source then
        some { s with chain := { s.chain with lamports := m.apply s.chain.lamports } }
      else none
  | .commit statements =>
      if statements.all (foreign g) then
        match runAll Database.exec statements s.database with
        | .ok database => some { s with database }
        | .error _ => none
      else none
  | .game gameId row =>
      if gameId = g ∧ (s.game g).any (·.status = .cancelled) ∧ row.status ≠ .cancelled then none
      else
        some { s with database := { s.database with games := s.database.games.upd gameId row } }
  | .tables services => some { services with database := s.database, chain := s.chain }

/-- Any number of settlements and of cancellations of one game. -/
def potCalls (deps : SettleDeps) (g : ℕ) :
    Functions Services PotOp Reply Outcome PotCall PotEvent where
  program
    | .settleGame =>
        lookFirst (settleGame deps g .throws fun outcome => .returns (.settle g outcome))
    | .cancelGameAndRefund reason =>
        labelled .other
          (transaction .throws (.returns (.stage .patch)) (Books.cancelGameAndRefund g reason) [])
  outside := potEvent deps.runtime g

abbrev PotTask := Task Services PotOp Reply Outcome PotCall

abbrev PotSystem := System Services PotTask

abbrev PotStep := Act PotTask Reply PotEvent

/-- A settlement that has looked at the row. -/
def Settling : PotTask → Prop
  | .running (.await op _ _) => op = .settling
  | .running (.returns _) | .running .throws | .call _ => False

instance (p : PotTask) : Decidable (Settling p) :=
  match p with
  | .running (.await op _ _) => inferInstanceAs (Decidable (op = .settling))
  | .running (.returns _) | .running .throws | .call _ => .isFalse id

/-- The first refund is committed while the room has not paid, and no settlement is past its look
at the row. -/
def Unhurried (g : ℕ) (s : PotSystem) : PotStep → Prop
  | .resume r c =>
      match s.procs.get r with
      | some (.running (.await _ act _)) =>
          ¬Refunded s.store.database g → Refunded (act s.store c).database g →
            ¬RoomPaid g s.store.chain ∧ ∀ r' q, s.procs.get r' = some q → ¬Settling q
      | _ => True
  | .start _ _ | .crash _ | .other _ => True

/-- Nothing is refunded yet, and nothing runs. -/
structure PotStart (g : ℕ) (s : PotSystem) : Prop where
  procs : s.procs = Table.empty
  unrefunded : ¬Refunded s.store.database g

/-! ### What stays -/

section Grows
variable {g : ℕ} {s s' s'' : Services}

/-- What no step takes back. -/
structure Grows (g : ℕ) (s s' : Services) : Prop where
  onward : Onward g s.database s'.database
  room : RoomPaid g s.chain → RoomPaid g s'.chain

theorem Grows.refl (s : Services) : Grows g s s := ⟨.refl _, id⟩

theorem Grows.trans (s s' s'' : Services) (h : Grows g s s') (h' : Grows g s' s'') :
    Grows g s s'' :=
  ⟨h.onward.trans h'.onward, fun hp => h'.room (h.room hp)⟩

/-- What is paid stays paid. -/
theorem Grows.paid (h : Grows g s s') (hp : PaidOut g s) : PaidOut g s' :=
  hp.imp h.room (h.onward.legs _)

/-- What is refunded stays refunded. -/
theorem Grows.refunded (h : Grows g s s') (hr : Refunded s.database g) :
    Refunded s'.database g :=
  refunded_iff.mpr (h.onward.legs _ (refunded_iff.mp hr))

end Grows

/-! ### What the awaits do -/

section Steps
variable {g : ℕ} {T : Services → Services → Prop} {throw k : Prog} {s : Services}

/-- A transaction does what its commits do, wherever the others have gone by then. -/
theorem relies_transaction {P : Database → Commit → Prop} (hrefl : ∀ s, T s s)
    (hgrows : ∀ s s', T s s' → Grows g s s')
    (hP : ∀ db db' t, Onward g db db' → P db t → P db' t)
    (hthrow : ∀ s, Relies (Grows g) T throw s) (hk : ∀ s, Relies (Grows g) T k s)
    (hcommit : ∀ (s : Services) t database, P s.database t →
      runAll Database.exec t.statements s.database = .ok database → T s { s with database })
    {t : Books.Prog} : ∀ {pending : List Statement} {s : Services},
      Walk (fun _ => True) (fun _ _ => True) t pending s.database →
      Calls.Rests calls (Onward g) P t pending s.database →
        Relies (Grows g) T (transaction throw k t pending) s := by
  have honwards : ∀ db₁ db₂ db₃, Onward g db₁ db₂ → Onward g db₂ db₃ → Onward g db₁ db₃ :=
    fun _ _ _ => .trans
  have hlaters : ∀ db₁ db₂ db₃, Database.Later db₁ db₂ → Database.Later db₂ db₃ →
      Database.Later db₁ db₃ := fun _ _ _ => .trans
  induction t with
  | done => exact fun _ _ => hk _
  | read f ih =>
      intro pending s hwalk hrests
      rw [transaction]
      intro s' hg c
      refine ⟨hrefl s', ?_⟩
      dsimp only
      split
      next view _ hview =>
          exact ih _ (hwalk _ hg.onward.accounts trivial view hview)
            (hrests _ hg.onward view hview)
      · exact hthrow s'
  | execute b f ih =>
      intro pending s hwalk hrests
      rw [transaction]
      intro s' hg c
      refine ⟨hrefl s', ?_⟩
      dsimp only
      split
      · exact ih none (hwalk.2.1.later hlaters hg.onward.accounts)
          (hrests.1.later honwards hP hg.onward)
      · exact hthrow s'
  | commit t next ih =>
      intro pending s hwalk hrests
      obtain ⟨⟨rfl, -⟩, hwalk⟩ := hwalk
      rw [transaction]
      intro s' hg c
      have hland : ∀ database, runAll Database.exec t.statements s'.database = .ok database →
          T s' { s' with database } :=
        fun database hrun => hcommit s' t database (hP _ _ t hg.onward hrests.1) hrun
      refine ⟨?_, ?_⟩
      · dsimp only
        split
        next hrun => exact hland _ hrun
        next hrun => exact hland _ hrun
        · exact hrefl s'
      · dsimp only
        split
        next hanswered hrun =>
            have hg' := hg.onward.trans (hgrows _ _ (hland _ hrun)).onward
            rw [hanswered, hrun]
            exact ih (hwalk.later hlaters hg'.accounts)
              (hrests.2.later honwards hP hg')
        · exact hthrow _
  | ask f ih =>
      intro pending s hwalk hrests
      rw [transaction]
      intro s' hg c
      exact ⟨hrefl s', ih _ ((hwalk _).later hlaters hg.onward.accounts)
        ((hrests _).later honwards hP hg.onward)⟩

/-! ### Rooms -/

section Rooms
variable {rt : Runtime} {now : ℤ} {c : State} {i : Instruction} {t : Tx}

/-- A room that paid has paid until its record ends. -/
theorem RoomPaid.exec (h : RoomPaid g c) (hexec : Program.exec rt now c i = .ok t)
    (hi : ¬i.Closes (roomIdFromUuid g)) : RoomPaid g t.state := by
  obtain ⟨r, hr, hst⟩ := h
  obtain ⟨r', hr', hchange⟩ := (exec_effect hexec).room_change hr hi
  refine ⟨r', hr', ?_⟩
  generalize t.state.roomPlayers = rps at hchange
  cases hchange with
  | other | closeRoomPlayer => exact hst
  | joinRoom _ hst' | lockEntryFee _ hst' | enterRoom _ hst' | startRoom _ hst'
  | unlockPrize _ hst' | claimRefund _ hst' => cases hst.symm.trans hst'
  | cancelRoom _ hns => exact absurd hst hns
  | distributeWinnings | settleToWinner => rfl

/-- Only a settlement of the room pays. -/
theorem roomPaid_of_exec (h : RoomPaid g t.state) (hexec : Program.exec rt now c i = .ok t)
    (hi : Instruction.settlesOrCloses (roomIdFromUuid g) i = false) : RoomPaid g c := by
  obtain ⟨r', hr', hst⟩ := h
  have heffect := exec_effect hexec
  have hcloses : ¬i.Closes (roomIdFromUuid g) := by
    intro h
    cases i with
    | closeRoom accs => exact of_decide_eq_false hi h
    | _ => exact h
  cases hr : c.rooms.get (roomIdFromUuid g) with
  | none =>
      obtain ⟨-, -, hopen, -⟩ := heffect.room_created hr hr'
      cases hopen.symm.trans hst
  | some r =>
      refine ⟨r, hr, ?_⟩
      obtain ⟨r₁, hr₁, hchange⟩ := heffect.room_change hr hcloses
      obtain rfl := Option.some.inj (hr₁.symm.trans hr')
      generalize t.state.roomPlayers = rps at hchange
      cases hchange with
      | other | joinRoom | lockEntryFee | enterRoom | claimRefund | closeRoomPlayer => exact hst
      | startRoom | unlockPrize | cancelRoom => cases hst
      | distributeWinnings hkey | settleToWinner hkey => exact absurd hkey (of_decide_eq_false hi)

end Rooms

/-! ### A settlement -/

/-- It refunds nothing. -/
structure PayStep (g : ℕ) (s s' : Services) : Prop where
  grows : Grows g s s'
  refunded : Refunded s'.database g → Refunded s.database g

/-- Whatever the others do, it refunds nothing. -/
def PaysOnly (g : ℕ) (prog : Prog) : Prop := ∀ s, Relies (Grows g) (PayStep g) prog s

theorem PayStep.refl (s : Services) : PayStep g s s := ⟨.refl s, id⟩

variable {s' : Services}

/-- A write of no account and no leg. -/
theorem PayStep.aside (hchain : s'.chain = s.chain)
    (haccounts : s'.database.poolAccounts = s.database.poolAccounts)
    (hlegs : s'.database.transactions = s.database.transactions) : PayStep g s s' := by
  have hposted : ∀ type, Posted g type s'.database ↔ Posted g type s.database := fun type => by
    rw [Posted, Posted, hlegs]
  refine ⟨⟨⟨.of_eq haccounts, fun type => (hposted type).mpr, fun _ _ _ _ _ => (hposted _).mp⟩, ?_⟩,
    fun h => refunded_iff.mpr ((hposted _).mp (refunded_iff.mp h))⟩
  rw [hchain]
  exact id

/-- An instruction that lands, and closes no room. -/
theorem PayStep.land {rt : Runtime} {now : ℤ} {i : Instruction} (hi : ∀ id, ¬i.Closes id) :
    PayStep g s (s.land rt now i) := by
  unfold Services.land
  split
  next t ht => exact ⟨⟨.refl _, fun h => h.exec ht (hi _)⟩, id⟩
  · exact .refl s

/-- An account is opened for the game, if it has none. -/
theorem PayStep.upsertEscrow : PayStep g s (s.upsertEscrow g) := by
  unfold Services.upsertEscrow
  split
  · exact .refl s
  next hnone =>
      refine ⟨⟨⟨.upd fun a ha => ?_, fun _ h => h, fun a _ ha => ?_⟩, id⟩, id⟩
      · cases hnone.symm.trans ha
      · cases hnone.symm.trans ha

/-- The ledger of a settlement. -/
theorem PayStep.commit {t : Commit} {database : Database} (ht : SettlesFor g s.database t)
    (h : runAll Database.exec t.statements s.database = .ok database) :
    PayStep g s { s with database } := by
  cases t with
  | settle gameId payments rake escrow =>
      obtain rfl : gameId = g := ht
      refine ⟨⟨onward_commit h (.inr ⟨_, _, List.mem_append_right _ List.mem_cons_self⟩), id⟩,
        fun hr => ?_⟩
      obtain hr | ⟨b, hb, p, hp, -, htype⟩ := (posted_commit h).mp (refunded_iff.mp hr)
      · exact refunded_iff.mpr hr
      · exact absurd htype (settleStatements_posted b hb p hp)
  | _ => exact ht.elim

theorem paysOnly_write {f : Services → Option Services} (hf : ∀ s v, f s = some v → PayStep g s v)
    (hthrow : PaysOnly g throw) (hk : PaysOnly g k) : PaysOnly g (write f throw k) := by
  intro _ s _ c
  refine ⟨?_, ?_⟩
  · dsimp only
    split
    · exact .refl s
    · cases hv : f s with
      | none => exact .refl s
      | some v => exact hf s v hv
  · dsimp only
    split
    · exact hk _
    · exact hthrow _

theorem paysOnly_send {rt : Runtime} {op : Op} {i : Instruction} {k : Except Failure String → Prog}
    (hi : ∀ id, ¬i.Closes id) (hk : ∀ r, PaysOnly g (k r)) : ∀ {attempts : ℕ},
      PaysOnly g (sendSigned rt op i k attempts)
  | 0 => hk _
  | attempts + 1 => by
      intro _ s _ c
      have hnext : PaysOnly g (if c.arrival = .answered then
          k ((s.answer rt c.now i).map fun _ => c.signature)
        else if c.retry = true then sendSigned rt op i k attempts else k (.error .rpc)) := by
        split_ifs
        · exact hk _
        · exact paysOnly_send hi hk
        · exact hk _
      refine ⟨?_, hnext _⟩
      dsimp only
      split
      · exact .refl s
      · exact .land hi

theorem paysOnly_look {op : Op} {k : Services → Reply → Prog} (hk : ∀ s c, PaysOnly g (k s c)) :
    PaysOnly g (.await op (fun s _ => s) k) := fun _ s _ c => ⟨.refl s, hk s c s⟩

theorem paysOnly_updateGame {data : Game → Game} (hthrow : PaysOnly g throw) (hk : PaysOnly g k) :
    PaysOnly g (updateGame g data throw k) := by
  refine paysOnly_write (fun s v hv => ?_) hthrow hk
  obtain ⟨game, -, rfl⟩ := Option.map_eq_some_iff.mp hv
  exact .aside rfl rfl rfl

/-- **No await of a settlement refunds.** -/
theorem paysOnly_settles {rt : Runtime} : Settles rt g (PaysOnly g) (PaysOnly g) where
  look := paysOnly_look
  update _ := paysOnly_updateGame
  finish _ _ := paysOnly_updateGame
  standing := paysOnly_write fun s v hv => Option.some.inj hv ▸ .refl s
  reward := paysOnly_write fun s v hv => by
    split at hv <;> obtain rfl := Option.some.inj hv <;> exact .aside rfl rfl rfl
  escrow := paysOnly_write fun s v hv => Option.some.inj hv ▸ .upsertEscrow
  send hi hk := paysOnly_send hi hk
  ledger hthrow hk := fun s =>
    relies_transaction (P := SettlesFor g) .refl (fun _ _ h => h.grows) (fun _ _ t _ h => h)
      hthrow hk (fun _ _ _ => .commit) (walk_postSettlementLedger g _ _) rests_postSettlementLedger

theorem paysOnly_updateLeaderboard {standings : List ReportedStanding} (hthrow : PaysOnly g throw)
    (hk : PaysOnly g k) : PaysOnly g (updateLeaderboard throw standings k) := by
  refine walk_updateLeaderboard paysOnly_look (fun hf => paysOnly_write fun s v hv => ?_) hthrow hk
  obtain ⟨-, -, -, -, rfl⟩ := hf s v hv
  exact .aside rfl rfl rfl

theorem paysOnly_settleGame {deps : SettleDeps} : PaysOnly g
    (settleGame deps g .throws fun outcome => .returns (.settle g outcome)) := by
  have hdone : PaysOnly g .throws := fun _ => trivial
  have hret : ∀ o, PaysOnly g (.returns (.settle g o)) := fun _ _ => trivial
  have hsettles : Settles deps.runtime g (PaysOnly g) (PaysOnly g) := paysOnly_settles
  have hlast : ∀ o, PaysOnly g (notifyPlayers (.returns (.settle g o))) :=
    fun o => hsettles.notify (hret o)
  exact hsettles.settleGame (fun _ _ hk => paysOnly_updateLeaderboard hdone hk) hdone
    hret hdone hret hlast fun _ o => paysOnly_updateLeaderboard hdone (hlast o)

/-! ### A cancellation -/

/-- It pays nothing, and what it refunds is of a game that it cancels, and that posted no prize. -/
structure CancelStep (g : ℕ) (s s' : Services) : Prop where
  grows : Grows g s s'
  chain : s'.chain = s.chain
  prize : Posted g .payout s'.database → Posted g .payout s.database
  row : RowCancelled g s → RowCancelled g s'
  refunded : Refunded s'.database g →
    Refunded s.database g ∨ RowCancelled g s' ∧ ¬Posted g .payout s.database

theorem CancelStep.refl (s : Services) : CancelStep g s s := ⟨.refl s, rfl, id, id, .inl⟩

/-- The row of a game after the commit that cancels it. -/
theorem rowCancelled_commit {before : List Statement} {reason : String} {database : Database}
    (h : runAll Database.exec (before ++ [.cancelGame g reason]) s.database = .ok database) :
    RowCancelled g { s with database } := by
  obtain ⟨u, -, hlast⟩ := runAll_append.mp h
  have hexec := runAll_one.mp hlast
  cases hgame : u.games.get g with
  | none =>
      simp only [Database.exec, hgame] at hexec
      cases hexec
  | some game =>
      obtain ⟨game', hgame', hcolumns⟩ := exec_cancelled hexec rfl hgame
      exact ⟨game', hgame', congrArg Prod.fst hcolumns⟩

/-- **A cancellation refunds nothing of a game that posted a prize**: the update of the escrow finds
the version at which there was none. -/
theorem CancelStep.commit {t : Commit} {database : Database} (ht : CancelsFor g s.database t)
    (h : runAll Database.exec t.statements s.database = .ok database) :
    CancelStep g s { s with database } := by
  have hprize : ∀ b ∈ t.statements, ∀ p ∈ posted b, p.row.gameId = some g →
      p.row.type ≠ .payout := by
    intro b hb p hp _ htype
    cases (ht.posted b hb p hp).1.symm.trans htype
  obtain ⟨before, reason, hstatements⟩ := ht.statements
  have hrow : RowCancelled g { s with database } := by
    rw [hstatements] at h
    exact rowCancelled_commit h
  refine ⟨⟨onward_commit h (.inl hprize), id⟩, rfl, fun hp => ?_, fun _ => hrow, fun hr => ?_⟩
  · obtain hp | ⟨b, hb, p, hp, hgame, htype⟩ := (posted_commit h).mp hp
    · exact hp
    · exact absurd htype (hprize b hb p hp hgame)
  · obtain hr | ⟨b, hb, p, hp, -⟩ := (posted_commit h).mp (refunded_iff.mp hr)
    · exact .inl (refunded_iff.mpr hr)
    · obtain ⟨-, escrow, data, ⟨hseen, hnone⟩, hupdate⟩ := ht.posted b hb p hp
      obtain ⟨a, ha, -, hle, -⟩ := hseen
      obtain ⟨a', ha', -⟩ := runAll_later h _ a ha
      have hversion := (runAll_updates h hupdate ha ha').1
      exact .inr ⟨hrow, hnone a ha (le_antisymm hversion hle)⟩

/-- The whole call. -/
theorem relies_cancelGameAndRefund {reason : String} : Relies (Grows g) (CancelStep g)
    (transaction .throws (.returns (.stage .patch)) (Books.cancelGameAndRefund g reason) []) s :=
  relies_transaction (P := CancelsFor g) .refl (fun _ _ h => h.grows)
    (fun _ _ _ hl h => h.onward hl) (by exact fun _ => trivial) (by exact fun _ => trivial)
    (fun _ _ _ => .commit) (walk_cancelGameAndRefund g reason) rests_cancelGameAndRefund

end Steps

/-! ### Runs -/

/-- A game that is refunded is cancelled, and has not paid. -/
def Either (g : ℕ) (s : Services) : Prop :=
  Refunded s.database g → RowCancelled g s ∧ ¬PaidOut g s

/-- What a call knows of the game. -/
inductive Knows (g : ℕ) (s : Services) : PotTask → Prop
  | call (request : PotCall) : Knows g s (.call request)
  /-- A settlement is about to look at the row, and ends there when the game is cancelled. -/
  | looks {act : Services → Reply → Services} {k : Services → Reply → PotProg}
      (hact : ∀ s c, act s c = s)
      (hrest : ∀ s c, ∃ rest, k s c = labelled .settling rest ∧
        Relies (Grows g) (PayStep g) rest s ∧ (RowCancelled g s → ¬Settling (.running (k s c)))) :
      Knows g s (.running (.await .other act k))
  | settles {rest : Prog} (h : Relies (Grows g) (PayStep g) rest s)
      (hopen : Settling (.running (labelled .settling rest)) → ¬Refunded s.database g) :
      Knows g s (.running (labelled .settling rest))
  | cancels {rest : Prog} (h : Relies (Grows g) (CancelStep g) rest s) :
      Knows g s (.running (labelled .other rest))

section Runs
variable {deps : SettleDeps} {g : ℕ} {s s' : Services} {p : PotTask}

/-- What is known lasts, and a settlement that is past its look knows of no refund. -/
theorem Knows.later (h : Knows g s p) (hgrows : Grows g s s')
    (hrefunded : Settling p → Refunded s'.database g → Refunded s.database g) : Knows g s' p := by
  cases h with
  | call request => exact .call request
  | looks hact hrest => exact .looks hact hrest
  | settles h hopen =>
      exact .settles (h.later Grows.trans hgrows) fun hp hr => hopen hp (hrefunded hp hr)
  | cancels h => exact .cancels (h.later Grows.trans hgrows)

/-- A call that begins knows this. -/
theorem knows_program (request : PotCall) :
    Knows g s (.running ((potCalls deps g).program request)) := by
  cases request with
  | cancelGameAndRefund reason => exact .cancels relies_cancelGameAndRefund
  | settleGame =>
      refine .looks (fun _ _ => rfl) fun s c =>
        ⟨_, rfl, (paysOnly_settleGame s s (.refl s) c).2, fun ⟨game, hgame, hstatus⟩ => ?_⟩
      dsimp only
      rw [show s.database.games.get g = some game from hgame]
      dsimp only
      rw [if_pos hstatus]
      split_ifs <;> exact id

/-- What was refunded before stays the only way that the money went. -/
theorem CancelStep.either (h : CancelStep g s s') (heither : Either g s)
    (hr : Refunded s.database g) : RowCancelled g s' ∧ ¬PaidOut g s' := by
  obtain ⟨hrow, hpaid⟩ := heither hr
  refine ⟨h.row hrow, fun hp => hpaid (hp.imp (fun hroom => ?_) h.prize)⟩
  rwa [h.chain] at hroom

/-- The first refund, of a room that has not paid. -/
theorem CancelStep.either_of_refund (h : CancelStep g s s') (hbefore : ¬Refunded s.database g)
    (hroom : ¬RoomPaid g s.chain) (hr : Refunded s'.database g) :
    RowCancelled g s' ∧ ¬PaidOut g s' := by
  obtain ⟨hrow, hprize⟩ := (h.refunded hr).resolve_left hbefore
  refine ⟨hrow, fun hp => hp.elim (fun hpaid => hroom ?_) fun hp => hprize (h.prize hp)⟩
  rwa [h.chain] at hpaid

/-- A step of the others: no payment of the game, no refund, and a cancelled row stays so. -/
structure Elsewise (g : ℕ) (s s' : Services) : Prop where
  grows : Grows g s s'
  refunded : Refunded s'.database g → Refunded s.database g
  paid : PaidOut g s' → PaidOut g s
  row : RowCancelled g s → RowCancelled g s'

/-- A write beside the books and the chain. -/
theorem Elsewise.aside (hchain : s'.chain = s.chain)
    (haccounts : s'.database.poolAccounts = s.database.poolAccounts)
    (hlegs : s'.database.transactions = s.database.transactions)
    (hrow : RowCancelled g s → RowCancelled g s') : Elsewise g s s' := by
  have hstep := PayStep.aside (g := g) hchain haccounts hlegs
  refine ⟨hstep.grows, hstep.refunded, fun hp => ?_, hrow⟩
  rwa [PaidOut, Posted, hchain, hlegs] at hp

/-- The commit of another call. -/
theorem Elsewise.commit {bs : List Statement} {database : Database}
    (hbs : bs.all (foreign g) = true) (h : runAll Database.exec bs s.database = .ok database) :
    Elsewise g s { s with database } := by
  have hforeign : ∀ b ∈ bs, cancels b ≠ some g ∧ ∀ p ∈ posted b, p.row.gameId = some g →
      p.row.type ≠ .payout ∧ p.row.type ≠ .refund := by
    intro b hb
    obtain ⟨hcancels, hlegs⟩ := Bool.and_eq_true_iff.mp (List.all_eq_true.mp hbs b hb)
    exact ⟨of_decide_eq_true hcancels,
      fun p hp => of_decide_eq_true (List.all_eq_true.mp hlegs p hp)⟩
  have hposted : ∀ type, type = .payout ∨ type = .refund → Posted g type database →
      Posted g type s.database := by
    intro type htype hp
    obtain hp | ⟨b, hb, p, hleg, hgame, rfl⟩ := (posted_commit h).mp hp
    · exact hp
    · obtain ⟨hpayout, hrefund⟩ := (hforeign b hb).2 p hleg hgame
      exact absurd htype (not_or.mpr ⟨hpayout, hrefund⟩)
  refine ⟨⟨onward_commit h (.inl fun b hb p hp hgame => ((hforeign b hb).2 p hp hgame).1), id⟩,
    fun hr => refunded_iff.mpr (hposted _ (.inr rfl) (refunded_iff.mp hr)),
    .imp id (hposted _ (.inl rfl)), ?_⟩
  rintro ⟨game, hgame, hstatus⟩
  exact ⟨game, (runAll_games h fun b hb => (hforeign b hb).1).trans hgame, hstatus⟩

/-- **The others take no part.** -/
theorem apart_potEvent {rt : Runtime} {e : PotEvent} (h : potEvent rt g s e = some s') :
    Elsewise g s s' := by
  cases e with
  | exec now i =>
      simp only [potEvent, Option.ite_none_left_eq_some] at h
      obtain ⟨hi, h⟩ := h
      obtain rfl := Option.some.inj h
      replace hi := Bool.eq_false_iff.mpr hi
      unfold Services.land
      split
      next t ht =>
          refine ⟨⟨.refl _, fun hp => hp.exec ht fun hcloses => ?_⟩, id, .imp_left fun hp =>
            roomPaid_of_exec hp ht hi, id⟩
          cases i with
          | closeRoom accs => exact of_decide_eq_false hi hcloses
          | _ => exact hcloses
      · exact .aside rfl rfl rfl id
  | transfer m =>
      simp only [potEvent, Option.ite_none_right_eq_some] at h
      obtain rfl := Option.some.inj h.2
      exact ⟨⟨.refl _, id⟩, id, id, id⟩
  | commit statements =>
      simp only [potEvent, Option.ite_none_right_eq_some] at h
      obtain ⟨hforeign, h⟩ := h
      split at h
      next hrun =>
          obtain rfl := Option.some.inj h
          exact .commit hforeign hrun
      · cases h
  | game gameId row =>
      simp only [potEvent, Option.ite_none_left_eq_some] at h
      obtain ⟨hkept, h⟩ := h
      obtain rfl := Option.some.inj h
      refine .aside rfl rfl rfl ?_
      rintro ⟨game, hgame, hstatus⟩
      by_cases e : g = gameId
      · subst e
        refine ⟨row, Table.get_upd_same _ _ _, by_contra fun hrow => hkept ⟨rfl, ?_, hrow⟩⟩
        exact (Option.any_eq_true _ _).mpr ⟨game, hgame, decide_eq_true hstatus⟩
      · exact ⟨game, (Table.get_upd_other e).trans hgame, hstatus⟩
  | tables services =>
      obtain rfl := Option.some.inj h
      exact .aside rfl rfl rfl id

/-- **The invariant**, from a state on: the game is paid, or refunded, or neither. -/
theorem pot_keeps (s₀ : Services) : (potCalls deps g).processes.Keeps (Unhurried g)
    (fun s => Either g s ∧ Grows g s₀ s) (fun s _ p => Knows g s p) fun _ _ => True where
  symm _ _ _ := trivial
  start s r p _ _ hstarts := by
    cases p with
    | call request => exact ⟨.call request, fun _ => trivial⟩
    | running => cases hstarts
  resume := by
    rintro ⟨s, procs⟩ r p c ⟨⟨heither, hgrown⟩, hP, -⟩ hp hH
    have hknows := hP r p hp
    cases hknows with
    | call request =>
        refine ⟨⟨heither, hgrown⟩, fun p' hp' => ?_, fun r' _ q hq => hP r' q hq⟩
        obtain rfl := Option.some.inj hp'
        exact ⟨knows_program request, fun _ _ _ _ => trivial⟩
    | @looks act k hact hrest =>
        -- the row of a refunded game is CANCELLED, so a settlement that reads it now ends here
        obtain ⟨rest, hk, hrest, hlook⟩ := hrest s c
        have hs : act s c = s := hact s c
        show (Either g (act s c) ∧ Grows g s₀ (act s c)) ∧
          (∀ p', some (Task.running (k s c)) = some p' → Knows g (act s c) p' ∧ _) ∧
            ∀ r' ≠ r, ∀ q, procs.get r' = some q → Knows g (act s c) q
        rw [hs]
        refine ⟨⟨heither, hgrown⟩, fun p' hp' => ?_, fun r' _ q hq => hP r' q hq⟩
        obtain rfl := Option.some.inj hp'
        rw [hk] at hlook ⊢
        exact ⟨.settles hrest fun hopen hr => hlook (heither hr).1 hopen, fun _ _ _ _ => trivial⟩
    | @settles rest h hopen =>
        cases rest with
        | returns | throws =>
            exact ⟨⟨heither, hgrown⟩, nofun, fun r' _ q hq => hP r' q hq⟩
        | await op act k =>
            -- past its look it knew of no refund, and no await of it refunds
            obtain ⟨⟨hgrows, hrefunded⟩, hrest⟩ := h s (.refl s) c
            have hnot : ¬Refunded (act s c).database g := fun hr => hopen rfl (hrefunded hr)
            refine ⟨⟨fun hr => absurd hr hnot, hgrown.trans _ _ _ hgrows⟩, fun p' hp' => ?_,
              fun r' _ q hq => (hP r' q hq).later hgrows fun _ hr => absurd hr hnot⟩
            obtain rfl := Option.some.inj hp'
            exact ⟨.settles hrest fun _ => hnot, fun _ _ _ _ => trivial⟩
    | @cancels rest h =>
        cases rest with
        | returns | throws =>
            exact ⟨⟨heither, hgrown⟩, nofun, fun r' _ q hq => hP r' q hq⟩
        | await op act k =>
            obtain ⟨hstep, hrest⟩ := h s (.refl s) c
            simp only [Unhurried, show procs.get r = _ from hp] at hH
            refine ⟨⟨fun hr => ?_, hgrown.trans _ _ _ hstep.grows⟩, fun p' hp' => ?_,
              fun r' _ q hq => (hP r' q hq).later hstep.grows fun hsettling hr => ?_⟩
            · -- only the first refund needs the guard; the room and the prizes stay as they are
              by_cases hbefore : Refunded s.database g
              · exact hstep.either heither hbefore
              · exact hstep.either_of_refund hbefore (hH hbefore hr).1 hr
            · obtain rfl := Option.some.inj hp'
              exact ⟨.cancels hrest, fun _ _ _ _ => trivial⟩
            · by_contra hnot
              exact (hH hnot hr).2 r' q hq hsettling
  other s e v hs _ he := by
    obtain ⟨⟨heither, hgrown⟩, hP, -⟩ := hs
    have h := apart_potEvent he
    refine ⟨⟨fun hr => ?_, hgrown.trans _ _ _ h.grows⟩, fun r q hq =>
      (hP r q hq).later h.grows fun _ => h.refunded⟩
    obtain ⟨hrow, hpaid⟩ := heither (h.refunded hr)
    exact ⟨h.row hrow, fun hp => hpaid (h.paid hp)⟩

/-- `Unhurried`, as it can be tried where there are `n` processes. -/
def unhurriedBelow (n g : ℕ) (s : PotSystem) (a : PotStep) : Bool :=
  a.proc.all (· < n) &&
    match a with
    | .resume r c =>
        match s.procs.get r with
        | some (.running (.await _ act _)) =>
            decide (Refunded s.store.database g) || !decide (Refunded (act s.store c).database g) ||
              (!decide (RoomPaid g s.store.chain) &&
                (List.range n).all fun r' => (s.procs.get r').all fun q => !decide (Settling q))
        | _ => true
    | .start _ _ | .crash _ | .other _ => true

/-- The guard of a run is decided over the calls that were begun. -/
theorem unhurried_of_below {n : ℕ} {s : PotSystem} {a : PotStep} (hs : s.Below n)
    (h : unhurriedBelow n g s a = true) : Unhurried g s a := by
  cases a with
  | resume r c =>
      simp only [unhurriedBelow, Unhurried] at h ⊢
      replace h := (Bool.and_eq_true_iff.mp h).2
      split at h
      next op act k hp =>
          intro hbefore hafter
          simp only [hbefore, hafter, decide_true, decide_false, Bool.not_true, Bool.or_self,
            Bool.false_or, Bool.and_eq_true, Bool.not_eq_true', decide_eq_false_iff_not] at h
          refine ⟨h.1, fun r' q hq => ?_⟩
          have hr := List.all_eq_true.mp h.2 r' (List.mem_range.mpr (hs.lt hq))
          rw [hq, Option.all_some] at hr
          exact of_decide_eq_false (Bool.not_eq_true' _ ▸ hr)
      · trivial
  | start | crash | other => trivial

/-- A run that was tried is unhurried. -/
theorem run_unhurried {n : ℕ} {s s' : PotSystem} {as : List PotStep}
    (h : (potCalls deps g).processes.actsWhen (fun s a => unhurriedBelow n g s a = true) s as
      = some s') (hs : s.Below n) :
    s'.Below n ∧ Run (Guarded (potCalls deps g).processes.Step (Unhurried g)) s as s' :=
  (potCalls deps g).processes.run_below (fun _ _ h => (Bool.and_eq_true_iff.mp h).1)
    (fun _ _ => unhurried_of_below) ((potCalls deps g).processes.run_of_actsWhen h) hs

/-- Two players deposit and reserve, and a match takes their stakes. -/
def stakedMatch : List (Act Call Answer Outside) :=
  callOnce (.createAccount .external) 6 ++ callOnce (.createAccount (.custody 1)) 6 ++
    callOnce (.createAccount (.custody 2)) 6 ++ callOnce (.createAccount (.escrow 7)) 6 ++
    callOnce (.postEntry ⟨.deposit,
      [⟨.external, none, .debit, 100⟩, ⟨.custody 1, some 1, .credit, 100⟩], .deposit 3, none,
        some 3, none⟩ 2) 9 ++
    callOnce (.postEntry ⟨.deposit,
      [⟨.external, none, .debit, 100⟩, ⟨.custody 2, some 2, .credit, 100⟩], .deposit 4, none,
        some 4, none⟩ 3) 9 ++
    callOnce (.reserveEntryFee 1 "bronze" 40) 8 ++ callOnce (.reserveEntryFee 2 "bronze" 40) 8 ++
    callOnce (.consumeReservations "bronze" 7 (some 80)) 14

/-- Game 7 of the match, with its room and its report. -/
def stakedPot (books : Database) (chain : State) : PotSystem where
  store :=
    let services := (finishedGame chain).store
    { services with database := { books with games := services.database.games } }
  procs := .empty

def settlement (awaits : ℕ) : List PotStep := List.replicate awaits (.resume 0 {})

def cancellation (awaits : ℕ) : List PotStep := List.replicate awaits (.resume 1 {})

/-- The settlement has looked at the row. -/
def looked : List PotStep := .start 0 (.call .settleGame) :: settlement 2

/-- The operator cancels the match. -/
def cancelled (awaits : ℕ) : List PotStep :=
  .start 1 (.call (.cancelGameAndRefund "node never reported")) :: cancellation awaits

theorem stakedPot_start {books : Database} {chain : State} (h : ¬Refunded books 7) :
    PotStart 7 (stakedPot books chain) := ⟨rfl, h⟩

end Runs

end SnakeArena.Worker
