import SnakeArena.Books.Calls

/-!
# Books — what each call commits

Each program is walked once: whatever the others do, its updates find the balances it read, and
what it commits are the statements of the commit's label, made of rows that passed its checks
(`Commit.Checked`).  Every invariant of the database is then a fact about commits.

The accounts that a call reads can be known to be `good`, in their balance and reservation, when
the invariant says so of every custody account.
-/

namespace SnakeArena.Books
open SnakeArena.Library SnakeArena.Db SnakeArena.Gateway Database

/-- What the call checked of what it read. -/
def Commit.Checked (good : ℤ → ℤ → Prop) : Commit → Prop
  | .entry params _ legs =>
      legs.map (·.leg) = params.legs ∧ (∃ sums, assertBalanced params.legs = .ok sums) ∧
        ∀ x ∈ legs, x.nextBalance < 0 → mayGoNegative x.account.kind = true
  | .reserve row account =>
      good account.balanceLamports account.reservedLamports ∧ row.lamports ≤ spendable account
  | .release _ custody => ∀ a ∈ custody, good a.balanceLamports a.reservedLamports
  | .consume _ _ stakes _ =>
      ∀ x ∈ stakes, good x.custody.balanceLamports x.custody.reservedLamports ∧
        x.row.lamports ≤ x.custody.balanceLamports
  | .refund _ _ payments escrow =>
      (∀ x ∈ payments, 0 < x.lamports) ∧ paymentsTotal payments ≤ escrow.balanceLamports
  | .settle _ _ rake _ => 0 ≤ rakeTotal rake
  | .adjust x => 0 ≤ x.nextBalance
  | .intent row custody =>
      good custody.balanceLamports custody.reservedLamports ∧
        row.amountLamports ≤ spendable custody ∧ row.status.isOpen = true
  | _ => True

/-- The label says what is committed. -/
def Spec (good : ℤ → ℤ → Prop) (t : Commit) (pending : List Statement) : Prop :=
  pending = t.statements ∧ t.Checked good

/-- What is assumed of the invariant and of `good` accounts. -/
structure Guards (I : Database → Prop) (good : ℤ → ℤ → Prop) : Prop where
  custody : ∀ db, I db → ∀ userId a, db.poolAccounts.get (.custody userId) = some a →
    good a.balanceLamports a.reservedLamports
  spent : ∀ balance reserved lamports, good balance reserved → 0 < lamports → lamports ≤ balance →
    good (balance - lamports) (released reserved lamports)

section Walks
variable {I : Database → Prop} {good : ℤ → ℤ → Prop} {pending : List Statement} {s : Database}

/-- What a program commits, whatever the others do. -/
abbrev Walk (I : Database → Prop) (good : ℤ → ℤ → Prop) (prog : Prog) (pending : List Statement)
    (s : Database) : Prop := Calls.Walks calls I Later Trust (Spec good) prog pending s

/-- A program that does nothing more owes nothing. -/
theorem walk_done : Walk I good .done pending s := trivial

/-- A statement is pending from then on, and has to be trusted wherever the others go. -/
theorem walk_run {b : Statement} {k : Prog}
    (htrust : ∀ s', Later s s' → ∀ view, runAll exec pending s' = .ok view → Trust b view)
    (hk : Walk I good k (pending ++ [b]) s) : Walk I good (.run b k) pending s :=
  ⟨fun s' hl _ => htrust s' hl, hk, fun _ => trivial⟩

/-- An update of an account that was read. -/
theorem walk_update {name : PoolAccountName} {read : PoolAccount} {data : AccountData} {k : Prog}
    (hread : Read name read pending s)
    (hk : Walk I good k (pending ++ [.updateAccount name read data]) s) :
    Walk I good (.run (.updateAccount name read data) k) pending s :=
  walk_run (fun s' hl view hview => (hread s' hl view hview).trust data) hk

/-- An id that is drawn changes nothing of what is pending. -/
theorem walk_uuid {k : ℕ → Prog} (hk : ∀ id, Walk I good (k id) pending s) :
    Walk I good (uuid k) pending s := by
  intro c
  cases c with
  | uuid id => exact hk id
  | wallet | locked | notVisible | verified | unverified => trivial

/-- An account found is read. -/
theorem walk_findAccount {name : PoolAccountName} {k : Option PoolAccount → Prog}
    (hk : ∀ s', Later s s' → I s' → ∀ view, runAll exec pending s' = .ok view →
      Walk I good (k (view.poolAccounts.get name)) pending s') :
    Walk I good (findAccount name k) pending s := hk

/-- An account found before anything is pending. -/
theorem walk_findFirst {name : PoolAccountName} {k : Option PoolAccount → Prog}
    (hnone : ∀ s', Later s s' → I s' → s'.poolAccounts.get name = none →
      Walk I good (k none) [] s')
    (hsome : ∀ s' a, Later s s' → I s' → s'.poolAccounts.get name = some a →
      Read name a [] s' → Walk I good (k (some a)) [] s') :
    Walk I good (findAccount name k) [] s := by
  intro s' hl hI view hview
  obtain rfl := Except.ok.inj hview
  show Walk I good (k (s'.poolAccounts.get name)) [] s'
  cases h : s'.poolAccounts.get name with
  | none => exact hnone s' hl hI h
  | some a => exact hsome s' a hl hI h (Read.of_view hview h)

/-- The account is there, or is created in a commit of its own. -/
theorem walk_getOrCreateAccount {name : PoolAccountName} {k : PoolAccount → Prog}
    (hk : ∀ s' a, Walk I good (k a) [] s') : Walk I good (getOrCreateAccount name k) [] s := by
  unfold getOrCreateAccount
  extract_lets findOrThrow
  have hfind : ∀ s, Walk I good findOrThrow [] s :=
    fun s => walk_findFirst (fun _ _ _ _ => walk_done) fun s' a _ _ _ _ => hk s' a
  refine walk_findFirst (fun s' _ _ _ => ?_) fun s' a _ _ _ _ => hk s' a
  exact ⟨fun _ _ _ _ _ => trivial, ⟨⟨rfl, trivial⟩, hfind s'⟩, fun _ => hfind s'⟩

/-! ### Entries -/

/-- One leg more is one update and one posting more, under the next index. -/
theorem entryStatements_append (params : PostEntryParams) (entryGroupId : ℕ) (x : EntryLeg)
    {xs : List EntryLeg} : ∀ {index : ℕ}, entryStatements params entryGroupId index (xs ++ [x]) =
      entryStatements params entryGroupId index xs ++
        [x.update, .createTransactions [x.posting params entryGroupId (index + xs.length)]] := by
  induction xs with
  | nil => simp [entryStatements]
  | cons y ys ih =>
      intro index
      simp only [List.cons_append, entryStatements, ih, List.length_cons]
      simp only [List.append_assoc, Nat.add_assoc, Nat.add_comm 1]

/-- The legs are checked one by one, against the balances that were read: what has been posted so
far is pending, and the rest is still to come. -/
theorem walk_postLegs {params : PostEntryParams} {entryGroupId : ℕ} {k alreadyPosted : Prog}
    (hbalanced : ∃ sums, assertBalanced params.legs = .ok sums)
    (hk : ∀ s, Walk I good k [] s) (hposted : ∀ s, Walk I good alreadyPosted [] s)
    {legs : List LedgerLeg} : ∀ {posted : List EntryLeg} {s : Database},
      posted.map (·.leg) ++ legs = params.legs →
      (∀ x ∈ posted, x.nextBalance < 0 → mayGoNegative x.account.kind = true) →
      Walk I good (postLegs params entryGroupId k alreadyPosted posted legs)
        (entryStatements params entryGroupId 0 posted) s := by
  induction legs with
  | nil =>
      intro posted s hlegs hchecked
      exact ⟨⟨rfl, by simpa using hlegs, hbalanced, hchecked⟩, hk s⟩
  | cons leg legs ih =>
      intro posted s hlegs hchecked
      refine walk_findAccount fun s' hl hI view hview => ?_
      cases hget : view.poolAccounts.get leg.poolAccountId with
      | none => exact walk_done
      | some account =>
          dsimp only
          split
          · exact walk_done
          next hfunds =>
              refine walk_update (Read.of_view hview hget)
                ⟨fun _ _ _ _ _ => trivial, ?_, fun e => ?_⟩
              · have h := @ih (posted ++ [⟨leg, account⟩]) s' (by simpa using hlegs) ?_
                · rw [entryStatements_append, Nat.zero_add] at h
                  rw [List.append_assoc]
                  exact h
                · intro y hy hneg
                  obtain hy | hy := List.mem_append.mp hy
                  · exact hchecked y hy hneg
                  · obtain rfl := List.mem_singleton.mp hy
                    exact Bool.not_eq_false _ ▸ fun h => hfunds ⟨hneg, h⟩
              · cases e with
                | unique => exact hposted s'
                | notFound => exact walk_done

/-- An entry that is balanced is posted as a whole, and one that is not throws before it writes. -/
theorem walk_postEntry {params : PostEntryParams} {entryGroupId : ℕ} {k alreadyPosted : Prog}
    (hk : ∀ s, Walk I good k [] s) (hposted : ∀ s, Walk I good alreadyPosted [] s) :
    Walk I good (postEntry params entryGroupId k alreadyPosted) [] s := by
  unfold postEntry
  split
  · exact walk_done
  next sums hsums =>
      exact walk_postLegs ⟨sums, hsums⟩ hk hposted (List.nil_append _)
        fun _ hx => absurd hx List.not_mem_nil

/-! ### Stakes -/

/-- A reservation is of what is spendable by then. -/
theorem walk_reserveEntryFee (hg : Guards I good) (userId : ℕ) (tierId : String) (lamports : ℤ) :
    Walk I good (reserveEntryFee userId tierId lamports) [] s := by
  unfold reserveEntryFee
  split_ifs with _ _ hpos
  · exact walk_done
  · exact walk_getOrCreateAccount fun _ _ => walk_done
  · refine walk_getOrCreateAccount fun s₁ _ s₂ _ _ view _ => ?_
    dsimp only
    split
    · exact walk_done
    · refine walk_findFirst (fun _ _ _ _ => walk_done) fun s₃ a _ hI ha hread => ?_
      dsimp only
      split
      · exact walk_done
      next hfunds =>
          refine walk_update hread (walk_run (fun _ _ _ _ => trivial) ⟨⟨rfl, ?_, ?_⟩, walk_done⟩)
          · exact hg.custody s₃ hI userId a ha
          · exact not_lt.mp hfunds
  · exact walk_done

/-- A reservation is kept under its own player and tier. -/
theorem reservation_userId {db : Database} {userId : ℕ} {tierId : String} {row : StakeReservation}
    (h : db.reservation userId tierId = some row) : row.userId = userId ∧ row.tierId = tierId := by
  simpa using List.find?_some h

/-- The reservation's row goes, and what it reserved is given back to the account, if there is
one. -/
theorem walk_releaseEntryFee (hg : Guards I good) (userId : ℕ) (tierId : String) :
    Walk I good (releaseEntryFee userId tierId) [] s := by
  intro s₁ _ _ view _
  dsimp only
  split
  · exact walk_done
  next existing hexisting =>
      obtain ⟨rfl, -⟩ := reservation_userId hexisting
      refine walk_findFirst (fun s₂ _ _ _ => ?_) fun s₂ a _ hI ha hread => ?_
      · exact walk_run (fun _ _ _ _ => trivial) ⟨⟨rfl, nofun⟩, walk_done⟩
      · refine walk_update hread (walk_run (fun _ _ _ _ => trivial) ⟨⟨rfl, fun a' ha' => ?_⟩,
          walk_done⟩)
        obtain rfl := Option.some.inj ha'
        exact hg.custody s₂ hI _ a ha

/-- One stake more comes after the others, with the escrow's balance of that moment. -/
theorem stakeStatements_append (gameId : ℕ) (x : Stake) {xs : List Stake} :
    ∀ {escrowBalance : ℤ}, stakeStatements gameId escrowBalance (xs ++ [x]) =
      stakeStatements gameId escrowBalance xs ++
        [x.update, .createTransactions
          (x.legs gameId (escrowBalance + stakesTotal xs + x.row.lamports))] := by
  induction xs with
  | nil => simp [stakeStatements, stakesTotal]
  | cons y ys ih =>
      intro escrowBalance
      simp only [List.cons_append, stakeStatements, ih, stakesTotal, List.map_cons, List.sum_cons,
        List.append_assoc, add_assoc]

/-- The custody accounts that the call sees are good. -/
def GoodView (I : Database → Prop) (good : ℤ → ℤ → Prop) (pending : List Statement)
    (s : Database) : Prop :=
  ∀ s', Later s s' → I s' → ∀ view, runAll exec pending s' = .ok view →
    ∀ userId a, view.poolAccounts.get (.custody userId) = some a →
      good a.balanceLamports a.reservedLamports

/-- Before the first statement the view is the database, whose accounts are good. -/
theorem GoodView.nil (hg : Guards I good) : GoodView I good [] s := by
  intro s' _ hI view hview
  obtain rfl := Except.ok.inj hview
  exact hg.custody _ hI

/-- A stake taken leaves the custody account good. -/
theorem GoodView.stake (hg : Guards I good) (h : GoodView I good pending s) {x : Stake}
    (hgood : good x.custody.balanceLamports x.custody.reservedLamports)
    (hfunds : x.row.lamports ≤ x.custody.balanceLamports) (rows : List Posting) :
    GoodView I good (pending ++ [x.update, .createTransactions rows]) s := by
  intro s' hl hI view hview userId a ha
  obtain ⟨u, hu, hmore⟩ := runAll_append.mp hview
  simp only [runAll] at hmore
  split at hmore
  · cases hmore
  next v hv =>
      split at hmore
      · cases hmore
      next w hw =>
          obtain rfl := Except.ok.inj hmore
          have hrows : w.poolAccounts = v.poolAccounts := writes hw
          obtain ⟨b, hb, -, rfl⟩ := writes hv
          rw [hrows] at ha
          by_cases e : userId = x.row.userId
          · subst e
            rw [Table.get_upd_same] at ha
            obtain rfl := Option.some.inj ha
            exact hg.spent _ _ _ hgood x.row.pos hfunds
          · rw [Table.get_upd_other (by simpa using e)] at ha
            exact h s' hl hI u hu userId a ha

/-- The loop over the reservations: each stake is covered by the account that the view shows, which
the stakes before it leave good. -/
theorem walk_consumeStakes (hg : Guards I good) {tierId : String} {gameId : ℕ}
    {escrow : PoolAccount} {rows : List StakeReservation} : ∀ {stakes : List Stake} {s : Database},
      Read (.escrow gameId) escrow (stakeStatements gameId escrow.balanceLamports stakes) s →
      GoodView I good (stakeStatements gameId escrow.balanceLamports stakes) s →
      (∀ x ∈ stakes, good x.custody.balanceLamports x.custody.reservedLamports ∧
        x.row.lamports ≤ x.custody.balanceLamports) →
      Walk I good (consumeStakes tierId gameId escrow stakes rows)
        (stakeStatements gameId escrow.balanceLamports stakes) s := by
  induction rows with
  | nil =>
      intro stakes s hescrow _ hchecked
      refine walk_update hescrow (walk_run (fun _ _ _ _ => trivial) ⟨⟨?_, hchecked⟩, walk_done⟩)
      simp only [Commit.statements, updateEscrow, List.append_assoc, List.singleton_append]
  | cons row rows ih =>
      intro stakes s hescrow hview hchecked
      refine walk_findAccount fun s' hl hI view hrun => ?_
      have hescrow := hescrow.later hl
      have hview' : GoodView I good _ s' := fun s₁ h₁ => hview s₁ (hl.trans h₁)
      cases hget : view.poolAccounts.get (.custody row.userId) with
      | none => exact ih hescrow hview' hchecked
      | some custody =>
          dsimp only
          split
          · exact walk_done
          next hfunds =>
              refine walk_uuid fun entryGroupId => ?_
              have hgood := hview s' hl hI view hrun _ _ hget
              let x : Stake := ⟨row, custody, entryGroupId⟩
              have hstatements :=
                @stakeStatements_append gameId x stakes escrow.balanceLamports
              refine walk_update (Read.of_view hrun hget) (walk_run (fun _ _ _ _ => trivial) ?_)
              have h := @ih (stakes ++ [x]) s' ?_ ?_ ?_
              · rw [hstatements] at h
                rw [List.append_assoc]
                exact h
              · rw [hstatements]
                exact hescrow.append _
              · rw [hstatements]
                exact hview'.stake hg hgood (not_lt.mp hfunds) _
              · intro y hy
                obtain hy | hy := List.mem_append.mp hy
                · exact hchecked y hy
                · obtain rfl := List.mem_singleton.mp hy
                  exact ⟨hgood, not_lt.mp hfunds⟩

/-- The stakes are consumed and the escrow gets their sum, in one commit. -/
theorem walk_consumeReservations (hg : Guards I good) (tierId : String) (gameId : ℕ)
    (expectedLamports : Option ℤ) :
    Walk I good (consumeReservations tierId gameId expectedLamports) [] s := by
  intro s₁ _ _ view _
  dsimp only
  split_ifs
  · exact walk_done
  · exact walk_done
  · refine walk_findFirst (fun _ _ _ _ => walk_done) fun s₂ escrow _ _ _ hread => ?_
    exact @walk_consumeStakes I good hg _ _ _ _ [] s₂ hread (GoodView.nil hg) nofun

/-! ### Payments -/

/-- One payment more, with the account it creates if it has to. -/
theorem paymentStatements_append (legs : ℤ → Payment → List Posting) (x : Payment)
    {xs : List Payment} : ∀ {escrowBalance : ℤ},
      paymentStatements legs escrowBalance (xs ++ [x]) =
        paymentStatements legs escrowBalance xs ++
          ((if x.created then [.createAccount (.custody x.userId)] else []) ++
            [x.update, .createTransactions
              (legs (escrowBalance - paymentsTotal xs - x.lamports) x)]) := by
  induction xs with
  | nil => simp [paymentStatements, paymentsTotal]
  | cons y ys ih =>
      intro escrowBalance
      simp only [List.cons_append, paymentStatements, ih, paymentsTotal, List.map_cons,
        List.sum_cons, List.append_assoc, sub_sub, add_assoc]

/-- The account just created reads as it was created. -/
theorem Read.created {name : PoolAccountName} :
    Read name ⟨name.kind, 0, 0, 0⟩ (pending ++ [.createAccount name]) s := by
  intro s' _ view hview
  obtain ⟨u, -, hmore⟩ := runAll_append.mp hview
  obtain ⟨-, rfl⟩ := writes (runAll_one.mp hmore)
  exact ⟨_, Table.get_upd_same _ _ _, rfl, le_rfl, fun _ => rfl⟩

/-- The loop over the players that are owed: what is paid and what is still owed stay within the
escrow that was read. -/
theorem walk_refundPayments {gameId : ℕ} {reason : String} {escrow : PoolAccount}
    {owed : List (ℕ × ℤ)} : ∀ {payments : List Payment} {s : Database},
      Read (.escrow gameId) escrow
        (paymentStatements (Payment.refundLegs gameId) escrow.balanceLamports payments) s →
      (∀ x ∈ payments, 0 < x.lamports) → (∀ x ∈ owed, 0 < x.2) →
      paymentsTotal payments + (owed.map (·.2)).sum ≤ escrow.balanceLamports →
      Walk I good (refundPayments gameId reason escrow payments owed)
        (paymentStatements (Payment.refundLegs gameId) escrow.balanceLamports payments) s := by
  induction owed with
  | nil =>
      intro payments s hescrow hpos _ htotal
      have hchecked : Commit.Checked good (.refund gameId reason payments escrow) :=
        ⟨hpos, by simpa using htotal⟩
      simp only [refundPayments]
      split
      next hempty =>
          refine walk_run (fun _ _ _ _ => trivial) ⟨⟨?_, hchecked⟩, walk_done⟩
          simp only [Commit.statements, hempty, if_true, List.append_nil]
      next hempty =>
          refine walk_update hescrow (walk_run (fun _ _ _ _ => trivial) ⟨⟨?_, hchecked⟩, walk_done⟩)
          simp only [Commit.statements, hempty, updateEscrow]
          rfl
  | cons leg owed ih =>
      obtain ⟨userId, lamports⟩ := leg
      intro payments s hescrow hpos howed htotal
      simp only [List.map_cons, List.sum_cons] at htotal
      -- the step with the account in hand, whether it was there or created
      have hpay : ∀ s' custody created entryGroupId, Later s s' →
          Read (.custody userId) custody
            (paymentStatements (Payment.refundLegs gameId) escrow.balanceLamports payments ++
              if created then [.createAccount (.custody userId)] else []) s' →
          let x : Payment := ⟨userId, lamports, custody, created, entryGroupId⟩
          Walk I good
            (.run x.update <| .run (.createTransactions (x.refundLegs gameId
                (escrow.balanceLamports - paymentsTotal payments - lamports))) <|
              refundPayments gameId reason escrow (payments ++ [x]) owed)
            (paymentStatements (Payment.refundLegs gameId) escrow.balanceLamports payments ++
              if created then [.createAccount (.custody userId)] else []) s' := by
        intro s' custody created entryGroupId hl hread x
        have hstatements := @paymentStatements_append (Payment.refundLegs gameId) x payments
          escrow.balanceLamports
        refine walk_update hread (walk_run (fun _ _ _ _ => trivial) ?_)
        have h := @ih (payments ++ [x]) s' ?_ ?_ (fun y hy =>
          howed y (List.mem_cons_of_mem _ hy)) ?_
        · rw [hstatements] at h
          rw [List.append_assoc, List.append_assoc]
          exact h
        · rw [hstatements]
          exact (hescrow.later hl).append _
        · intro y hy
          obtain hy | hy := List.mem_append.mp hy
          · exact hpos y hy
          · obtain rfl := List.mem_singleton.mp hy
            exact howed _ List.mem_cons_self
        · simp only [paymentsTotal, List.map_append, List.sum_append, List.map_cons, List.map_nil,
            List.sum_cons, List.sum_nil, x]
          simp only [paymentsTotal] at htotal
          omega
      rw [refundPayments]
      refine walk_findAccount fun s' hl hI view hrun => ?_
      cases hget : view.poolAccounts.get (.custody userId) with
      | some custody =>
          refine walk_uuid fun entryGroupId => ?_
          have h := hpay s' custody false entryGroupId hl
          simp only [Bool.false_eq_true, if_false, List.append_nil] at h
          exact h (Read.of_view hrun hget)
      | none =>
          refine walk_run (fun _ _ _ _ => trivial) (walk_uuid fun entryGroupId => ?_)
          have h := hpay s' ⟨.userCustody, 0, 0, 0⟩ true entryGroupId hl
          simp only [if_true] at h
          exact h Read.created

/-- Nobody is owed nothing. -/
theorem owed_pos {db : Database} {gameId : ℕ} : ∀ x ∈ db.owed gameId, 0 < x.2 := by
  intro x hx
  simp only [Database.owed, List.mem_filterMap] at hx
  obtain ⟨userId, -, hx⟩ := hx
  split at hx
  · cases hx
  · split at hx
    · cases hx
    next h =>
        obtain rfl := Option.some.inj hx
        exact not_le.mp fun hle => h (.inl hle)

/-- A game is cancelled alone, or with the refunds of the players that it owes. -/
theorem walk_cancelGameAndRefund (gameId : ℕ) (reason : String) :
    Walk I good (cancelGameAndRefund gameId reason) [] s := by
  intro s₁ _ _ view _
  dsimp only
  split
  · exact walk_done
  · split
    · exact walk_done
    · refine walk_findFirst (fun s₂ _ _ _ => ?_) fun s₂ escrow _ _ _ hread => ?_
      · exact walk_run (fun _ _ _ _ => trivial) ⟨⟨rfl, trivial⟩, walk_done⟩
      · intro s₃ h₃ _ view₃ _
        dsimp only
        split
        · exact walk_done
        · intro s₄ h₄ _ view₄ _
          dsimp only
          split
          · exact walk_done
          next htotal =>
              have hread := hread.later (h₃.trans h₄)
              exact @walk_refundPayments I good _ _ _ _ [] s₄ hread nofun owed_pos
                (by simpa [paymentsTotal] using htotal)

/-- After the prizes comes the rake, if there is one, and the escrow last. -/
theorem walk_settleRake {gameId : ℕ} {rake : ℤ} {escrow : PoolAccount} {payments : List Payment}
    (hescrow : Read (.escrow gameId) escrow
      (paymentStatements (Payment.prizeLegs gameId) escrow.balanceLamports payments) s) :
    Walk I good (settleRake gameId rake escrow payments)
      (paymentStatements (Payment.prizeLegs gameId) escrow.balanceLamports payments) s := by
  unfold settleRake
  have hfinish : ∀ s', Later s s' → Walk I good
      (.run (updateEscrow gameId escrow
          (escrow.balanceLamports - paymentsTotal payments - rakeTotal none)) <|
        .commit (.settle gameId payments none escrow) .done)
      (paymentStatements (Payment.prizeLegs gameId) escrow.balanceLamports payments) s' :=
    fun s' hl => walk_update (hescrow.later hl)
      ⟨⟨by simp [Commit.statements, rakeStatements, updateEscrow],
      le_rfl⟩, walk_done⟩
  split
  next hrake =>
      refine walk_findAccount fun s' hl hI view hrun => ?_
      cases hget : view.poolAccounts.get .rake with
      | none => exact hfinish s' hl
      | some account =>
          refine walk_uuid fun entryGroupId => ?_
          refine walk_update (Read.of_view hrun hget) (walk_run (fun _ _ _ _ => trivial) ?_)
          refine walk_update (((hescrow.later hl).append _).append _) ⟨⟨?_, ?_⟩, walk_done⟩
          · simp [Commit.statements, rakeStatements, updateEscrow, Rake.update, rakeTotal]
          · exact hrake.le
  · exact hfinish s (Later.refl s)

/-- The loop over the prizes, up to the rake. -/
theorem walk_settlePayments {gameId : ℕ} {rake : ℤ} {escrow : PoolAccount}
    {payouts : List (ℕ × ℤ)} : ∀ {payments : List Payment} {s : Database},
      Read (.escrow gameId) escrow
        (paymentStatements (Payment.prizeLegs gameId) escrow.balanceLamports payments) s →
      Walk I good (settlePayments gameId rake escrow payments payouts)
        (paymentStatements (Payment.prizeLegs gameId) escrow.balanceLamports payments) s := by
  induction payouts with
  | nil => exact fun hescrow => walk_settleRake hescrow
  | cons payout payouts ih =>
      obtain ⟨playerId, lamports⟩ := payout
      intro payments s hescrow
      refine walk_findAccount fun s' hl hI view hrun => ?_
      have hescrow := hescrow.later hl
      cases hget : view.poolAccounts.get (.custody playerId) with
      | none => exact ih hescrow
      | some custody =>
          refine walk_uuid fun entryGroupId => ?_
          let x : Payment := ⟨playerId, lamports, custody, false, entryGroupId⟩
          have hstatements := @paymentStatements_append (Payment.prizeLegs gameId) x payments
            escrow.balanceLamports
          refine walk_update (Read.of_view hrun hget) (walk_run (fun _ _ _ _ => trivial) ?_)
          have h := @ih (payments ++ [x]) s' ?_
          · rw [hstatements] at h
            rw [List.append_assoc]
            exact h
          · rw [hstatements]
            exact hescrow.append _

/-- A settlement is posted unless a payout of the game is there; the escrow is the one read before
the transaction opened. -/
theorem walk_postSettlementLedger (gameId : ℕ) (payouts : List (ℕ × ℤ)) (rake : ℤ) :
    Walk I good (postSettlementLedger gameId payouts rake) [] s := by
  refine walk_findFirst (fun _ _ _ _ => walk_done) fun s₁ escrow _ _ _ hread => ?_
  intro s₂ h₂ _ view _
  dsimp only
  split
  · exact walk_done
  · exact @walk_settlePayments I good _ _ _ _ [] s₂ (hread.later h₂)

/-! ### Adjustments -/

/-- An adjustment does not take a balance below zero, as it was read. -/
theorem walk_adjustBalance (userId : ℕ) (delta : ℤ) (key : String) :
    Walk I good (adjustBalance userId delta key) [] s := by
  unfold adjustBalance
  split
  · exact walk_done
  refine walk_getOrCreateAccount fun s₁ _ => walk_findFirst (fun _ _ _ _ => walk_done) ?_
  intro s₂ _ _ _ _ _ s₃ _ _ view _
  dsimp only
  split
  · exact walk_done
  refine walk_uuid fun entryGroupId => ?_
  refine walk_findFirst (fun _ _ _ _ => walk_done) fun s₄ custody _ _ _ hread => ?_
  dsimp only
  split
  · exact walk_done
  next hnext =>
      refine walk_update hread (walk_findAccount fun s₅ h₅ _ view₅ hrun => ?_)
      cases hget : view₅.poolAccounts.get .treasury with
      | none => exact walk_done
      | some treasury =>
          refine walk_update (Read.of_view hrun hget) (walk_run (fun _ _ _ _ => trivial) ?_)
          exact ⟨⟨rfl, not_lt.mp hnext⟩, walk_done⟩

/-! ### Withdrawals -/

/-- A withdrawal reserves what is spendable by then, and is open. -/
theorem walk_createWithdrawalIntent (hg : Guards I good) (userId : ℕ) (amount : ℤ)
    (withdrawalFeeBps : ℕ) :
    Walk I good (createWithdrawalIntent userId amount withdrawalFeeBps) [] s := by
  unfold createWithdrawalIntent
  split
  · exact walk_done
  intro c
  dsimp only
  split
  · split
    · exact walk_done
    refine walk_findFirst (fun _ _ _ _ => walk_done) fun s₁ custody _ hI ha hread => ?_
    dsimp only
    split
    · exact walk_done
    next hfunds =>
        refine walk_update hread (walk_uuid fun id => walk_run (fun _ _ _ _ => trivial) ?_)
        refine ⟨⟨rfl, hg.custody s₁ hI userId custody ha, not_lt.mp hfunds, ?_⟩, walk_done⟩
        dsimp only
        split <;> rfl
  · exact walk_done

/-- A reservation is given back by a write of what was read, which no version guards. -/
theorem walk_releaseReservation {withdrawal : Withdrawal} {k : Prog}
    (hk : ∀ s, Walk I good k [] s) : Walk I good (releaseReservation withdrawal k) [] s := by
  refine walk_findFirst (fun s' _ _ _ => hk s') fun s' a _ _ _ _ => ?_
  exact walk_run (fun _ _ _ _ => trivial) ⟨⟨rfl, trivial⟩, hk s'⟩

/-- A withdrawal's own row is written alone. -/
theorem walk_updateWithdrawal {withdrawal : Withdrawal} {data : WithdrawalData} {k : Prog}
    (hk : ∀ s, Walk I good k [] s) : Walk I good (updateWithdrawal withdrawal data k) [] s :=
  walk_run (fun _ _ _ _ => trivial) ⟨⟨rfl, trivial⟩, hk s⟩

/-- A failed withdrawal gives back its reservation, and is marked. -/
theorem walk_failWithdrawal {withdrawal : Withdrawal} {reason : String} {k : Prog}
    (hk : ∀ s, Walk I good k [] s) : Walk I good (failWithdrawal withdrawal reason k) [] s :=
  walk_updateWithdrawal fun _ => walk_releaseReservation hk

/-- A confirmation posts the entry, gives back the reservation and marks the row, in three
commits. -/
theorem walk_confirmWithdrawal (userId withdrawalId : ℕ) (signature : String) :
    Walk I good (confirmWithdrawal userId withdrawalId signature) [] s := by
  intro c
  dsimp only
  split
  · intro s₁ _ _ view _
    dsimp only
    split
    · exact walk_done
    next withdrawal _ =>
        split_ifs
        · exact walk_done
        · exact walk_done
        intro s₂ _ _ view₂ _
        dsimp only
        split
        · exact walk_done
        intro c
        dsimp only
        split
        · exact walk_updateWithdrawal fun _ => walk_done
        · exact walk_failWithdrawal fun _ => walk_done
        · refine walk_getOrCreateAccount fun _ _ => walk_findFirst (fun _ _ _ _ => walk_done) ?_
          intro _ _ _ _ _ _
          refine walk_findFirst (fun _ _ _ _ => walk_done) fun _ _ _ _ _ _ => ?_
          have hconfirmed : ∀ s, Walk I good (releaseReservation withdrawal <|
              updateWithdrawal withdrawal ⟨.confirmed, some signature, none⟩ .done) [] s :=
            fun s => walk_releaseReservation fun _ => walk_updateWithdrawal fun _ => walk_done
          exact walk_uuid fun _ => walk_postEntry hconfirmed hconfirmed
        · exact walk_done
  · exact walk_done

/-- The stale withdrawals fail one by one. -/
theorem walk_expireWithdrawals {stale : List Withdrawal} : ∀ {s : Database},
    Walk I good (expireWithdrawals stale) [] s := by
  induction stale with
  | nil => exact walk_done
  | cons withdrawal stale ih => exact walk_failWithdrawal fun _ => ih

/-- **What each call commits.** -/
theorem walk_program (hg : Guards I good) (request : Request) (s : Database) :
    Walk I good request.program [] s := by
  cases request with
  | createAccount name => exact walk_getOrCreateAccount fun _ _ => walk_done
  | postEntry params entryGroupId => exact walk_postEntry (fun _ => walk_done) fun _ => walk_done
  | reserveEntryFee userId tierId lamports => exact walk_reserveEntryFee hg userId tierId lamports
  | releaseEntryFee userId tierId => exact walk_releaseEntryFee hg userId tierId
  | consumeReservations tierId gameId expected =>
      exact walk_consumeReservations hg tierId gameId expected
  | cancelGameAndRefund gameId reason => exact walk_cancelGameAndRefund gameId reason
  | postSettlementLedger gameId payouts rake => exact walk_postSettlementLedger gameId payouts rake
  | adjustBalance userId delta key => exact walk_adjustBalance userId delta key
  | createWithdrawalIntent userId amount feeBps =>
      exact walk_createWithdrawalIntent hg userId amount feeBps
  | confirmWithdrawal userId withdrawalId signature =>
      exact walk_confirmWithdrawal userId withdrawalId signature
  | expireStaleWithdrawals isStale => exact fun _ _ _ _ _ => walk_expireWithdrawals

end Walks

/-- **The rule for the books.**  What every commit keeps, given what its call checked and what
its updates find, every run keeps. -/
theorem calls_keep {I : Database → Prop} {good : ℤ → ℤ → Prop} {G : Database → Commit → Prop}
    (hg : Guards I good)
    (hcommit : ∀ s (t : Commit) s', I s → t.Checked good →
      Calls.Trusted calls Trust t.statements s →
      G s t → runAll exec t.statements s = .ok s' → I s')
    (hgames : ∀ s games, I s → I { s with games }) :
    calls.processes.Keeps (Calls.Allows G) I
      (fun s _ p => Calls.Knows calls I Later Trust (Spec good) s p) fun _ _ => True := by
  refine Calls.keeps Later.refl (fun _ _ _ => Later.trans) ?_ (walk_program hg) ?_
  · rintro s t _ s' hI ⟨rfl, hchecked⟩ htrusted hG hrun
    exact ⟨hcommit s t s' hI hchecked htrusted hG hrun, runAll_later hrun⟩
  · rintro s ⟨gameId, row⟩ s' hI he
    obtain rfl := Option.some.inj he
    exact ⟨hgames s _ hI, Later.of_eq rfl⟩

end SnakeArena.Books
