import SnakeArena.Gateway.Credits

/-!
# Gateway — one credit for a signature, over whole runs

From a ledger without deposits, any run that meets `FreshSignature` posts no more from a
signature than its transaction moved, and a credit whose call crashed before it wrote the row
is recorded by the first retry that gets its answers.
-/

namespace SnakeArena.Gateway
open SnakeArena.Library SnakeArena.Db SnakeArena.Program SnakeArena.Sdk

/-- The service before its first deposit. -/
structure Genesis (s : System Store Confirm) : Prop where
  deposits : s.store.deposits = .empty
  txSignatures : s.store.txSignatures = .empty
  creditedFrom : s.store.creditedFrom = .empty
  keys : ∀ d i, s.store.ledger.transactions.get (.deposit d i) = none
  types : s.store.ledger.transactions.All fun _ tx => tx.type ≠ .deposit
  kinds : s.store.ledger.poolAccounts.All fun name a => a.kind = name.kind
  procs : s.procs = .empty

theorem Genesis.inOrder {sol : Solana} {s : System Store Confirm} (h : Genesis s) :
    InOrder sol s := by
  refine ⟨⟨fun d i _ => h.keys d i, fun key tx hk ht => absurd ht (h.types key tx hk),
    ?_, ?_, ?_, ?_,
    ?_, h.kinds, ?_⟩, ?_, ?_⟩
  · rw [h.creditedFrom]
    exact .empty
  · simp [h.creditedFrom]
  · rw [h.txSignatures]
    exact .empty
  · rw [h.deposits]
    exact .empty
  · rw [h.deposits]
    exact .empty
  · simp [h.creditedFrom]
  · rw [h.procs]
    exact .empty
  · simp [h.procs]

/-- The signature is written on the row of the deposit. -/
def Store.Records (s : Store) (d : ℕ) (signature : Signature) : Prop :=
  ∃ row, s.deposits.get d = some row ∧ row.txSignature = some signature

section Credits
variable {sol : Solana} {s : Store}

/-- A credit is of one deposit, so a signature is credited no more than it moved. -/
theorem Store.Booked.creditedBy_le (h : s.Booked sol) (signature : Signature) :
    s.creditedBy signature ≤ (sol.moved signature).toNat := by
  by_cases hany : ∃ d, s.creditedFrom.get d = some signature
  · obtain ⟨d, hd⟩ := hany
    obtain ⟨_, _, tx, -, -, -, -, htx, -, hamount⟩ := h.posted d signature hd
    have hone : s.creditedBy signature = s.credit d := by
      rw [Store.creditedBy, Table.total_eq_part d, Table.part_of_get hd, if_pos rfl]
      intro d' from' hd' hne
      have hother : from' ≠ signature := by
        rintro rfl
        exact hne (h.once d' d from' hd' hd)
      exact if_neg hother
    simp only [hone, Store.credit, htx, hamount, le_refl]
  · rw [Store.creditedBy, Table.total_eq_zero]
    · exact Nat.zero_le _
    · intro d from' hd
      have hother : from' ≠ signature := by
        rintro rfl
        exact hany ⟨d, hd⟩
      exact if_neg hother

/-- A `DEPOSIT` credit in the ledger is the credit of a deposit. -/
theorem Store.Booked.credit_of (h : s.Booked sol) {key : IdempotencyKey} {tx : Transaction}
    (htx : s.ledger.transactions.get key = some tx) (htype : tx.type = .deposit)
    (hdir : tx.direction = .credit) :
    ∃ d signature, key = .deposit d 1 ∧ s.creditedFrom.get d = some signature := by
  obtain ⟨d, hkey⟩ := h.typed key tx htx htype
  cases hd : s.creditedFrom.get d with
  | none => rcases hkey with rfl | rfl <;> exact nomatch htx.symm.trans (h.unposted d _ hd)
  | some signature =>
      refine ⟨d, signature, hkey.resolve_left ?_, hd⟩
      rintro rfl
      obtain ⟨_, tx₀, _, -, -, htx₀, hdir₀, -⟩ := h.posted d signature hd
      obtain rfl := Option.some.inj (htx.symm.trans htx₀)
      exact nomatch hdir.symm.trans hdir₀

/-- No other deposit records the signature of a credit. -/
theorem Store.Booked.records_same (h : s.Booked sol) {d d' : ℕ} {signature : Signature}
    (hd : s.creditedFrom.get d = some signature) (hd' : s.Records d' signature) : d' = d := by
  obtain ⟨row, hrow, hs⟩ := hd'
  exact h.once d' d signature (h.recorded d' row hrow signature hs).1 hd

/-- The entry of a credited deposit does not post again. -/
theorem Store.Booked.post_again (h : s.Booked sol) {d userId : ℕ} {signature : Signature}
    {credited : ℤ} (hd : s.creditedFrom.get d = some signature) (hpos : 0 < credited) :
    postEntry s.ledger (depositEntry d userId credited) = .error .alreadyPosted := by
  obtain ⟨_, tx₀, _, -, -, htx₀, -⟩ := h.posted d signature hd
  obtain ⟨a, ha⟩ := Option.ne_none_iff_exists'.mp (h.external d (by simp [hd]))
  have hkind : a.kind = .external := h.kinds _ a ha
  simp [postEntry, assertBalanced, sumLegs, depositEntry, not_le.mpr hpos, postLegs, postLeg, ha,
    mayGoNegative, hkind, htx₀]

/-- The unique index lets a credited deposit take its signature. -/
theorem Store.Booked.index_free (h : s.Booked sol) {d : ℕ} {signature : Signature}
    (hd : s.creditedFrom.get d = some signature) :
    (s.txSignatures.get signature).any (· ≠ d) = false := by
  cases hi : s.txSignatures.get signature with
  | none => rfl
  | some d' => simpa using h.records_same hd (h.index signature d' hi)

/-- The row of a credited deposit takes its signature. -/
theorem Store.Booked.marks (h : s.Booked sol) {d : ℕ} {signature : Signature} {row : Deposit}
    (slot : ℕ) (hd : s.creditedFrom.get d = some signature) (hrow : s.deposits.get d = some row) :
    ∃ s', s.markConfirmed d signature slot = some s' ∧ s'.Records d signature := by
  refine ⟨_, by simp only [Store.markConfirmed, hrow, h.index_free hd]; rfl, ?_⟩
  exact ⟨_, Table.get_upd_same _ _ _, rfl⟩

end Credits

/-! ### The retry -/

/-- A call of `confirmDeposit` that gets each of its answers. -/
def retry (r userId d : ℕ) (signature : Signature) : List (Act Confirm Answer Outside) :=
  .start r ⟨userId, d, signature, .acquireLock⟩ :: List.replicate 7 (.resume r .ok)

section Retry
variable {sol : Solana} {s : System Store Confirm} {r : ℕ} {p : Confirm}

/-- A call that gets its answer goes on, and the books stay in order. -/
theorem InOrder.advance (hs : InOrder sol s) (hp : s.procs.get r = some p) {store : Store}
    (point : ConfirmPoint) (hg : FreshSignature sol s (.resume r .ok))
    (h : p.resume sol r s.store .ok = (store, some { p with point })) :
    ∃ s', Guarded (confirms sol).Step (FreshSignature sol) s (.resume r .ok) s' ∧
      InOrder sol s' ∧ s'.store = store ∧ s'.procs.get r = some { p with point } ∧
      ∀ r' ≠ r, s'.procs.get r' = s.procs.get r' := by
  have hstep : Guarded (confirms sol).Step (FreshSignature sol) s (.resume r .ok)
      ⟨store, s.procs.upd r { p with point }⟩ := by
    refine ⟨?_, hg⟩
    simp [Processes.Step, Processes.act, confirms, hp, h]
  exact ⟨_, hstep, (confirms_keeps sol).step hs hstep, rfl, Table.get_upd_same _ _ _,
    fun _ hne => Table.get_upd_other hne⟩

theorem FreshSignature.trivially (hp : s.procs.get r = some p)
    (hpt : ∀ deposit, p.point ≠ .getTransaction deposit) :
    FreshSignature sol s (.resume r .ok) := by
  intro q deposit hq hqpt
  obtain rfl := Option.some.inj (hp.symm.trans hq)
  exact absurd hqpt (hpt deposit)

/-- What was credited from a signature can be confirmed with it again. -/
theorem InOrder.fresh (hs : InOrder sol s) (hp : s.procs.get r = some p)
    (hd : s.store.creditedFrom.get p.depositId = some p.signature) :
    FreshSignature sol s (.resume r .ok) := by
  intro q deposit hq _
  obtain rfl := Option.some.inj (hp.symm.trans hq)
  refine ⟨fun from' h => Option.some.inj (h.symm.trans hd), fun _ => ⟨fun d h =>
    hs.1.once d p.depositId _ h hd, fun r' q hq hv hsig => ?_⟩⟩
  have hknows := (hs.2.1 r' q hq).2
  rw [← hsig] at hd
  cases hqpt : q.point <;> simp only [Confirm.Verified, hqpt] at hv
  all_goals
    rw [hqpt] at hknows
    exact (hknows.2.2.2.2 _ hd).symm

/-- **A retry records the credit.** -/
theorem InOrder.retry_records (hs : InOrder sol s) {d : ℕ} {signature : Signature} {row : Deposit}
    (hd : s.store.creditedFrom.get d = some signature)
    (hrow : s.store.deposits.get d = some row) (hsig : row.txSignature = none)
    (hfree : s.store.locks.get d = none) (hr : s.procs.get r = none) :
    ∃ s', Run (Guarded (confirms sol).Step (FreshSignature sol)) s
      (retry r row.userId d signature) s' ∧ s'.store.Records d signature := by
  have hst := hs.1.waiting d row hrow signature hd hsig
  have hok : (sol.verify row signature).ok = true := by
    obtain ⟨row', _, _, hrow', hok, -⟩ := hs.1.posted d signature hd
    exact Option.some.inj (hrow'.symm.trans hrow) ▸ hok
  have hcalls : Guarded (confirms sol).Step (FreshSignature sol) s
      (.start r ⟨row.userId, d, signature, .acquireLock⟩)
      ⟨s.store, s.procs.upd r ⟨row.userId, d, signature, .acquireLock⟩⟩ := by
    refine ⟨?_, trivial⟩
    simp [Processes.Step, Processes.act, confirms, hr]
  have hs₀ : InOrder sol _ := (confirms_keeps sol).step hs hcalls
  have hp₀ := Table.get_upd_same s.procs r ⟨row.userId, d, signature, .acquireLock⟩
  -- the seven awaits
  obtain ⟨s₁, h₁, hs₁, e₁, hp₁, -⟩ := InOrder.advance hs₀ hp₀ .findDeposit
    (.trivially hp₀ fun _ => by simp) (by simp only [Confirm.resume, hfree]; rfl)
  obtain ⟨s₂, h₂, hs₂, e₂, hp₂, -⟩ := InOrder.advance hs₁ hp₁ (.findSignature row)
    (.trivially hp₁ fun _ => by simp) (by simp [Confirm.resume, e₁, hrow, hst]; rfl)
  obtain ⟨s₃, h₃, hs₃, e₃, hp₃, -⟩ := InOrder.advance hs₂ hp₂ (.getTransaction row)
    (.trivially hp₂ fun _ => by simp)
    (by simp only [Confirm.resume, e₂, hs.1.index_free hd]; rfl)
  obtain ⟨s₄, h₄, hs₄, e₄, hp₄, -⟩ := InOrder.advance hs₃ hp₃
    (.findCustody row (sol.verify row signature))
    (hs₃.fresh hp₃ (by rw [e₃]; exact hd)) (by simp [Confirm.resume, hok]; rfl)
  have hsys : getSystemAccount (getOrCreateCustodyAccount s₄.store.ledger row.userId) .external
      = .ok () := by
    have hext := (hs₄.1.custody row.userId).external d (by rw [e₄, e₃]; simp [hd])
    simpa [getSystemAccount, Option.isSome_iff_ne_none] using hext
  obtain ⟨s₅, h₅, hs₅, e₅, hp₅, -⟩ := InOrder.advance hs₄ hp₄
    (.postCredit row (sol.verify row signature)) (.trivially hp₄ fun _ => by simp)
    (by simp only [Confirm.resume, hsys]; rfl)
  have hd₅ : s₅.store.creditedFrom.get d = some signature := by
    rw [e₅, e₄, e₃]
    exact hd
  have hpos := (Solana.verify_moved hok).1 ▸ (Solana.verify_moved hok).2
  obtain ⟨s₆, h₆, hs₆, e₆, hp₆, -⟩ := InOrder.advance hs₅ hp₅
    (.markConfirmed row (sol.verify row signature)) (.trivially hp₅ fun _ => by simp)
    (by simp only [Confirm.resume, hs₅.1.post_again hd₅ hpos]; rfl)
  obtain ⟨store, hmark, hrecords⟩ := hs₆.1.marks (sol.verify row signature).slot (e₆ ▸ hd₅)
    (show s₆.store.deposits.get d = some row by rw [e₆, e₅, e₄, e₃]; exact hrow)
  obtain ⟨s₇, h₇, -, e₇, -⟩ := InOrder.advance hs₆ hp₆ .release
    (.trivially hp₆ fun _ => by simp) (by simp only [Confirm.resume, hmark]; rfl)
  exact ⟨s₇, .cons hcalls (.cons h₁ (.cons h₂ (.cons h₃ (.cons h₄ (.cons h₅ (.cons h₆
    (.one h₇))))))), e₇ ▸ hrecords⟩

/-- **One credit for a signature.**  In a run that meets `FreshSignature`, what is posted from a
signature is never more than its transaction moved, and each credit is of a deposit whose row
alone records the signature, or will: then the row is still pending, and a retry records it. -/
theorem one_credit_per_signature
    (hs : Reachable (Guarded (confirms sol).Step (FreshSignature sol)) Genesis s) :
    (∀ key tx, s.store.ledger.transactions.get key = some tx → tx.type = .deposit →
      tx.direction = .credit →
        ∃ d signature, key = .deposit d 1 ∧ s.store.creditedFrom.get d = some signature) ∧
    (∀ signature, s.store.creditedBy signature ≤ (sol.moved signature).toNat) ∧
    ∀ d signature, s.store.creditedFrom.get d = some signature →
      (∀ d', s.store.Records d' signature → d' = d) ∧
      (s.store.Records d signature ∨
        ∃ row, s.store.deposits.get d = some row ∧ row.status = .pending ∧
          ∀ r, s.store.locks.get d = none → s.procs.get r = none →
            ∃ s', Run (Guarded (confirms sol).Step (FreshSignature sol)) s
              (retry r row.userId d signature) s' ∧ s'.store.Records d signature) := by
  have hs : InOrder sol s := (confirms_keeps sol).reachable (fun _ h => h.inOrder) hs
  refine ⟨fun _ _ => hs.1.credit_of, hs.1.creditedBy_le, fun d signature hd =>
    ⟨fun d' => hs.1.records_same hd, ?_⟩⟩
  obtain ⟨row, _, _, hrow, -⟩ := hs.1.posted d signature hd
  cases hsig : row.txSignature with
  | some from' =>
      -- what a row records is what it was credited from
      have hfrom := (hs.1.recorded d row hrow from' hsig).1
      exact .inl ⟨row, hrow, hsig.trans (hfrom.symm.trans hd)⟩
  | none =>
      exact .inr ⟨row, hrow, hs.1.waiting d row hrow signature hd hsig,
        fun r hfree hr => hs.retry_records hd hrow hsig hfree hr⟩

end Retry

/-! ### Two calls, one signature -/

/-- A transaction of wallet 4 that moved 1000000 lamports into the pool. -/
def depositTransaction : ParsedTransactionWithMeta :=
  ⟨7, none, some ⟨none, [9000000, 0], [7995000, 1000000], none, none⟩,
    [⟨.key 4, true⟩, ⟨.pool, false⟩], [.key 8]⟩

/-- A chain that has seen it. -/
def solana : Solana :=
  ⟨fun _ => "4y2eaLGzqmfFrMTAhVzruQ4BeuHsBZCdAR52FBFkJ9hc", .key 8, .pool,
    fun _ => depositTransaction⟩

/-- Before the first deposit. -/
def noDeposits : System Store Confirm :=
  ⟨⟨.empty, .empty, ⟨.empty, .empty⟩, .empty, .empty⟩, .empty⟩

theorem noDeposits_genesis : Genesis noDeposits :=
  ⟨rfl, rfl, rfl, fun _ _ => rfl, .empty, .empty, rfl⟩

/-- A call posts the credit and crashes, and its lock expires. -/
theorem one_credit_per_signature_retried : ∃ s : System Store Confirm,
    s.store.creditedFrom.get 0 = some "5sig" ∧ s.store.creditedBy "5sig" ≤ 1000000 ∧
      ∃ s', Run (Guarded (confirms solana).Step (FreshSignature solana)) s (retry 1 9 0 "5sig") s' ∧
        s'.store.Records 0 "5sig" := by
  let row : Deposit := ⟨9, .key 4, .pending, 1000000, none, none, none⟩
  let store : Store :=
    ⟨Table.empty.upd 0 row, .empty,
      ⟨Table.empty.upd .external ⟨.external, 0, 0, 0⟩, .empty⟩, .empty,
      .empty⟩
  let s₁ : System Store Confirm := ⟨store, Table.empty.upd 0 ⟨9, 0, "5sig", .acquireLock⟩⟩
  have hok : (solana.verify row "5sig").ok = true := by decide
  let step := Guarded (confirms solana).Step (FreshSignature solana)
  have hexternal : step noDeposits (.other (.account .external 0 0 0))
      ⟨{ store with deposits := .empty }, .empty⟩ := ⟨by rfl, trivial⟩
  have hcreate : step ⟨{ store with deposits := .empty }, .empty⟩
      (.other (.create 0 9 (.key 4) 1000000)) ⟨store, .empty⟩ := ⟨by rfl, trivial⟩
  have hstart : step ⟨store, .empty⟩ (.start 0 ⟨9, 0, "5sig", .acquireLock⟩) s₁ :=
    ⟨by rfl, trivial⟩
  have hrun₁ : Run step noDeposits _ s₁ := .cons hexternal (.cons hcreate (.one hstart))
  have hs₁ : InOrder solana s₁ :=
    (confirms_keeps solana).reachable (fun _ h => h.inOrder) ⟨_, _, noDeposits_genesis, hrun₁⟩
  have hp₁ : s₁.procs.get 0 = some ⟨9, 0, "5sig", .acquireLock⟩ := rfl
  obtain ⟨s₂, h₂, hs₂, e₂, hp₂, f₂⟩ := InOrder.advance hs₁ hp₁ .findDeposit
    (.trivially hp₁ fun _ => by simp) rfl
  obtain ⟨s₃, h₃, hs₃, e₃, hp₃, f₃⟩ := InOrder.advance hs₂ hp₂ (.findSignature row)
    (.trivially hp₂ fun _ => by simp) (by rw [e₂]; rfl)
  obtain ⟨s₄, h₄, hs₄, e₄, hp₄, f₄⟩ := InOrder.advance hs₃ hp₃ (.getTransaction row)
    (.trivially hp₃ fun _ => by simp) (by rw [e₃]; rfl)
  have alone : ∀ r' ≠ 0, s₄.procs.get r' = none := fun r' hne => by
    rw [f₄ r' hne, f₃ r' hne, f₂ r' hne]
    exact Table.get_upd_other hne
  have hfresh : FreshSignature solana s₄ (.resume 0 .ok) := by
    intro p deposit hp _
    rw [e₄]
    refine ⟨nofun, fun _ => ⟨nofun, fun r' q hq => ?_⟩⟩
    by_cases hr' : r' = 0
    · subst hr'
      obtain rfl := Option.some.inj (hp.symm.trans hq)
      exact fun _ _ => rfl
    · exact nomatch (alone r' hr').symm.trans hq
  obtain ⟨s₅, h₅, hs₅, e₅, hp₅, f₅⟩ := InOrder.advance hs₄ hp₄
    (.findCustody row (solana.verify row "5sig")) hfresh (by simp [Confirm.resume, hok]; rfl)
  obtain ⟨s₆, h₆, hs₆, e₆, hp₆, f₆⟩ := InOrder.advance hs₅ hp₅
    (.postCredit row (solana.verify row "5sig")) (.trivially hp₅ fun _ => by simp)
    (by rw [e₅, e₄]; rfl)
  obtain ⟨s₇, h₇, hs₇, e₇, hp₇, f₇⟩ := InOrder.advance hs₆ hp₆
    (.markConfirmed row (solana.verify row "5sig")) (.trivially hp₆ fun _ => by simp)
    (by rw [e₆]; rfl)
  -- the call crashes, and its lock expires
  let s₈ : System Store Confirm := ⟨s₇.store, s₇.procs.del 0⟩
  let s₉ : System Store Confirm := ⟨{ s₇.store with locks := s₇.store.locks.del 0 }, s₈.procs⟩
  have h₈ : Guarded (confirms solana).Step (FreshSignature solana) s₇ (.crash 0) s₈ := by
    refine ⟨?_, trivial⟩
    simp [Processes.Step, Processes.act, hp₇, s₈]
  have h₉ : Guarded (confirms solana).Step (FreshSignature solana) s₈
      (.other (.lockExpired 0)) s₉ := by
    have hlock : s₇.store.locks.get 0 = some 0 := by
      rw [e₇]
      rfl
    refine ⟨?_, fun r hr => ?_⟩
    · simp [Processes.Step, Processes.act, confirms, outside, hlock, s₈, s₉]
    · obtain rfl := Option.some.inj (hlock.symm.trans hr)
      exact Table.get_del_same _ _
  have hs₉ : Reachable (Guarded (confirms solana).Step (FreshSignature solana)) Genesis s₉ :=
    ⟨_, _, noDeposits_genesis, hrun₁.append (.cons h₂ (.cons h₃ (.cons h₄ (.cons h₅ (.cons h₆
      (.cons h₇ (.cons h₈ (.one h₉))))))))⟩
  have hd : s₉.store.creditedFrom.get 0 = some "5sig" := by
    show s₇.store.creditedFrom.get 0 = _
    rw [e₇]
    rfl
  have hrow : s₉.store.deposits.get 0 = some row := by
    show s₇.store.deposits.get 0 = _
    rw [e₇]
    rfl
  obtain ⟨-, hle, hrecord⟩ := one_credit_per_signature hs₉
  have hmoved : (solana.moved "5sig").toNat = 1000000 := by decide
  refine ⟨s₉, hd, hmoved ▸ hle "5sig", ?_⟩
  obtain ⟨-, ⟨row', hrow', hsig⟩ | ⟨row', hrow', -, hretry⟩⟩ := hrecord 0 "5sig" hd
  · obtain rfl := Option.some.inj (hrow.symm.trans hrow')
    cases hsig
  · obtain rfl := Option.some.inj (hrow.symm.trans hrow')
    refine hretry 1 (Table.get_del_same _ _) ?_
    show (s₇.procs.del 0).get 1 = none
    rw [Table.get_del_other one_ne_zero, f₇ 1 one_ne_zero, f₆ 1 one_ne_zero, f₅ 1 one_ne_zero]
    exact alone 1 one_ne_zero

/-- Two intents of one user, confirmed with one signature: both calls look the signature up
before either writes it, and both credit. -/
theorem one_credit_per_signature_two_intents : ¬ ∀ (sol : Solana) (s : System Store Confirm),
    Reachable (confirms sol).Step Genesis s →
      ∀ signature, s.store.creditedBy signature ≤ (sol.moved signature).toNat := by
  intro hclaim
  have run : ((confirms solana).acts noDeposits
      ([.other (.account .external 0 0 0), .other (.create 0 9 (.key 4) 1000000),
        .other (.create 1 9 (.key 4) 1000000), .start 0 ⟨9, 0, "5sig", .acquireLock⟩,
        .start 1 ⟨9, 1, "5sig", .acquireLock⟩] ++ List.replicate 6 (.resume 0 .ok) ++
        List.replicate 6 (.resume 1 .ok))).any (fun s =>
      decide (s.store.creditedFrom.get 0 = some "5sig") &&
        decide (s.store.creditedFrom.get 1 = some "5sig") &&
        decide (s.store.credit 0 = 1000000) && decide (s.store.credit 1 = 1000000)) = true := by
    decide
  obtain ⟨s, hs, htest⟩ := (Option.any_eq_true _ _).mp run
  simp only [Bool.and_eq_true, decide_eq_true_iff] at htest
  obtain ⟨⟨⟨h₀, h₁⟩, hc₀⟩, hc₁⟩ := htest
  have hle := hclaim solana s ⟨_, _, noDeposits_genesis, (confirms solana).run_of_acts hs⟩ "5sig"
  have hmoved : (solana.moved "5sig").toNat = 1000000 := by decide
  have htwo : _ ≤ s.store.creditedBy "5sig" := Table.parts_le_total _ _ one_ne_zero
  rw [Table.part_of_get h₀, Table.part_of_get h₁, if_pos rfl, if_pos rfl, hc₀, hc₁] at htwo
  omega

end SnakeArena.Gateway
