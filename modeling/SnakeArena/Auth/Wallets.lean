import SnakeArena.Auth.Steps
import SnakeArena.Library.Rows
import SnakeArena.Worker.Entrants

/-!
# Auth — a verified wallet was proven

Two sign-in flows share the helper that stamps `verifiedAt`, and one of them checks no signature.
What reads the stamp as a proof of ownership are the withdrawal intent and the payout of a prize
(`withdrawalWallet`, `Wallet.row`).

A call knows that it stamps an address whose signature was checked (`Point.Proven`), and
`verified_proven` that every stamp is of one, in a run where `connectWallet` only reaches such.
-/

namespace SnakeArena.Auth
open SnakeArena.Library SnakeArena.Program

def notFound (resource : String) : AppError := ⟨404, "NOT_FOUND", resource ++ " not found"⟩

/-- The wallet that `createWithdrawalIntent` pays. -/
def withdrawalWallet (s : Store) (userId walletId : ℕ) : Except AppError String :=
  match s.wallets.find? (·.id = walletId) with
  | none => .error (notFound "Wallet")
  | some wallet =>
      if wallet.userId ≠ userId then .error (notFound "Wallet")
      else if wallet.verifiedAt.isNone then
        .error (forbidden "Wallet ownership has not been verified")
      else .ok wallet.address

/-- The row as settlement reads it, its address as the key that it is the text of. -/
def Wallet.row (toPublicKey : String → Pubkey) (w : Wallet) : Db.Wallet :=
  ⟨w.userId, toPublicKey w.address, w.isPrimary, w.verifiedAt, w.createdAt⟩

/-- A call of `verifyWalletSignature` checked a signature of the address, over a challenge that was
issued for it. -/
def Store.Proven (deps : AuthDeps) (s : Store) (address : String) : Prop :=
  address ∈ s.history.proven ∧ ∃ record signature, (address, record) ∈ s.history.issued ∧
    deps.nacl.verifySignature (deps.message address record) signature address = true

/-- A connected wallet is stamped only when its signature has been checked before. -/
def Point.ConnectsProven (s : Store) : Point → Prop
  | .stampOwner (.connecting _) wallet _ _ => wallet.address ∈ s.history.proven
  | .createOwner (.connecting _) address _ => address ∈ s.history.proven
  | _ => True

instance (s : Store) : DecidablePred (Point.ConnectsProven s) := fun point => by
  unfold Point.ConnectsProven
  rcases point with _ | _ | _ | _ | ⟨_ | _, _⟩ | ⟨_ | _, _⟩
  all_goals infer_instance

def ConnectsProven (s : System Store Call) : Act Call Answer Outside → Prop
  | .resume r (.ok _ _ _) =>
      match s.procs.get r with
      | some p => p.point.ConnectsProven s.store
      | none => True
  | _ => True

instance (s : System Store Call) : DecidablePred (ConnectsProven s) := fun a => by
  unfold ConnectsProven
  rcases a with _ | ⟨r, _ | _⟩ | _ | _ <;> dsimp only
  on_goal 2 => rcases s.procs.get r
  all_goals infer_instance

/-! ### The stamps -/

structure Store.Stamped (deps : AuthDeps) (s : Store) : Prop where
  held : s.nonces.All fun wallet held => (wallet, held.record) ∈ s.history.issued
  proven : ∀ address ∈ s.history.proven, s.Proven deps address
  ids : UniqueKeys Wallet.id s.wallets
  stamped : ∀ w ∈ s.wallets, w.verifiedAt.isSome = true → w.address ∈ s.history.proven

/-- The owner of an address is looked up by a call that checked its signature, or connects. -/
def Flow.Proven (s : Store) (address : String) : Flow → Prop
  | .signing _ => address ∈ s.history.proven
  | .connecting _ => True

/-- What a call knows where it waits. -/
def Point.Proven (s : Store) : Point → Prop
  | .findOwner flow address _ | .createOwner flow address _ => flow.Proven s address
  | .stampOwner flow wallet _ _ =>
      flow.Proven s wallet.address ∧ ∃ w ∈ s.wallets, w.id = wallet.id ∧ w.address = wallet.address
  | _ => True

/-- What is proven stays proven, and a row keeps its address. -/
structure Store.Proves (s s' : Store) : Prop where
  proven : s.history.proven ⊆ s'.history.proven
  rows : ∀ w ∈ s.wallets, ∃ w' ∈ s'.wallets, w'.id = w.id ∧ w'.address = w.address

section Stamps
variable {deps : AuthDeps} {s s' : Store} {p : Call}

theorem Store.Proves.of_eq (h : s'.history.proven = s.history.proven)
    (hw : s'.wallets = s.wallets) : s.Proves s' :=
  ⟨h ▸ List.Subset.refl _, fun w hmem => ⟨w, hw ▸ hmem, rfl, rfl⟩⟩

theorem Flow.Proven.later {flow : Flow} {address : String} (h : flow.Proven s address)
    (hs : s.Proves s') : flow.Proven s' address := by
  cases flow with
  | signing attempt => exact hs.proven h
  | connecting nickname => trivial

theorem Point.Proven.later {point : Point} (h : point.Proven s) (hs : s.Proves s') :
    point.Proven s' := by
  cases point with
  | findOwner flow address now => exact Flow.Proven.later h hs
  | createOwner flow address now => exact Flow.Proven.later h hs
  | stampOwner flow wallet user now =>
      obtain ⟨hflow, w, hw, hid, haddress⟩ := h
      obtain ⟨w', hw', hid', haddress'⟩ := hs.rows w hw
      exact ⟨hflow.later hs, w', hw', hid'.trans hid, haddress'.trans haddress⟩
  | _ => trivial

theorem Flow.Next.proven {flow : Flow} {point : Point} (h : flow.Next point) : point.Proven s := by
  cases h <;> trivial

/-- A step that touches neither challenges nor wallets. -/
theorem Store.Stamped.of_eq (h : s.Stamped deps) (hn : s'.nonces = s.nonces)
    (hw : s'.wallets = s.wallets) (hi : s'.history.issued = s.history.issued)
    (hp : s'.history.proven = s.history.proven) : s'.Stamped deps where
  held := by rw [hn, hi]; exact h.held
  proven address ha := by
    rw [hp] at ha
    obtain ⟨-, record, signature, hissued, hsig⟩ := h.proven address ha
    exact ⟨hp ▸ ha, record, signature, hi ▸ hissued, hsig⟩
  ids := by rw [hw]; exact h.ids
  stamped w hmem := by rw [hp]; exact h.stamped w (hw ▸ hmem)

theorem Store.Stamped.getdel (h : s.Stamped deps) (wallet : String) :
    (s.getdel wallet).Stamped deps where
  held := h.held.del
  proven := h.proven
  ids := h.ids
  stamped := h.stamped

theorem Store.Stamped.setNonce (h : s.Stamped deps) (wallet : String) (record : NonceRecord) :
    (s.setNonce wallet record).Stamped deps where
  held := h.held.upd_frame (fun _ _ _ hv => List.mem_append_left _ hv) (by simp [Store.setNonce])
  proven address ha := by
    obtain ⟨ha, record', signature, hissued, hsig⟩ := h.proven address ha
    exact ⟨ha, record', signature, List.mem_append_left _ hissued, hsig⟩
  ids := h.ids
  stamped := h.stamped

theorem Store.wallet_some {address : String} {w : Wallet} (h : s.wallet address = some w) :
    w ∈ s.wallets ∧ w.address = address :=
  ⟨List.mem_of_find?_eq_some h, by simpa using List.find?_some h⟩

theorem Store.Stamped.prove (h : s.Stamped deps) {wallet : String} {record : NonceRecord}
    {signature : String} (hissued : (wallet, record) ∈ s.history.issued)
    (hsig : deps.nacl.verifySignature (deps.message wallet record) signature wallet = true) :
    (s.prove wallet).Stamped deps where
  held := h.held
  proven address ha := by
    obtain rfl | ha := List.mem_cons.mp ha
    · exact ⟨List.mem_cons_self, record, signature, hissued, hsig⟩
    · obtain ⟨ha, rest⟩ := h.proven address ha
      exact ⟨List.mem_cons_of_mem _ ha, rest⟩
  ids := h.ids
  stamped w hw hv := List.mem_cons_of_mem _ (h.stamped w hw hv)

theorem Store.Stamped.stamp (h : s.Stamped deps) {wallet : Wallet} {row : User} {now : ℕ}
    (haddress : wallet.address ∈ s.history.proven)
    (hrow : ∃ w ∈ s.wallets, w.id = wallet.id ∧ w.address = wallet.address) :
    (s.stamp wallet row now).Stamped deps where
  held := h.held
  proven := h.proven
  ids := h.ids.map fun w => by split <;> rfl
  stamped w hw hv := by
    obtain ⟨v, hv', rfl⟩ := List.mem_map.mp hw
    split at hv
    case isTrue hid =>
        -- the row of that id is the one that was read
        obtain ⟨w', hw', hid', haddress'⟩ := hrow
        obtain rfl := List.inj_on_of_nodup_map h.ids hv' hw' (hid.trans hid'.symm)
        rw [if_pos hid]
        exact haddress'.symm ▸ haddress
    case isFalse hid =>
        rw [if_neg hid]
        exact h.stamped v hv' hv

theorem Store.Stamped.createOwner (h : s.Stamped deps) {userId walletId : ℕ} {user : User}
    {address : String} {now : ℕ} (haddress : address ∈ s.history.proven)
    (hnew : ∀ w ∈ s.wallets, w.id ≠ walletId ∧ w.address ≠ address) :
    (s.createOwner userId walletId user address now).Stamped deps where
  held := h.held
  proven := h.proven
  ids := h.ids.append fun w hw => (hnew w hw).1
  stamped w hw hv := by
    obtain hw | hw := List.mem_append.mp hw
    · exact h.stamped w hw hv
    · obtain rfl := List.mem_singleton.mp hw
      exact haddress

/-- A step keeps the stamps, when it stamps a connected wallet only after its signature. -/
theorem Call.Outcome.stamped {a : Answer} {next : Option Call} (h : p.Outcome deps s a s' next)
    (hs : s.Stamped deps) (hp : p.point.Proven s) (hconnects : p.point.ConnectsProven s) :
    (s'.Stamped deps ∧ s.Proves s') ∧ ∀ p', next = some p' → p'.point.Proven s' := by
  have frame : s'.nonces = s.nonces → s'.wallets = s.wallets →
      s'.history.issued = s.history.issued → s'.history.proven = s.history.proven →
        s'.Stamped deps ∧ s.Proves s' :=
    fun hn hw hi hpr => ⟨hs.of_eq hn hw hi hpr, .of_eq hpr hw⟩
  have ends : ∀ p' : Call, none = some p' → p'.point.Proven s' := fun _ e => nomatch e
  cases h with
  | answers => exact ⟨frame rfl rfl rfl rfl, ends⟩
  | draws => exact ⟨frame rfl rfl rfl rfl, by rintro _ ⟨⟩; trivial⟩
  | verifies | rotates | leaves => exact ⟨frame rfl rfl rfl rfl, by rintro _ ⟨⟩; trivial⟩
  | connects => exact ⟨frame rfl rfl rfl rfl, by rintro _ ⟨⟩; trivial⟩
  | issues => exact ⟨⟨(hs.setNonce _ _).of_eq rfl rfl rfl rfl, .of_eq rfl rfl⟩, ends⟩
  | misses | refuses => exact ⟨⟨(hs.getdel _).of_eq rfl rfl rfl rfl, .of_eq rfl rfl⟩, ends⟩
  | @proves _ wallet _ _ _ _ hpt hrecord _ _ hsig =>
      obtain ⟨held, hheld, rfl, -⟩ := Store.challenge_held hrecord
      have htaken : ∀ attempt, Store.Stamped deps ((s.getdel wallet).attempt attempt) :=
        fun _ => (hs.getdel wallet).of_eq rfl rfl rfl rfl
      refine ⟨⟨(htaken _).prove (hs.held _ _ hheld) hsig, fun _ h => List.mem_cons_of_mem _ h,
        fun w hw => ⟨w, hw, rfl, rfl⟩⟩, ?_⟩
      rintro _ ⟨⟩
      exact List.mem_cons_self
  | findsOwner hpt hwallet =>
      rw [hpt] at hp
      refine ⟨frame rfl rfl rfl rfl, ?_⟩
      rintro _ ⟨⟩
      obtain ⟨hmem, rfl⟩ := Store.wallet_some hwallet
      exact ⟨hp, _, hmem, rfl, rfl⟩
  | findsNobody hpt =>
      rw [hpt] at hp
      refine ⟨frame rfl rfl rfl rfl, ?_⟩
      rintro _ ⟨⟩
      exact hp
  | @stamps _ flow wallet _ row now _ _ hpt hsigns =>
      rw [hpt] at hp hconnects
      obtain ⟨hflow, hrow⟩ := hp
      have haddress : wallet.address ∈ s.history.proven := by
        cases flow with
        | signing attempt => exact hflow
        | connecting nickname => exact hconnects
      have hstamped : Store.Stamped deps (s.stamp wallet row now) := hs.stamp haddress hrow
      have hproves : s.Proves (s.stamp wallet row now) := by
        refine ⟨List.Subset.refl _, fun w hw => ⟨_, List.mem_map_of_mem hw, ?_, ?_⟩⟩ <;>
          split <;> rfl
      cases hsigns with
      | refused => exact ⟨⟨hstamped.of_eq rfl rfl rfl rfl, hproves.proven, hproves.rows⟩, ends⟩
      | goes hnext =>
          refine ⟨⟨hstamped, hproves⟩, ?_⟩
          rintro _ ⟨⟩
          exact hnext.proven
  | @creates _ flow address now userId walletId user _ _ hpt hnew hsigns =>
      rw [hpt] at hp hconnects
      have haddress : address ∈ s.history.proven := by
        cases flow with
        | signing attempt => exact hp
        | connecting nickname => exact hconnects
      have hstamped : Store.Stamped deps (s.createOwner userId walletId user address now) :=
        hs.createOwner haddress hnew
      have hproves : s.Proves (s.createOwner userId walletId user address now) :=
        ⟨List.Subset.refl _, fun w hw => ⟨w, List.mem_append_left _ hw, rfl, rfl⟩⟩
      cases hsigns with
      | refused => exact ⟨⟨hstamped.of_eq rfl rfl rfl rfl, hproves.proven, hproves.rows⟩, ends⟩
      | goes hnext =>
          refine ⟨⟨hstamped, hproves⟩, ?_⟩
          rintro _ ⟨⟩
          exact hnext.proven
  | renames => exact ⟨frame rfl rfl rfl rfl, by rintro _ ⟨⟩; trivial⟩
  | drafts => exact ⟨frame rfl rfl rfl rfl, by rintro _ ⟨⟩; trivial⟩
  | inserts | turnsAway | burns | ends => exact ⟨frame rfl rfl rfl rfl, ends⟩
  | spent | accepted | revokes => exact ⟨frame rfl rfl rfl rfl, by rintro _ ⟨⟩; trivial⟩

/-- Every step keeps the stamps, in a run that meets `ConnectsProven`. -/
theorem calls_stamped (deps : AuthDeps) :
    (calls deps).Keeps ConnectsProven (Store.Stamped deps) (fun s _ p => p.point.Proven s)
      fun _ _ => True := by
  refine .of_leads (R := fun (s s' : Store) => s'.Stamped deps ∧ s.Proves s')
    (K := fun s (p : Call) => p.point.Proven s) (fun _ _ h => h.1)
    (fun _ _ _ h hp => hp.later h.2) ?_ ?_ ?_
  · intro s p hstarts
    rw [(calls_starts hstarts).1]
    trivial
  · intro s r p c hs hp hknows hconnects
    cases c with
    | throw => exact .ends ⟨hs.of_eq rfl rfl rfl rfl, .of_eq rfl rfl⟩
    | ok random uuid uuid' =>
        simp only [ConnectsProven, hp] at hconnects
        exact (Call.resume_outcome deps r s.store p _).stamped hs hknows hconnects
  · intro s e store hs _ he
    cases e with
    | tick clock =>
        simp only [calls, outside, Option.ite_none_right_eq_some] at he
        obtain rfl := Option.some.inj he.2
        exact ⟨hs.of_eq rfl rfl rfl rfl, .of_eq rfl rfl⟩
    | sign wallet message =>
        obtain rfl := Option.some.inj he
        exact ⟨hs.of_eq rfl rfl rfl rfl, .of_eq rfl rfl⟩
    | user userId row =>
        obtain rfl := Option.some.inj he
        exact ⟨hs.of_eq rfl rfl rfl rfl, .of_eq rfl rfl⟩

theorem Genesis.stamped {s : System Store Call} (h : Genesis s) : s.store.Stamped deps := by
  obtain ⟨hnonces, -, hwallets, -, hhistory, -⟩ := h
  refine ⟨?_, ?_, ?_, ?_⟩
  · rw [hnonces]
    exact .empty
  · rw [hhistory]
    exact nofun
  · rw [hwallets]
    exact .nil
  · rw [hwallets]
    exact nofun

end Stamps

/-! ### What the readers pay -/

section Readers
variable {deps : AuthDeps} {s : Store}

theorem withdrawalWallet_ok {userId walletId : ℕ} {address : String}
    (h : withdrawalWallet s userId walletId = .ok address) :
    ∃ w ∈ s.wallets, w.address = address ∧ w.verifiedAt.isSome = true := by
  unfold withdrawalWallet at h
  split at h
  · cases h
  next w hw =>
      split_ifs at h with huser hverified
      obtain rfl := Except.ok.inj h
      exact ⟨w, List.mem_of_find?_eq_some hw, rfl,
        by simpa [Option.isSome_iff_ne_none] using hverified⟩

/-- **A verified wallet was proven**, in every run where `connectWallet` only reaches wallets whose
signature was checked before; and so was every wallet that a withdrawal or a prize is paid to. -/
theorem verified_proven {s : System Store Call}
    (hs : Reachable (Guarded (calls deps).Step ConnectsProven) Genesis s) :
    (∀ w ∈ s.store.wallets, w.verifiedAt ≠ none → s.store.Proven deps w.address) ∧
    (∀ userId walletId address, withdrawalWallet s.store userId walletId = .ok address →
      s.store.Proven deps address) ∧
    ∀ toPublicKey userIds userId key,
      Worker.resolveWallets (s.store.wallets.map (·.row toPublicKey)) userIds userId = some key →
        ∃ address, toPublicKey address = key ∧ s.store.Proven deps address := by
  obtain ⟨hstamped, -⟩ := (calls_stamped deps).reachable (fun s h => ⟨h.stamped, by
    rw [h.2.2.2.2.2]; exact .empty, fun _ _ _ _ _ _ _ => trivial⟩) hs
  have hproven : ∀ w ∈ s.store.wallets, w.verifiedAt.isSome = true →
      s.store.Proven deps w.address :=
    fun w hw hv => hstamped.proven _ (hstamped.stamped w hw hv)
  refine ⟨fun w hw hv => hproven w hw (Option.isSome_iff_ne_none.mpr hv), ?_, ?_⟩
  · intro userId walletId address h
    obtain ⟨w, hw, rfl, hv⟩ := withdrawalWallet_ok h
    exact hproven w hw hv
  · intro toPublicKey userIds userId key h
    obtain ⟨row, hrow, -, rfl, hv⟩ := Worker.resolveWallets_some h
    obtain ⟨w, hw, rfl⟩ := List.mem_map.mp hrow
    exact ⟨w.address, rfl, hproven w hw hv⟩

/-- A wallet signs in, and connects later. -/
theorem verified_proven_connected : ∃ s : System Store Call,
    ∃ w ∈ s.store.wallets, w.verifiedAt ≠ none ∧ s.store.Proven gateway w.address := by
  have run : ((calls gateway).actsWhen ConnectsProven noSessions
      (called 0 (.issueNonce address) (List.replicate 2 ("n0", 0, 0)) ++
        called 1 (.verifyWalletSignature address signature "n0") (List.replicate 6 ("r0", 1, 2)) ++
        called 2 (.connectWallet address (some "Ann")) (List.replicate 4 ("r1", 3, 4)))).any
      (fun s => s.store.wallets.any (·.verifiedAt.isSome)) = true := by
    decide
  obtain ⟨s, hs, htest⟩ := (calls gateway).reachable_of_actsWhen noSessions_genesis run
  obtain ⟨w, hw, hv⟩ := List.any_eq_true.mp htest
  have hne : w.verifiedAt ≠ none := Option.isSome_iff_ne_none.mp hv
  exact ⟨s, w, hw, hne, (verified_proven hs).1 w hw hne⟩

/-- Nobody signs anything: `connectWallet` stamps the address all the same. -/
theorem verified_proven_unsigned : ¬ ∀ (deps : AuthDeps) (s : System Store Call),
    Reachable (calls deps).Step Genesis s →
      ∀ w ∈ s.store.wallets, w.verifiedAt ≠ none → s.store.Proven deps w.address := by
  intro hclaim
  have run : ((calls gateway).acts noSessions
      (called 0 (.connectWallet address none) (List.replicate 3 ("r0", 1, 2)))).any (fun s =>
        s.store.wallets.any (·.verifiedAt.isSome) && s.store.history.proven.isEmpty) = true := by
    decide
  obtain ⟨s, hs, htest⟩ := (calls gateway).reachable_of_acts noSessions_genesis run
  simp only [Bool.and_eq_true, List.any_eq_true, List.isEmpty_iff] at htest
  obtain ⟨⟨w, hw, hv⟩, hnone⟩ := htest
  have hproven := (hclaim gateway s hs w hw (Option.isSome_iff_ne_none.mp hv)).1
  rw [hnone] at hproven
  exact nomatch hproven

end Readers

end SnakeArena.Auth
