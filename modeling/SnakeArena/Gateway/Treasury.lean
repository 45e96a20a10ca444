import SnakeArena.Books.DoubleEntry
import SnakeArena.Library.Rows

/-!
# Gateway — the treasury's alarms

`services/admin-treasury.ts`, and `checkLedgerInvariant` of `services/reconciler.ts`.  Each report
is put together from several reads, and transactions commit between them: a read is of the
database that is committed then.

The double entry makes every committed database balance on its own, so it does not matter that
the totals are read apart: each of them is zero (`poolTotal_zero`, `ledgerTotal_zero`).  The scan
of recent groups is another matter, for a time bound and a row limit cut it.

* `no_false_alarms`: where every group that a scan returns a leg of is returned whole, no report
  shows a drift, or an imbalanced group.
-/

namespace SnakeArena.Gateway
open SnakeArena.Library SnakeArena.Db SnakeArena.Books

/-! ### The arithmetic -/

structure PoolTotals where
  playerCustody : ℤ
  escrow : ℤ
  treasury : ℤ
  rake : ℤ
  rewards : ℤ
  external : ℤ
  /-- Every pool summed, the external one included. -/
  total : ℤ
deriving DecidableEq

def PoolTotals.zero : PoolTotals := ⟨0, 0, 0, 0, 0, 0, 0⟩

/-- Adds a row to the bucket of its kind. -/
def PoolTotals.add (totals : PoolTotals) (row : PoolAccountKind × ℤ) : PoolTotals :=
  let totals := { totals with total := totals.total + row.2 }
  match row.1 with
  | .userCustody => { totals with playerCustody := totals.playerCustody + row.2 }
  | .gameEscrow => { totals with escrow := totals.escrow + row.2 }
  | .treasury => { totals with treasury := totals.treasury + row.2 }
  | .rake => { totals with rake := totals.rake + row.2 }
  | .rewards => { totals with rewards := totals.rewards + row.2 }
  | .external => { totals with external := totals.external + row.2 }

/-- Buckets pool balances by kind. -/
def sumPoolsByKind (rows : List (PoolAccountKind × ℤ)) : PoolTotals :=
  rows.foldl PoolTotals.add .zero

/-- Whether the pool on chain covers what is owed to players, when it is known. -/
def custodyCoverage (onchainPool : Option ℤ) (totals : PoolTotals) : Option ℤ × Option Bool :=
  match onchainPool with
  | none => (none, none)
  | some onchainPool =>
      let coverage := onchainPool - (totals.playerCustody + totals.escrow)
      (some coverage, some (decide (0 ≤ coverage)))

def signedAmount (direction : TransactionDirection) (amount : ℤ) : ℤ :=
  if direction = .credit then amount else -amount

structure EntryGroupDrift where
  entryGroupId : ℕ
  drift : ℤ
deriving DecidableEq

structure ScannedLeg where
  entryGroupId : ℕ
  direction : TransactionDirection
  amount : ℤ

/-- A `Map` from groups to sums, in the order of their first legs: an amount is added. -/
def addTo : List EntryGroupDrift → ℕ → ℤ → List EntryGroupDrift
  | [], g, amount => [⟨g, amount⟩]
  | x :: rest, g, amount =>
      if x.entryGroupId = g then ⟨g, x.drift + amount⟩ :: rest else x :: addTo rest g amount

def sumByGroup (legs : List ScannedLeg) : List EntryGroupDrift :=
  legs.foldl
    (fun byGroup leg => addTo byGroup leg.entryGroupId (signedAmount leg.direction leg.amount)) []

/-- The largest drift first. -/
def EntryGroupDrift.before (a b : EntryGroupDrift) : Bool :=
  if a.drift.natAbs = b.drift.natAbs then decide (a.entryGroupId ≤ b.entryGroupId)
  else decide (b.drift.natAbs < a.drift.natAbs)

/-- Finds entry groups whose legs do not sum to zero. -/
def findImbalancedGroups (legs : List ScannedLeg) : List EntryGroupDrift :=
  ((sumByGroup legs).filter (·.drift ≠ 0)).insertionSort (EntryGroupDrift.before · ·)

/-- The sums by kind add up to the sum of all. -/
theorem sumPoolsByKind_total (rows : List (PoolAccountKind × ℤ)) :
    (sumPoolsByKind rows).total = (rows.map Prod.snd).sum := by
  have hfold : ∀ totals : PoolTotals,
      (rows.foldl PoolTotals.add totals).total = totals.total + (rows.map Prod.snd).sum := by
    induction rows with
    | nil => simp
    | cons row rows ih =>
        intro totals
        have hadd : (totals.add row).total = totals.total + row.2 := by
          obtain ⟨kind, balance⟩ := row
          cases kind <;> rfl
        rw [List.foldl_cons, ih, hadd, List.map_cons, List.sum_cons, add_assoc]
  rw [sumPoolsByKind, hfold, PoolTotals.zero, zero_add]

/-! ### Groups -/

/-- A group is listed once it has a leg. -/
theorem addTo_keys (m : List EntryGroupDrift) (g : ℕ) (amount : ℤ) {g' : ℕ} :
    g' ∈ (addTo m g amount).map (·.entryGroupId) ↔ g' = g ∨ g' ∈ m.map (·.entryGroupId) := by
  induction m with
  | nil => simp [addTo]
  | cons x rest ih =>
      by_cases e : x.entryGroupId = g
      · subst e
        simp [addTo]
      · simp only [addTo, if_neg e, List.map_cons, List.mem_cons, ih]
        exact or_left_comm

/-- A group is listed once. -/
theorem addTo_nodup {m : List EntryGroupDrift} (h : UniqueKeys EntryGroupDrift.entryGroupId m)
    (g : ℕ) (amount : ℤ) : UniqueKeys EntryGroupDrift.entryGroupId (addTo m g amount) := by
  induction m with
  | nil => simp [UniqueKeys, addTo]
  | cons x rest ih =>
      obtain ⟨hx, hrest⟩ := List.nodup_cons.mp h
      by_cases e : x.entryGroupId = g
      · subst e
        simp only [addTo, if_true]
        exact List.nodup_cons.mpr ⟨hx, hrest⟩
      · simp only [addTo, if_neg e]
        refine List.nodup_cons.mpr ⟨fun hmem => ?_, ih hrest⟩
        rcases (addTo_keys rest g amount).mp hmem with h' | h'
        · exact e h'
        · exact hx h'

/-- What an entry of the map becomes. -/
theorem mem_addTo {m : List EntryGroupDrift} (h : UniqueKeys EntryGroupDrift.entryGroupId m) {g : ℕ}
    {amount : ℤ} {y : EntryGroupDrift} (hy : y ∈ addTo m g amount) :
    y ∈ m ∧ y.entryGroupId ≠ g ∨
      y.entryGroupId = g ∧ (y.drift = amount ∧ (∀ x ∈ m, x.entryGroupId ≠ g) ∨
        ∃ x ∈ m, x.entryGroupId = g ∧ y.drift = x.drift + amount) := by
  induction m with
  | nil =>
      obtain rfl : y = ⟨g, amount⟩ := by simpa [addTo] using hy
      exact .inr ⟨rfl, .inl ⟨rfl, nofun⟩⟩
  | cons x rest ih =>
      obtain ⟨hx, hrest⟩ := List.nodup_cons.mp h
      by_cases e : x.entryGroupId = g
      · subst e
        simp only [addTo, if_true, List.mem_cons] at hy
        rcases hy with rfl | hy
        · exact .inr ⟨rfl, .inr ⟨x, List.mem_cons_self, rfl, rfl⟩⟩
        · exact .inl ⟨List.mem_cons_of_mem _ hy, fun e => hx (e ▸ List.mem_map_of_mem hy)⟩
      · simp only [addTo, if_neg e, List.mem_cons] at hy
        rcases hy with rfl | hy
        · exact .inl ⟨List.mem_cons_self, e⟩
        · rcases ih hrest hy with ⟨hmem, hne⟩ | ⟨hg, ⟨hdrift, hnone⟩ | ⟨x', hx', hg', hdrift⟩⟩
          · exact .inl ⟨List.mem_cons_of_mem _ hmem, hne⟩
          · refine .inr ⟨hg, .inl ⟨hdrift, fun x' hx' => ?_⟩⟩
            rcases List.mem_cons.mp hx' with rfl | hx'
            · exact e
            · exact hnone x' hx'
          · exact .inr ⟨hg, .inr ⟨x', List.mem_cons_of_mem _ hx', hg', hdrift⟩⟩

def ScannedLeg.signed (leg : ScannedLeg) : ℤ := signedAmount leg.direction leg.amount

/-- What the legs of a group sum to. -/
def driftOf (g : ℕ) (legs : List ScannedLeg) : ℤ :=
  ((legs.filter (·.entryGroupId = g)).map ScannedLeg.signed).sum

/-- A group drifts by each of its legs. -/
theorem driftOf_append (g : ℕ) (legs : List ScannedLeg) (leg : ScannedLeg) :
    driftOf g (legs ++ [leg]) =
      driftOf g legs + if leg.entryGroupId = g then leg.signed else 0 := by
  rw [driftOf, List.filter_append, List.map_append, List.sum_append, List.filter_singleton]
  by_cases e : leg.entryGroupId = g <;> simp [e, driftOf]

/-- The map has every group once, with what its legs sum to. -/
theorem sumByGroup_spec (legs : List ScannedLeg) :
    UniqueKeys EntryGroupDrift.entryGroupId (sumByGroup legs) ∧
      (∀ g, g ∈ (sumByGroup legs).map (·.entryGroupId) ↔ g ∈ legs.map (·.entryGroupId)) ∧
      ∀ x ∈ sumByGroup legs, x.drift = driftOf x.entryGroupId legs := by
  induction legs using List.reverseRecOn with
  | nil => exact ⟨List.nodup_nil, fun _ => Iff.rfl, nofun⟩
  | append_singleton legs leg ih =>
      obtain ⟨hnodup, hkeys, hdrift⟩ := ih
      have hstep : sumByGroup (legs ++ [leg]) =
          addTo (sumByGroup legs) leg.entryGroupId leg.signed := by
        rw [sumByGroup, List.foldl_append]
        rfl
      rw [hstep]
      refine ⟨addTo_nodup hnodup _ _, fun g => ?_, fun y hy => ?_⟩
      · rw [addTo_keys, hkeys, List.map_append, List.mem_append, or_comm]
        simp
      · rw [driftOf_append]
        rcases mem_addTo hnodup hy with ⟨hmem, hne⟩ | ⟨hg, ⟨hamount, hnone⟩ | ⟨x, hx, hg', hsum⟩⟩
        · rw [hdrift y hmem, if_neg (Ne.symm hne), add_zero]
        · -- the first leg of its group
          have hfresh : legs.filter (·.entryGroupId = y.entryGroupId) = [] := by
            refine List.filter_eq_nil_iff.mpr fun l hl => ?_
            intro e
            have hmem := (hkeys y.entryGroupId).mpr
              (List.mem_map.mpr ⟨l, hl, of_decide_eq_true e⟩)
            obtain ⟨x, hx, hxg⟩ := List.mem_map.mp hmem
            exact hnone x hx (hxg.trans hg)
          rw [driftOf, hfresh, hg, if_pos rfl, hamount]
          simp
        · rw [hsum, hdrift x hx, hg', hg, if_pos rfl]

/-- **A group is found exactly when its legs do not sum to zero.** -/
theorem findImbalancedGroups_eq_nil {legs : List ScannedLeg} :
    findImbalancedGroups legs = [] ↔ ∀ g, driftOf g legs = 0 := by
  obtain ⟨-, hkeys, hdrift⟩ := sumByGroup_spec legs
  have hsort : findImbalancedGroups legs = [] ↔ ∀ x ∈ sumByGroup legs, x.drift = 0 := by
    rw [findImbalancedGroups, ← List.length_eq_zero_iff, List.length_insertionSort,
      List.length_eq_zero_iff, List.filter_eq_nil_iff]
    simp
  rw [hsort]
  constructor
  · intro h g
    by_cases hg : g ∈ legs.map (·.entryGroupId)
    · obtain ⟨x, hx, rfl⟩ := List.mem_map.mp ((hkeys g).mpr hg)
      rw [← hdrift x hx, h x hx]
    · rw [driftOf, List.filter_eq_nil_iff.mpr, List.map_nil, List.sum_nil]
      exact fun l hl e => hg (List.mem_map.mpr ⟨l, hl, of_decide_eq_true e⟩)
  · exact fun h x hx => (hdrift x hx).trans (h _)

/-! ### The reports -/

def scanLimit : ℕ := 50000

structure SnapshotOptions where
  groupScanSince : ℕ
  maxGroups : Option ℕ

structure VaultBalances where
  treasury : ℤ
  pool : ℤ

/-- The reads of a snapshot that are answered. -/
structure SnapshotReads where
  poolRows : Option (List (PoolAccountKind × ℤ))
  directionTotals : Option (List (TransactionDirection × ℤ))
  recentLegs : Option (List ScannedLeg)
  /-- With the error where the chain cannot be read. -/
  chain : Option (Except String VaultBalances)

structure Onchain where
  treasuryLamports : Option ℤ
  poolLamports : Option ℤ
  fetchedAt : Option ℕ
  error : Option String

structure TreasurySnapshot where
  onchain : Onchain
  pools : PoolTotals
  ledgerTotal : ℤ
  ledgerDrift : ℤ
  ledgerBalanced : Bool
  custodyCoverage : Option ℤ
  custodySolvent : Option Bool
  imbalancedGroups : List EntryGroupDrift

structure InvariantCheck where
  balanced : Bool
  drift : ℤ
  poolTotal : ℤ
  ledgerTotal : ℤ

/-- The two sides of the ledger, signed. -/
def ledgerTotal (rows : List (TransactionDirection × ℤ)) : ℤ :=
  (rows.map fun row => signedAmount row.1 row.2).sum

def onchain (chain : Except String VaultBalances) (now : ℕ) : Onchain :=
  match chain with
  | .ok balances => ⟨some balances.treasury, some balances.pool, some now, none⟩
  | .error message => ⟨none, none, none, some message⟩

/-- What `buildTreasurySnapshot` answers from its reads. -/
def treasurySnapshot (options : SnapshotOptions) (poolRows : List (PoolAccountKind × ℤ))
    (directionTotals : List (TransactionDirection × ℤ)) (recentLegs : List ScannedLeg)
    (chain : Except String VaultBalances) (now : ℕ) : TreasurySnapshot :=
  let pools := sumPoolsByKind poolRows
  let total := ledgerTotal directionTotals
  let onchain := onchain chain now
  let coverage := custodyCoverage onchain.poolLamports pools
  { onchain
    pools
    ledgerTotal := total
    ledgerDrift := pools.total - total
    ledgerBalanced := decide (pools.total - total = 0)
    custodyCoverage := coverage.1
    custodySolvent := coverage.2
    imbalancedGroups := (findImbalancedGroups recentLegs).take (options.maxGroups.getD 50) }

/-- What `checkLedgerInvariant` answers from its reads. -/
def invariantCheck (poolTotal : ℤ) (directionTotals : List (TransactionDirection × ℤ)) :
    InvariantCheck :=
  let total := ledgerTotal directionTotals
  ⟨decide (poolTotal - total = 0), poolTotal - total, poolTotal, total⟩

/-! ### The reads -/

/-- The rows of the accounts, in the order the database reads them in. -/
def poolRows (db : Database) (names : List PoolAccountName) : List PoolAccount :=
  names.filterMap db.poolAccounts.get

/-- The names of all the accounts. -/
def ListsAccounts (db : Database) (names : List PoolAccountName) : Prop :=
  names.Nodup ∧ ∀ name, name ∈ names ↔ db.poolAccounts.get name ≠ none

def poolTotal (rows : List PoolAccount) : ℤ := (rows.map (·.balanceLamports)).sum

def poolsByKind (rows : List PoolAccount) : List (PoolAccountKind × ℤ) :=
  groupBy PoolAccount.kind PoolAccount.balanceLamports rows

/-- Every row is posted. -/
def directionTotals (db : Database) : List (TransactionDirection × ℤ) :=
  groupBy (·.row.direction) (·.row.amountLamports) db.transactions

def scanned (p : Posting) : ScannedLeg := ⟨p.entryGroupId, p.row.direction, p.row.amountLamports⟩

/-- The scan selects these rows: some of those since the bound, in any order, and all of them up
to the limit. -/
def Scans (createdAt : Posting → ℕ) (options : SnapshotOptions) (db : Database)
    (taken : List Posting) : Prop :=
  let recent := db.transactions.filter fun p => options.groupScanSince ≤ createdAt p
  taken.Subperm recent ∧ taken.length = min scanLimit recent.length

/-- Signs go through a sum. -/
theorem signedAmount_sum (direction : TransactionDirection) (amounts : List ℤ) :
    signedAmount direction amounts.sum = (amounts.map (signedAmount direction)).sum := by
  induction amounts with
  | nil => simp [signedAmount]
  | cons a amounts ih =>
      rw [List.sum_cons, List.map_cons, List.sum_cons, ← ih]
      unfold signedAmount
      split <;> ring

/-- The totals by direction net to the postings' sum. -/
theorem ledgerTotal_directionTotals (db : Database) :
    ledgerTotal (directionTotals db) = net db.transactions := by
  rw [net, ← sum_all_keys (fun p : Posting => p.row.direction), ledgerTotal, directionTotals,
    groupBy, List.map_map]
  congr 1
  refine List.map_congr_left fun direction _ => ?_
  rw [Function.comp, signedAmount_sum, List.map_map]
  congr 1
  refine List.map_congr_left fun p hp => ?_
  obtain rfl : p.row.direction = direction := by simpa using (List.mem_filter.mp hp).2
  rfl

/-- **The legs of a committed ledger sum to zero**, because the legs of each group do. -/
theorem ledgerTotal_zero {db : Database} (h : Booked db) :
    ledgerTotal (directionTotals db) = 0 := by
  rw [ledgerTotal_directionTotals]
  exact sum_eq_zero_of_keys Posting.entryGroupId h.groups

/-- **So do its balances**, the external one included. -/
theorem poolTotal_zero {db : Database} (h : Booked db) {names : List PoolAccountName}
    (hnames : ListsAccounts db names) : poolTotal (poolRows db names) = 0 := by
  obtain ⟨hnodup, hall⟩ := hnames
  have hrows : ∀ names : List PoolAccountName, poolTotal (poolRows db names) =
      (names.map fun name => net (legsOf name db.transactions)).sum := by
    intro names
    induction names with
    | nil => rfl
    | cons name names ih =>
        have hbalance := h.balance name
        rw [List.map_cons, List.sum_cons, ← ih, ← hbalance, Database.balance]
        cases ha : db.poolAccounts.get name with
        | none => simp [poolRows, poolTotal, ha]
        | some a => simp [poolRows, poolTotal, ha]
  -- an account that is not there has no balance, so its legs sum to zero as well
  have hnone : (((db.transactions.filter fun p => !decide (p.row.poolAccountId ∈ names)).map
      Posting.signed)).sum = 0 := by
    refine sum_eq_zero_of_keys (fun p : Posting => p.row.poolAccountId) fun name => ?_
    rw [List.filter_filter]
    by_cases hmem : name ∈ names
    · rw [List.filter_eq_nil_iff.mpr, List.map_nil, List.sum_nil]
      rintro p - hp
      simp only [Bool.and_eq_true, decide_eq_true_eq, Bool.not_eq_true'] at hp
      exact absurd (hp.1 ▸ hmem) (of_decide_eq_false hp.2)
    · have hlegs : (db.transactions.filter fun p =>
          decide (p.row.poolAccountId = name) && !decide (p.row.poolAccountId ∈ names)) =
            legsOf name db.transactions := by
        refine List.filter_congr fun p _ => ?_
        by_cases e : p.row.poolAccountId = name
        · simp [e, hmem]
        · simp [e]
      have hbalance := h.balance name
      rw [Database.balance, not_not.mp (mt (hall name).mpr hmem)] at hbalance
      rw [hlegs]
      exact hbalance.symm
  calc poolTotal (poolRows db names)
      = (names.map fun name => net (legsOf name db.transactions)).sum := hrows names
    _ = ((db.transactions.filter fun p => p.row.poolAccountId ∈ names).map Posting.signed).sum :=
        sum_by_keys (fun p : Posting => p.row.poolAccountId) Posting.signed db.transactions hnodup
    _ = net db.transactions := by
        have hsplit := sum_filter_not Posting.signed (fun p => decide (p.row.poolAccountId ∈ names))
          db.transactions
        rwa [hnone, add_zero] at hsplit
    _ = 0 := sum_eq_zero_of_keys Posting.entryGroupId h.groups

/-! ### Reports beside commits -/

inductive ReportFlow where
  /-- With the pool total, once it is read. -/
  | check (poolTotal : Option ℤ)
  | snapshot (options : SnapshotOptions) (reads : SnapshotReads)

def ReportFlow.starts : ReportFlow → Prop
  | .check poolTotal => poolTotal = none
  | .snapshot _ reads => reads = ⟨none, none, none, none⟩

inductive Report where
  | check (x : InvariantCheck)
  | snapshot (x : TreasurySnapshot)

structure Reporting where
  /-- As committed. -/
  books : Database
  flows : Table ℕ ReportFlow
  reports : List Report

inductive ReportEvent where
  | commit (db : Database)
  | start (r : ℕ) (flow : ReportFlow)
  | checkPools (r : ℕ) (names : List PoolAccountName)
  | checkTotals (r : ℕ)
  | snapshotPools (r : ℕ) (names : List PoolAccountName)
  | snapshotTotals (r : ℕ)
  | snapshotLegs (r : ℕ) (taken : List Posting)
  | snapshotChain (r : ℕ) (chain : Except String VaultBalances)
  | assemble (r now : ℕ)

/-- A transaction commits a database that keeps the double entry, or a report goes on.  The reads
of a snapshot are answered in any order. -/
inductive ReportStep (createdAt : Posting → ℕ) : Reporting → ReportEvent → Reporting → Prop where
  | commit {s : Reporting} {db : Database} (h : Booked db) :
      ReportStep createdAt s (.commit db) { s with books := db }
  | start {s : Reporting} {r : ℕ} {flow : ReportFlow} (hnew : s.flows.get r = none)
      (h : flow.starts) :
      ReportStep createdAt s (.start r flow) { s with flows := s.flows.upd r flow }
  | checkPools {s : Reporting} {r : ℕ} {names : List PoolAccountName}
      (hflow : s.flows.get r = some (.check none)) (hnames : ListsAccounts s.books names) :
      ReportStep createdAt s (.checkPools r names)
        { s with flows := s.flows.upd r (.check (some (poolTotal (poolRows s.books names)))) }
  | checkTotals {s : Reporting} {r : ℕ} {pools : ℤ}
      (hflow : s.flows.get r = some (.check (some pools))) :
      ReportStep createdAt s (.checkTotals r)
        { s with
          flows := s.flows.del r
          reports := s.reports ++ [.check (invariantCheck pools (directionTotals s.books))] }
  | snapshotPools {s : Reporting} {r : ℕ} {names : List PoolAccountName} {options : SnapshotOptions}
      {reads : SnapshotReads} (hflow : s.flows.get r = some (.snapshot options reads))
      (hopen : reads.poolRows = none) (hnames : ListsAccounts s.books names) :
      ReportStep createdAt s (.snapshotPools r names)
        { s with
          flows := s.flows.upd r (.snapshot options
            { reads with poolRows := some (poolsByKind (poolRows s.books names)) }) }
  | snapshotTotals {s : Reporting} {r : ℕ} {options : SnapshotOptions} {reads : SnapshotReads}
      (hflow : s.flows.get r = some (.snapshot options reads))
      (hopen : reads.directionTotals = none) :
      ReportStep createdAt s (.snapshotTotals r)
        { s with
          flows := s.flows.upd r (.snapshot options
            { reads with directionTotals := some (directionTotals s.books) }) }
  | snapshotLegs {s : Reporting} {r : ℕ} {taken : List Posting} {options : SnapshotOptions}
      {reads : SnapshotReads} (hflow : s.flows.get r = some (.snapshot options reads))
      (hopen : reads.recentLegs = none) (hscan : Scans createdAt options s.books taken) :
      ReportStep createdAt s (.snapshotLegs r taken)
        { s with
          flows := s.flows.upd r (.snapshot options
            { reads with recentLegs := some (taken.map scanned) }) }
  | snapshotChain {s : Reporting} {r : ℕ} {chain : Except String VaultBalances}
      {options : SnapshotOptions} {reads : SnapshotReads}
      (hflow : s.flows.get r = some (.snapshot options reads)) (hopen : reads.chain = none) :
      ReportStep createdAt s (.snapshotChain r chain)
        { s with
          flows := s.flows.upd r (.snapshot options { reads with chain := some chain }) }
  | assemble {s : Reporting} {r now : ℕ} {options : SnapshotOptions}
      {poolRows : List (PoolAccountKind × ℤ)} {directionTotals : List (TransactionDirection × ℤ)}
      {recentLegs : List ScannedLeg} {chain : Except String VaultBalances}
      (hflow : s.flows.get r = some (.snapshot options
        ⟨some poolRows, some directionTotals, some recentLegs, some chain⟩)) :
      ReportStep createdAt s (.assemble r now)
        { s with
          flows := s.flows.del r
          reports := s.reports ++
            [.snapshot (treasurySnapshot options poolRows directionTotals recentLegs chain now)] }

/-- Before the first report. -/
def NothingReported (s : Reporting) : Prop := Booked s.books ∧ s.flows = .empty ∧ s.reports = []

/-- Every group that the scan returns a leg of, it returns whole. -/
def ScansWhole (s : Reporting) : ReportEvent → Prop
  | .snapshotLegs _ taken => ∀ p ∈ taken,
      (groupOf p.entryGroupId taken).length = (groupOf p.entryGroupId s.books.transactions).length
  | _ => True

/-- The report raises no alarm about the ledger. -/
def Report.Quiet : Report → Prop
  | .check x => x.drift = 0 ∧ x.balanced = true
  | .snapshot x => x.ledgerDrift = 0 ∧ x.ledgerBalanced = true ∧ x.imbalancedGroups = []

/-- What is read so far would raise none. -/
def ReportFlow.Quiet : ReportFlow → Prop
  | .check poolTotal => ∀ total ∈ poolTotal, total = 0
  | .snapshot _ reads =>
      (∀ rows ∈ reads.poolRows, (sumPoolsByKind rows).total = 0) ∧
        (∀ rows ∈ reads.directionTotals, ledgerTotal rows = 0) ∧
        ∀ legs ∈ reads.recentLegs, findImbalancedGroups legs = []

theorem ReportFlow.starts.quiet {flow : ReportFlow} (h : flow.starts) : flow.Quiet := by
  cases flow with
  | check poolTotal =>
      obtain rfl : poolTotal = none := h
      nofun
  | snapshot options reads =>
      obtain rfl : reads = ⟨none, none, none, none⟩ := h
      exact ⟨nofun, nofun, nofun⟩

/-- What drifts of a scan is the net of its postings. -/
theorem driftOf_scanned (g : ℕ) (taken : List Posting) :
    driftOf g (taken.map scanned) = net (groupOf g taken) := by
  rw [driftOf, List.filter_map, List.map_map]
  rfl

/-- A scan that returns whole groups finds none that is imbalanced. -/
theorem Scans.quiet {createdAt : Posting → ℕ} {options : SnapshotOptions} {db : Database}
    {taken : List Posting} (h : Scans createdAt options db taken) (hbooked : Booked db)
    (hwhole : ∀ p ∈ taken, (groupOf p.entryGroupId taken).length =
      (groupOf p.entryGroupId db.transactions).length) :
    findImbalancedGroups (taken.map scanned) = [] := by
  refine findImbalancedGroups_eq_nil.mpr fun g => ?_
  rw [driftOf_scanned]
  by_cases hg : ∃ p ∈ taken, p.entryGroupId = g
  · obtain ⟨p, hp, rfl⟩ := hg
    have hsub : (groupOf p.entryGroupId taken).Subperm (groupOf p.entryGroupId db.transactions) :=
      (h.1.trans List.filter_sublist.subperm).filter _
    have hperm := hsub.perm_of_length_le (hwhole p hp).ge
    rw [net, (hperm.map _).sum_eq]
    exact hbooked.groups p.entryGroupId
  · rw [groupOf, List.filter_eq_nil_iff.mpr, net_nil]
    exact fun p hp e => hg ⟨p, hp, of_decide_eq_true e⟩

/-- A check of totals that are zero raises no alarm. -/
theorem invariantCheck_quiet {pools : ℤ} {rows : List (TransactionDirection × ℤ)}
    (hpools : pools = 0) (hrows : ledgerTotal rows = 0) :
    Report.Quiet (.check (invariantCheck pools rows)) := by
  simp [Report.Quiet, invariantCheck, hpools, hrows]

/-- Nor does a snapshot of totals that are zero and groups that are whole. -/
theorem treasurySnapshot_quiet {options : SnapshotOptions} {poolRows : List (PoolAccountKind × ℤ)}
    {directionTotals : List (TransactionDirection × ℤ)} {recentLegs : List ScannedLeg}
    {chain : Except String VaultBalances} {now : ℕ} (hpools : (sumPoolsByKind poolRows).total = 0)
    (htotals : ledgerTotal directionTotals = 0) (hlegs : findImbalancedGroups recentLegs = []) :
    Report.Quiet (.snapshot
      (treasurySnapshot options poolRows directionTotals recentLegs chain now)) := by
  simp [Report.Quiet, treasurySnapshot, hpools, htotals, hlegs]

/-- What holds between the steps. -/
structure Calm (s : Reporting) : Prop where
  booked : Booked s.books
  flows : s.flows.All fun _ flow => flow.Quiet
  reports : ∀ report ∈ s.reports, report.Quiet

/-- **A report that scans whole groups stays calm.**. -/
theorem Calm.step {createdAt : Posting → ℕ} {s s' : Reporting} {e : ReportEvent} (h : Calm s)
    (hstep : Guarded (ReportStep createdAt) ScansWhole s e s') : Calm s' := by
  obtain ⟨hstep, hwhole⟩ := hstep
  obtain ⟨hbooked, hflows, hreports⟩ := h
  -- a report that is finished joins those before it
  have joins : ∀ {report : Report}, report.Quiet → ∀ x ∈ s.reports ++ [report], x.Quiet := by
    intro report hreport x hx
    rcases List.mem_append.mp hx with hx | hx
    · exact hreports x hx
    · exact List.mem_singleton.mp hx ▸ hreport
  cases hstep with
  | commit h => exact ⟨h, hflows, hreports⟩
  | start _ h => exact ⟨hbooked, hflows.upd h.quiet, hreports⟩
  | checkPools _ hnames =>
      refine ⟨hbooked, hflows.upd ?_, hreports⟩
      rintro total ⟨⟩
      exact poolTotal_zero hbooked hnames
  | checkTotals hflow =>
      have hpools := hflows _ _ hflow _ rfl
      exact ⟨hbooked, hflows.del,
        joins (invariantCheck_quiet hpools (ledgerTotal_zero hbooked))⟩
  | snapshotPools hflow _ hnames =>
      obtain ⟨-, htotals, hlegs⟩ := hflows _ _ hflow
      refine ⟨hbooked, hflows.upd ⟨?_, htotals, hlegs⟩, hreports⟩
      rintro rows ⟨⟩
      rw [sumPoolsByKind_total, poolsByKind, sum_groupBy]
      exact poolTotal_zero hbooked hnames
  | snapshotTotals hflow _ =>
      obtain ⟨hpools, -, hlegs⟩ := hflows _ _ hflow
      refine ⟨hbooked, hflows.upd ⟨hpools, ?_, hlegs⟩, hreports⟩
      rintro rows ⟨⟩
      exact ledgerTotal_zero hbooked
  | snapshotLegs hflow _ hscan =>
      obtain ⟨hpools, htotals, -⟩ := hflows _ _ hflow
      refine ⟨hbooked, hflows.upd ⟨hpools, htotals, ?_⟩, hreports⟩
      rintro legs ⟨⟩
      exact hscan.quiet hbooked hwhole
  | snapshotChain hflow _ =>
      obtain ⟨hpools, htotals, hlegs⟩ := hflows _ _ hflow
      exact ⟨hbooked, hflows.upd ⟨hpools, htotals, hlegs⟩, hreports⟩
  | assemble hflow =>
      obtain ⟨hpools, htotals, hlegs⟩ := hflows _ _ hflow
      exact ⟨hbooked, hflows.del,
        joins (treasurySnapshot_quiet (hpools _ rfl) (htotals _ rfl) (hlegs _ rfl))⟩

/-- Before the first report. -/
theorem NothingReported.calm {s : Reporting} (h : NothingReported s) : Calm s := by
  obtain ⟨hbooked, hflows, hreports⟩ := h
  refine ⟨hbooked, hflows ▸ .empty, fun report hreport => ?_⟩
  rw [hreports] at hreport
  exact absurd hreport List.not_mem_nil

/-- **No false alarms.**  Whatever commits between the reads: no report of a ledger that keeps the
double entry shows a drift, and none an imbalanced group, where the scans return whole groups. -/
theorem no_false_alarms {createdAt : Posting → ℕ} {s : Reporting}
    (hs : Reachable (Guarded (ReportStep createdAt) ScansWhole) NothingReported s) :
    ∀ report ∈ s.reports, report.Quiet :=
  (hs.invariant (fun _ h => NothingReported.calm h) fun _ _ _ h hstep => Calm.step h hstep).reports

/-! ### A ledger of deposits -/

def depositLeg (i index : ℕ) (direction : TransactionDirection) (after : ℤ)
    (account : PoolAccountName) : Posting :=
  ⟨.deposit i index, i, ⟨.deposit, direction, 1, after, account, some 1, none, some i, none⟩⟩

def debitLeg (i : ℕ) : Posting := depositLeg i 0 .debit (-(i + 1)) .external

def creditLeg (i : ℕ) : Posting := depositLeg i 1 .credit (i + 1) (.custody 1)

@[simp] theorem debitLeg_signed (i : ℕ) : (debitLeg i).signed = -1 := rfl

@[simp] theorem creditLeg_signed (i : ℕ) : (creditLeg i).signed = 1 := rfl

theorem debitLeg_after (i : ℕ) : (debitLeg i).row.balanceAfterLamports = -(i + 1) := rfl

theorem creditLeg_after (i : ℕ) : (creditLeg i).row.balanceAfterLamports = i + 1 := rfl

/-- Deposits of one lamport each, by one player. -/
def deposits (n : ℕ) : List Posting :=
  (List.range n).flatMap fun i => [debitLeg i, creditLeg i]

def deposited (n : ℕ) : Database where
  poolAccounts :=
    (Table.empty.upd .external ⟨.external, -n, 0, n⟩).upd (.custody 1) ⟨.userCustody, n, 0, n⟩
  transactions := deposits n
  stakeReservations := []
  withdrawals := []
  games := .empty

theorem deposits_succ (n : ℕ) : deposits (n + 1) = deposits n ++ [debitLeg n, creditLeg n] := by
  simp [deposits, List.range_succ]

theorem length_deposits (n : ℕ) : (deposits n).length = 2 * n := by
  induction n with
  | zero => rfl
  | succ n ih => simp [deposits_succ, ih, Nat.mul_add]

/-- The groups count up. -/
theorem deposits_group (n : ℕ) : ∀ p ∈ deposits n, p.entryGroupId < n := by
  intro p hp
  obtain ⟨i, hi, hp⟩ := List.mem_flatMap.mp hp
  rw [List.mem_range] at hi
  simp only [List.mem_cons, List.not_mem_nil, or_false] at hp
  rcases hp with rfl | rfl <;> exact hi

/-- What was deposited is the player's, and was owed to the outside. -/
theorem deposited_balance (n : ℕ) (name : PoolAccountName) : (deposited n).balance name =
    if name = .external then -(n : ℤ) else if name = .custody 1 then (n : ℤ) else 0 := by
  simp only [Database.balance, deposited, Table.get_upd, Table.get_empty]
  by_cases hcustody : name = .custody 1
  · simp [hcustody]
  · by_cases hexternal : name = .external <;> simp [hcustody, hexternal]

theorem legsOf_deposit (n : ℕ) (name : PoolAccountName) : legsOf name [debitLeg n, creditLeg n] =
    if name = .external then [debitLeg n] else if name = .custody 1 then [creditLeg n] else [] := by
  by_cases hcustody : name = .custody 1
  · subst hcustody
    rfl
  · by_cases hexternal : name = .external
    · subst hexternal
      rfl
    · simp [legsOf, debitLeg, creditLeg, depositLeg, hcustody, hexternal, Ne.symm hcustody,
        Ne.symm hexternal]

/-- The books of any number of deposits. -/
theorem deposited_booked (n : ℕ) : Booked (deposited n) := by
  have hlegs : ∀ n name, net (legsOf name (deposits n)) = (deposited n).balance name ∧
      Runs 0 (legsOf name (deposits n)) := by
    intro n name
    induction n with
    | zero =>
        rw [deposited_balance]
        refine ⟨?_, trivial⟩
        simp [deposits, legsOf]
    | succ n ih =>
        obtain ⟨hnet, hruns⟩ := ih
        rw [deposits_succ, legsOf_append, net_append, Runs.append, hnet, deposited_balance,
          deposited_balance, legsOf_deposit]
        refine ⟨?_, hruns, ?_⟩
        · split_ifs <;> simp only [net_cons, net_nil, debitLeg_signed, creditLeg_signed] <;> omega
        · split_ifs
          · exact ⟨by rw [debitLeg_after, debitLeg_signed]; omega, trivial⟩
          · exact ⟨by rw [creditLeg_after, creditLeg_signed]; omega, trivial⟩
          · trivial
  refine ⟨fun name => (hlegs n name).1.symm, fun name => (hlegs n name).2, ?_⟩
  show Balanced (deposits n)
  induction n with
  | zero => exact fun _ => rfl
  | succ n ih =>
      rw [deposits_succ]
      refine ih.append (Balanced.of_group (g := n) ?_ ?_)
      · simp [debitLeg, creditLeg, depositLeg]
      · simp

theorem deposited_lists (n : ℕ) : ListsAccounts (deposited n) [.external, .custody 1] := by
  refine ⟨by decide, fun name => ?_⟩
  by_cases hcustody : name = .custody 1
  · simp [hcustody, deposited]
  · by_cases hexternal : name = .external <;> simp [hcustody, hexternal, deposited]

/-- Before any report, on `n` deposits. -/
def unreported (n : ℕ) : Reporting := ⟨deposited n, .empty, []⟩

theorem unreported_nothing (n : ℕ) : NothingReported (unreported n) :=
  ⟨deposited_booked n, rfl, rfl⟩

/-- A snapshot that reads the pools before a commit, and the rest after it. -/
theorem snapshot_run {createdAt : Posting → ℕ} {G : Reporting → ReportEvent → Prop}
    {options : SnapshotOptions} {n n' : ℕ} {taken : List Posting}
    (hscan : Scans createdAt options (deposited n') taken)
    (hscanned : ∀ s : Reporting, s.books = deposited n' → G s (.snapshotLegs 0 taken))
    (hothers : ∀ s e, (∀ r taken, e ≠ .snapshotLegs r taken) → G s e) :
    ∃ s, Reachable (Guarded (ReportStep createdAt) G) NothingReported s ∧ s.reports =
      [.snapshot (treasurySnapshot options
        (poolsByKind (poolRows (deposited n) [.external, .custody 1]))
        (directionTotals (deposited n')) (taken.map scanned) (.ok ⟨0, 0⟩) 0)] := by
  let pools := poolsByKind (poolRows (deposited n) [.external, .custody 1])
  let totals := directionTotals (deposited n')
  let legs := taken.map scanned
  -- the snapshot, with what it has read
  let reading (db : Database) (t : Table ℕ ReportFlow) (reads : SnapshotReads) : Reporting :=
    ⟨db, t.upd 0 (.snapshot options reads), []⟩
  let s₀ := reading (deposited n) .empty ⟨none, none, none, none⟩
  let s₁ := reading (deposited n) s₀.flows ⟨some pools, none, none, none⟩
  let s₂ := { s₁ with books := deposited n' }
  let s₃ := reading (deposited n') s₂.flows ⟨some pools, some totals, none, none⟩
  let s₄ := reading (deposited n') s₃.flows ⟨some pools, some totals, some legs, none⟩
  let s₅ := reading (deposited n') s₄.flows
    ⟨some pools, some totals, some legs, some (.ok ⟨0, 0⟩)⟩
  have at₀ : ReportStep createdAt (unreported n) (.start 0 (.snapshot options _)) s₀ :=
    .start rfl rfl
  have at₁ : ReportStep createdAt s₀ (.snapshotPools 0 [.external, .custody 1]) s₁ :=
    @ReportStep.snapshotPools createdAt s₀ 0 _ options ⟨none, none, none, none⟩
      (Table.get_upd_same _ _ _) rfl (deposited_lists n)
  have at₂ : ReportStep createdAt s₁ (.commit _) s₂ := .commit (deposited_booked n')
  have at₃ : ReportStep createdAt s₂ (.snapshotTotals 0) s₃ :=
    @ReportStep.snapshotTotals createdAt s₂ 0 options ⟨some pools, none, none, none⟩
      (Table.get_upd_same _ _ _) rfl
  have at₄ : ReportStep createdAt s₃ (.snapshotLegs 0 taken) s₄ :=
    @ReportStep.snapshotLegs createdAt s₃ 0 taken options ⟨some pools, some totals, none, none⟩
      (Table.get_upd_same _ _ _) rfl hscan
  have at₅ : ReportStep createdAt s₄ (.snapshotChain 0 (.ok ⟨0, 0⟩)) s₅ :=
    @ReportStep.snapshotChain createdAt s₄ 0 _ options
      ⟨some pools, some totals, some legs, none⟩ (Table.get_upd_same _ _ _) rfl
  have at₆ : ReportStep createdAt s₅ (.assemble 0 0)
      { s₅ with
        flows := s₅.flows.del 0
        reports := [.snapshot (treasurySnapshot options pools totals legs (.ok ⟨0, 0⟩) 0)] } :=
    .assemble (Table.get_upd_same _ _ _)
  exact ⟨_, ⟨_, _, unreported_nothing n,
    .cons ⟨at₀, hothers _ _ nofun⟩ (.cons ⟨at₁, hothers _ _ nofun⟩ (.cons ⟨at₂, hothers _ _ nofun⟩
      (.cons ⟨at₃, hothers _ _ nofun⟩ (.cons ⟨at₄, hscanned _ rfl⟩ (.cons ⟨at₅, hothers _ _ nofun⟩
        (.one ⟨at₆, hothers _ _ nofun⟩))))))⟩, rfl⟩

/-- A deposit commits while a snapshot is read, and its scan finds both legs. -/
theorem no_false_alarms_between : ∃ s : Reporting, s.reports ≠ [] ∧
    ∀ report ∈ s.reports, report.Quiet := by
  obtain ⟨s, hs, hreports⟩ := @snapshot_run (fun _ => 0) ScansWhole ⟨0, none⟩ 0 1 (deposits 1)
    ⟨List.Subperm.refl _, rfl⟩ (by
      rintro s hs
      rw [ScansWhole, hs]
      decide) fun s e he => by
        cases e with
        | snapshotLegs => exact absurd rfl (he _ _)
        | _ => trivial
  exact ⟨s, by simp [hreports], no_false_alarms hs⟩

/-- One row above the limit, and the scan returns the debit of a deposit but not its credit. -/
theorem false_alarm : ¬ ∀ (createdAt : Posting → ℕ) (s : Reporting),
    Reachable (ReportStep createdAt) NothingReported s → ∀ report ∈ s.reports, report.Quiet := by
  intro hclaim
  obtain ⟨n, hn⟩ : ∃ n, 2 * n + 2 = scanLimit := ⟨24999, rfl⟩
  let taken := deposits n ++ [debitLeg n, debitLeg (n + 1)]
  have hsub : taken.Sublist (deposits (n + 2)) := by
    rw [deposits_succ, deposits_succ, List.append_assoc]
    refine (List.Sublist.refl _).append ?_
    exact ((List.nil_sublist [creditLeg n]).append
      ((List.nil_sublist [creditLeg (n + 1)]).cons_cons (debitLeg (n + 1)))).cons_cons (debitLeg n)
  have hscan : Scans (fun _ => 0) ⟨0, none⟩ (deposited (n + 2)) taken := by
    have hall : ((deposited (n + 2)).transactions.filter fun _ => decide (0 ≤ 0)) =
        deposits (n + 2) :=
      List.filter_eq_self.mpr fun _ _ => rfl
    refine ⟨hall ▸ hsub.subperm, ?_⟩
    rw [hall, length_deposits, List.length_append, length_deposits]
    simp only [List.length_cons, List.length_nil]
    omega
  obtain ⟨s, hs, hreports⟩ := snapshot_run (n := 0) hscan (fun _ _ => trivial) fun _ _ _ => trivial
  have hquiet := hclaim _ s (hs.mono fun _ _ _ h => h.1)
  rw [hreports] at hquiet
  obtain ⟨-, -, hnone⟩ := hquiet _ (List.mem_singleton_self _)
  have himbalanced : findImbalancedGroups (taken.map scanned) = [] := by
    simpa [treasurySnapshot, List.take_eq_nil_iff] using hnone
  have hdrift := findImbalancedGroups_eq_nil.mp himbalanced (n + 1)
  have hgroup : groupOf (n + 1) (deposits n) = [] :=
    List.filter_eq_nil_iff.mpr fun p hp e => by
      have := deposits_group n p hp
      have := of_decide_eq_true e
      omega
  rw [driftOf_scanned, groupOf, List.filter_append, ← groupOf, hgroup] at hdrift
  simp [debitLeg, depositLeg, net, Posting.signed] at hdrift

end SnakeArena.Gateway
