import Mathlib.Data.List.Infix
import SnakeArena.Library.Runs
import SnakeArena.Library.Table
import SnakeArena.Program.State

/-!
# Sdk — sending a transaction

`sendSigned` of `service.ts` with what it is made of: `withRetry`, `withFailover` and
`sendAndConfirm`.  One call is a state machine that the RPC endpoints answer as they like: a send
may be taken and its response lost, and a status may lag, but none is made up.

Every transaction of a call carries the same instructions and signers, so it is known by its
blockhash: built again on the same blockhash it is the same bytes.

* `sendSigned_once`: where no transaction that may still land is given up for another, one
  transaction of the call has landed or can land at most; and a call that gives one up has runs
  in which two can.
-/

namespace SnakeArena.Sdk
open SnakeArena.Library SnakeArena.Program

/-! ### Errors -/

/-- What web3.js throws, and the program error code that `extractProgramErrorCode` finds in it. -/
structure Raised where
  message : String
  code : Option ℕ
deriving DecidableEq

inductive ServiceError where
  | service (message : String)
  | program (code : ℕ)
  | rpc (message : String) (retryable : Bool)
  | confirmationTimeout (signature : String)
deriving DecidableEq

def ServiceError.retryable : ServiceError → Bool
  | .rpc _ retryable => retryable
  | .service _ | .program _ | .confirmationTimeout _ => false

def retryableRpcErrors : List String :=
  ["BlockhashNotFound", "Blockhash not found", "block height exceeded", "Node is behind",
    "was not confirmed", "Transaction simulation failed: Blockhash",
    "failed to get recent blockhash", "socket hang up", "ETIMEDOUT", "ECONNRESET", "ENOTFOUND",
    "fetch failed", "429", "Too Many Requests", "502", "503", "504"]

/-- Whether a failure is worth another attempt. -/
def Raised.isRetryable (e : Raised) : Bool :=
  retryableRpcErrors.any fun needle => decide (needle.toList <:+: e.message.toList)

def toServiceError (e : Raised) : ServiceError :=
  match e.code with
  | some code => .program code
  | none => .rpc e.message e.isRetryable

/-- What the service retries, the pool does. -/
theorem isRetryable_of_service {e : Raised} (h : (toServiceError e).retryable = true) :
    e.isRetryable = true := by
  unfold toServiceError at h
  split at h
  · cases h
  · exact h

/-! ### The chain, as far as the call goes -/

inductive Fate where
  /-- No endpoint took it. -/
  | unsent
  /-- An endpoint took it, or will. -/
  | sent
  | landed
  | failed
deriving DecidableEq

structure Tx where
  lastValidBlockHeight : ℕ
  fate : Fate
deriving DecidableEq

/-- It has landed, or can. -/
def Tx.Live (tx : Tx) (height : ℕ) : Prop :=
  tx.fate = .landed ∨ tx.fate = .sent ∧ height ≤ tx.lastValidBlockHeight

instance (tx : Tx) (height : ℕ) : Decidable (tx.Live height) := inferInstanceAs (Decidable (_ ∨ _))

/-- An endpoint takes the bytes, if `taken`. -/
def Tx.take (tx : Tx) (taken : Bool) : Tx :=
  if taken = true ∧ tx.fate = .unsent then { tx with fate := .sent } else tx

inductive Commitment where
  | processed | confirmed | finalized
deriving DecidableEq

structure SignatureStatus where
  slot : ℕ
  err : Option Raised
  confirmationStatus : Commitment

/-! ### The call -/

structure RpcPool where
  endpoints : ℕ
  /-- The constructor throws otherwise. -/
  pos : 0 < endpoints

/-- What `sendAndConfirm` keeps while it polls. -/
structure Polling where
  /-- Of the transaction on this blockhash. -/
  signature : String
  lastValidBlockHeight : ℕ
  startedAt : ℕ
  lastBroadcast : ℕ

/-- The await the call stops at. -/
inductive SendPoint where
  | getLatestBlockhash
  | sendRawTransaction (blockhash : String) (lastValidBlockHeight attempt : ℕ)
  | getSignatureStatuses (p : Polling)
  | getBlockHeight (p : Polling)
  | rebroadcast (p : Polling)
  | sleep (p : Polling)
  | ended (result : Except ServiceError (String × ℕ))

structure Sending where
  /-- Of the pool. -/
  index : ℕ
  /-- The `attempt` of `withRetry`, and that of `withFailover`. -/
  attempt : ℕ
  tried : ℕ
  point : SendPoint
  /-- Of the chain. -/
  height : ℕ
  /-- The transactions of the call, by blockhash. -/
  txs : Table String Tx

inductive Reply where
  | blockhash (blockhash : String) (lastValidBlockHeight : ℕ)
  | sent (now : ℕ)
  | statuses (status : Option SignatureStatus)
  | blockHeight (height now : ℕ)
  | slept (now : ℕ)
  /-- An endpoint may take what it was sent all the same. -/
  | throws (e : Raised) (taken : Bool) (now : ℕ)

inductive SendEvent where
  | reply (reply : Reply)
  | lands (blockhash : String)
  | fails (blockhash : String)
  | blocks (height : ℕ)
  /-- Another call fails over. -/
  | moves (index : ℕ)

def timeoutMs : ℕ := 60000

def rebroadcastIntervalMs : ℕ := 3000

def maxSendAttempts : ℕ := 3

def maxAttempts : ℕ := 4

namespace Sending

def goto (s : Sending) (point : SendPoint) : Sending := { s with point }

/-- The bytes on a blockhash reach an endpoint. -/
def take (s : Sending) (blockhash : String) (taken : Bool) : Sending :=
  match s.txs.get blockhash with
  | some tx => { s with txs := s.txs.upd blockhash (tx.take taken) }
  | none => s

/-- There is another endpoint to try, or another attempt to make. -/
def More (pool : RpcPool) (s : Sending) : Prop :=
  s.tried + 1 < pool.endpoints ∨ s.attempt < maxAttempts

instance (pool : RpcPool) (s : Sending) : Decidable (s.More pool) :=
  inferInstanceAs (Decidable (_ ∨ _))

/-- What `withFailover` and `withRetry` make of an error. -/
def throws (pool : RpcPool) (s : Sending) (e : ServiceError) : Sending :=
  if e.retryable = false then s.goto (.ended (.error e))
  else
    let s := { s with index := (s.index + 1) % pool.endpoints }
    if s.tried + 1 < pool.endpoints then
      { s with tried := s.tried + 1, point := .getLatestBlockhash }
    -- all endpoints failed, which is retryable
    else if s.attempt < maxAttempts then
      { s with attempt := s.attempt + 1, tried := 0, point := .getLatestBlockhash }
    else
      s.goto (.ended (.error (.rpc ("All " ++ toString pool.endpoints ++
        " RPC endpoints failed") true)))

/-- After the status of a transaction, or none. -/
def afterHeight (s : Sending) (p : Polling) (now : ℕ) : Sending :=
  if rebroadcastIntervalMs ≤ now - p.lastBroadcast then
    s.goto (.rebroadcast { p with lastBroadcast := now })
  else s.goto (.sleep p)

/-- The next round of polling. -/
def poll (pool : RpcPool) (s : Sending) (p : Polling) (now : ℕ) : Sending :=
  if timeoutMs ≤ now - p.startedAt then s.throws pool (.confirmationTimeout p.signature)
  else s.goto (.getSignatureStatuses p)

def reached (commitment : Commitment) (status : SignatureStatus) : Bool :=
  match commitment with
  | .finalized => decide (status.confirmationStatus = .finalized)
  | _ => decide (status.confirmationStatus = .confirmed ∨ status.confirmationStatus = .finalized)

/-- A status is of a transaction that was executed, and says how. -/
def Reported (s : Sending) (signature : String) (status : SignatureStatus) : Prop :=
  (s.txs.get signature).map (·.fate) = some (if status.err.isSome then .failed else .landed)

instance (s : Sending) (signature : String) (status : SignatureStatus) :
    Decidable (s.Reported signature status) := inferInstanceAs (Decidable (_ = _))

/-- What the call does with a reply. -/
def resume (pool : RpcPool) (commitment : Commitment) (s : Sending) (reply : Reply) :
    Option Sending :=
  match s.point, reply with
  | .getLatestBlockhash, .blockhash blockhash lastValid =>
      some { s with
        point := .sendRawTransaction blockhash lastValid 1
        txs := if (s.txs.get blockhash).isSome then s.txs
          else s.txs.upd blockhash ⟨lastValid, .unsent⟩ }
  | .getLatestBlockhash, .throws e _ _ => some (s.throws pool (toServiceError e))
  | .sendRawTransaction blockhash lastValid _, .sent now =>
      some ((s.take blockhash true).goto (.getSignatureStatuses ⟨blockhash, lastValid, now, now⟩))
  | .sendRawTransaction blockhash lastValid attempt, .throws e taken _ =>
      if attempt < maxSendAttempts ∧ e.isRetryable = true then
        some ((s.take blockhash taken).goto (.sendRawTransaction blockhash lastValid (attempt + 1)))
      else some ((s.take blockhash taken).throws pool (toServiceError e))
  | .getSignatureStatuses p, .statuses none => some (s.goto (.getBlockHeight p))
  | .getSignatureStatuses p, .throws _ _ _ => some (s.goto (.getBlockHeight p))
  | .getSignatureStatuses p, .statuses (some status) =>
      if s.Reported p.signature status then
        match status.err with
        | some e => some (s.throws pool (toServiceError e))
        | none =>
            if reached commitment status
              then some (s.goto (.ended (.ok (p.signature, status.slot))))
            else some (s.goto (.getBlockHeight p))
      else none
  | .getBlockHeight p, .blockHeight height now =>
      if p.lastValidBlockHeight < height then
        some (s.throws pool (.confirmationTimeout p.signature))
      else some (s.afterHeight p now)
  | .getBlockHeight p, .throws _ _ now => some (s.afterHeight p now)
  | .rebroadcast p, .sent _ => some ((s.take p.signature true).goto (.sleep p))
  -- a duplicate-broadcast rejection is expected
  | .rebroadcast p, .throws _ taken _ => some ((s.take p.signature taken).goto (.sleep p))
  | .sleep p, .slept now => some (s.poll pool p now)
  | _, _ => none

/-- A transaction that was taken is executed, while its blockhash is valid. -/
def execute (s : Sending) (blockhash : String) (fate : Fate) : Option Sending :=
  match s.txs.get blockhash with
  | some tx =>
      if tx.fate = .sent ∧ s.height ≤ tx.lastValidBlockHeight then
        some { s with txs := s.txs.upd blockhash { tx with fate } }
      else none
  | none => none

def next (pool : RpcPool) (commitment : Commitment) (s : Sending) : SendEvent → Option Sending
  | .reply reply => s.resume pool commitment reply
  | .lands blockhash => s.execute blockhash .landed
  | .fails blockhash => s.execute blockhash .failed
  | .blocks height => if s.height ≤ height then some { s with height } else none
  | .moves index => some { s with index }

def Step (pool : RpcPool) (commitment : Commitment) (s : Sending) (e : SendEvent) (s' : Sending) :
    Prop := s.next pool commitment e = some s'

end Sending

/-- A call begins. -/
def sendSigned (signers : List Pubkey) (index height : ℕ) : Sending where
  index := index
  attempt := 1
  tried := 0
  point :=
    if signers = [] then .ended (.error (.service "At least one signer is required to pay fees"))
    else .getLatestBlockhash
  height := height
  txs := .empty

namespace Sending
variable {pool : RpcPool} {commitment : Commitment} {s s' : Sending}

/-! ### What the parts of a call leave -/

@[simp] theorem goto_txs (s : Sending) (point : SendPoint) : (s.goto point).txs = s.txs := rfl
@[simp] theorem goto_height (s : Sending) (point : SendPoint) :
    (s.goto point).height = s.height := rfl
@[simp] theorem goto_point (s : Sending) (point : SendPoint) : (s.goto point).point = point := rfl

@[simp] theorem take_height (s : Sending) (blockhash : String) (taken : Bool) :
    (s.take blockhash taken).height = s.height := by
  unfold take
  split <;> rfl

/-- What is taken of a transaction, under its blockhash. -/
theorem take_get (s : Sending) (blockhash : String) (taken : Bool) (b : String) :
    (s.take blockhash taken).txs.get b =
      if b = blockhash then (s.txs.get b).map (·.take taken) else s.txs.get b := by
  unfold take
  split
  next tx htx =>
    rw [Table.get_upd]
    by_cases e : b = blockhash
    · rw [if_pos e, if_pos e, e, htx, Option.map_some]
    · rw [if_neg e, if_neg e]
  next hnone =>
    split
    · simp only [*, Option.map_none]
    · rfl

/-- Taking up a transaction leaves the attempts. -/
theorem More.of_take {blockhash : String} {taken : Bool} (h : (s.take blockhash taken).More pool) :
    s.More pool := by
  unfold take at h
  split at h <;> exact h

/-- An error leaves the transactions, and ends the call or has it build again. -/
theorem throws_spec (pool : RpcPool) (s : Sending) (e : ServiceError) :
    (s.throws pool e).txs = s.txs ∧ (s.throws pool e).height = s.height ∧
      ((∃ result, (s.throws pool e).point = .ended result) ∨
        (s.throws pool e).point = .getLatestBlockhash ∧ e.retryable = true ∧ s.More pool) := by
  unfold throws
  split
  · exact ⟨rfl, rfl, .inl ⟨_, rfl⟩⟩
  next hretry =>
    have hretry := Bool.eq_true_of_not_eq_false hretry
    dsimp only
    split
    next hmore => exact ⟨rfl, rfl, .inr ⟨rfl, hretry, .inl hmore⟩⟩
    · split
      next hmore => exact ⟨rfl, rfl, .inr ⟨rfl, hretry, .inr hmore⟩⟩
      · exact ⟨rfl, rfl, .inl ⟨_, rfl⟩⟩

/-- An error that is retried asks for a new blockhash. -/
theorem throws_more {e : ServiceError} (hretry : e.retryable = true) (hmore : s.More pool) :
    (s.throws pool e).point = .getLatestBlockhash := by
  unfold throws
  rw [if_neg (by simp [hretry])]
  dsimp only
  split
  · rfl
  next hlast => rw [if_pos (hmore.resolve_left hlast)]

/-! ### One transaction at a time -/

/-- One transaction has landed or can land, at most. -/
def Alone (s : Sending) : Prop :=
  ∀ b b' tx tx', s.txs.get b = some tx → s.txs.get b' = some tx' → tx.Live s.height →
    tx'.Live s.height → b = b'

/-- No transaction but the one on `only`. -/
def Only (s : Sending) (only : Option String) : Prop :=
  s.txs.All fun b tx => tx.Live s.height → only = some b

/-- An endpoint did not take what is given up for another transaction, or it has failed, or it has
outlived its blockhash. -/
def KeepsTrack (pool : RpcPool) (s : Sending) : SendEvent → Prop
  | .reply (.throws e taken _) =>
      match s.point with
      | .sendRawTransaction blockhash _ attempt =>
          maxSendAttempts ≤ attempt → (toServiceError e).retryable = true → s.More pool →
            ∀ tx ∈ s.txs.get blockhash, ¬(tx.take taken).Live s.height
      | _ => True
  | _ => True

instance (pool : RpcPool) (s : Sending) (e : SendEvent) : Decidable (s.KeepsTrack pool e) := by
  unfold KeepsTrack
  split
  · split <;> infer_instance
  · infer_instance

/-- The transaction that the call waits for. -/
def current : SendPoint → Option String
  | .getLatestBlockhash | .ended _ => none
  | .sendRawTransaction blockhash _ _ => some blockhash
  | .getSignatureStatuses p | .getBlockHeight p | .rebroadcast p | .sleep p => some p.signature

/-- Only what the call waits for is live; when it has ended, only one is. -/
def Tracked (s : Sending) : Prop :=
  ∃ only, s.Only only ∧ ((∃ result, s.point = .ended result) ∨ current s.point = only)

/-- One transaction at most is alive. -/
theorem Only.alone {only : Option String} (h : s.Only only) : s.Alone := by
  intro b b' tx tx' hb hb' hlive hlive'
  exact Option.some.inj ((h b tx hb hlive).symm.trans (h b' tx' hb' hlive'))

/-- Where no transaction changed and the height grew. -/
theorem Only.of_eq {only : Option String} (h : s.Only only) (htxs : s'.txs = s.txs)
    (hheight : s.height ≤ s'.height) : s'.Only only := by
  intro b tx hb hlive
  rw [htxs] at hb
  exact h b tx hb (hlive.imp_right fun ⟨hsent, hle⟩ => ⟨hsent, hheight.trans hle⟩)

/-- A transaction that is sent again is the same. -/
theorem Only.take {blockhash : String} (h : s.Only (some blockhash)) (taken : Bool) :
    (s.take blockhash taken).Only (some blockhash) := by
  intro b tx hb hlive
  rw [take_get] at hb
  rw [take_height] at hlive
  by_cases e : b = blockhash
  · rw [e]
  · rw [if_neg e] at hb
    exact h b tx hb hlive

/-- The one transaction that was live is not any more. -/
theorem Only.dead {blockhash : String} (h : s.Only (some blockhash))
    (hdead : ∀ tx ∈ s.txs.get blockhash, ¬tx.Live s.height) : s.Only none := by
  intro b tx hb hlive
  obtain rfl := Option.some.inj (h b tx hb hlive)
  exact absurd hlive (hdead tx hb)

/-- An error ends the send, or begins again with nothing alive. -/
theorem Tracked.throws {only : Option String} (h : s.Only only) (pool : RpcPool) (e : ServiceError)
    (hdead : e.retryable = true → s.More pool → s.Only none) : (s.throws pool e).Tracked := by
  obtain ⟨htxs, hheight, ⟨result, hended⟩ | ⟨hpoint, hretry, hmore⟩⟩ := throws_spec pool s e
  · exact ⟨only, h.of_eq htxs hheight.ge, .inl ⟨result, hended⟩⟩
  · exact ⟨none, (hdead hretry hmore).of_eq htxs hheight.ge, .inr (by rw [hpoint]; rfl)⟩

/-- What the send waits for is all that is alive. -/
theorem Tracked.only (h : s.Tracked) {point : SendPoint} (hpoint : s.point = point)
    (hne : ∀ result, point ≠ .ended result) : s.Only (current point) := by
  obtain ⟨only, honly, ⟨result, hended⟩ | hcurrent⟩ := h
  · exact absurd (hpoint.symm.trans hended) (hne result)
  · rwa [← hpoint, hcurrent]

theorem Tracked.of_goto {only : Option String} (h : s.Only only) {point : SendPoint}
    (hcurrent : current point = only) : (s.goto point).Tracked :=
  ⟨only, h, .inr hcurrent⟩

/-- A new blockhash, with nothing else alive. -/
theorem Only.begin (h : s.Only none) (blockhash : String) (lastValid : ℕ) :
    (if (s.txs.get blockhash).isSome then s.txs else s.txs.upd blockhash ⟨lastValid, .unsent⟩).All
      fun b tx => tx.Live s.height → some blockhash = some b := by
  intro b tx hb hlive
  split at hb
  · exact nomatch h b tx hb hlive
  · rw [Table.get_upd] at hb
    by_cases e : b = blockhash
    · rw [e]
    · rw [if_neg e] at hb
      exact nomatch h b tx hb hlive

/-- A reply keeps track of what is live. -/
theorem Tracked.resume {reply : Reply} (h : s.Tracked) (hg : s.KeepsTrack pool (.reply reply))
    (hstep : s.resume pool commitment reply = some s') : s'.Tracked := by
  unfold Sending.resume at hstep
  split at hstep
  next blockhash lastValid hpoint =>
    obtain rfl := Option.some.inj hstep
    have honly := h.only hpoint nofun
    exact ⟨some blockhash, honly.begin blockhash lastValid, .inr rfl⟩
  next e _ _ hpoint =>
    obtain rfl := Option.some.inj hstep
    have honly := h.only hpoint nofun
    exact .throws honly pool _ fun _ _ => honly
  next blockhash lastValid _ now hpoint =>
    obtain rfl := Option.some.inj hstep
    exact .of_goto ((h.only hpoint nofun).take true) rfl
  next blockhash lastValid attempt e taken now hpoint =>
    have honly := h.only hpoint nofun
    split at hstep
    · obtain rfl := Option.some.inj hstep
      exact .of_goto (honly.take taken) rfl
    next hlast =>
      obtain rfl := Option.some.inj hstep
      refine .throws (honly.take taken) pool _ fun hretry hmore => (honly.take taken).dead ?_
      -- the sends are used up, and another transaction follows
      have hused : maxSendAttempts ≤ attempt :=
        not_lt.mp fun hlt => hlast ⟨hlt, isRetryable_of_service hretry⟩
      simp only [KeepsTrack, hpoint] at hg
      rintro tx htx
      rw [take_get, if_pos rfl] at htx
      obtain ⟨before, hbefore, rfl⟩ := Option.map_eq_some_iff.mp htx
      rw [take_height]
      exact hg hused hretry hmore.of_take before hbefore
  next p hpoint =>
    obtain rfl := Option.some.inj hstep
    exact .of_goto (h.only hpoint nofun) rfl
  next p _ _ _ hpoint =>
    obtain rfl := Option.some.inj hstep
    exact .of_goto (h.only hpoint nofun) rfl
  next p status hpoint =>
    have honly := h.only hpoint nofun
    split at hstep
    next hreported =>
      split at hstep
      next e herr =>
        obtain rfl := Option.some.inj hstep
        refine .throws honly pool _ fun _ _ => honly.dead fun tx htx hlive => ?_
        unfold Reported at hreported
        rw [Option.mem_def.mp htx, herr] at hreported
        have hfailed : tx.fate = .failed := Option.some.inj hreported
        rcases hlive with hlanded | ⟨hsent, -⟩
        · exact nomatch hfailed.symm.trans hlanded
        · exact nomatch hfailed.symm.trans hsent
      · split at hstep
        · obtain rfl := Option.some.inj hstep
          exact ⟨_, honly, .inl ⟨_, rfl⟩⟩
        · obtain rfl := Option.some.inj hstep
          exact .of_goto honly rfl
    · cases hstep
  next p height now hpoint =>
    have honly := h.only hpoint nofun
    split at hstep
    · obtain rfl := Option.some.inj hstep
      exact .throws honly pool _ nofun
    · obtain rfl := Option.some.inj hstep
      unfold afterHeight
      split <;> exact .of_goto honly rfl
  next p _ _ now hpoint =>
    have honly := h.only hpoint nofun
    obtain rfl := Option.some.inj hstep
    unfold afterHeight
    split <;> exact .of_goto honly rfl
  next p _ hpoint =>
    obtain rfl := Option.some.inj hstep
    exact .of_goto ((h.only hpoint nofun).take true) rfl
  next p _ taken _ hpoint =>
    obtain rfl := Option.some.inj hstep
    exact .of_goto ((h.only hpoint nofun).take taken) rfl
  next p now hpoint =>
    have honly := h.only hpoint nofun
    obtain rfl := Option.some.inj hstep
    unfold poll
    split
    · exact .throws honly pool _ nofun
    · exact .of_goto honly rfl
  · cases hstep

/-- The cluster executes a transaction that is alive. -/
theorem Tracked.execute {blockhash : String} {fate : Fate} (h : s.Tracked)
    (hstep : s.execute blockhash fate = some s') : s'.Tracked := by
  unfold Sending.execute at hstep
  split at hstep
  next tx htx =>
    simp only [Option.ite_none_right_eq_some] at hstep
    obtain ⟨hlive, hstep⟩ := hstep
    obtain rfl := Option.some.inj hstep
    obtain ⟨only, honly, hpoint⟩ := h
    exact ⟨only, Table.All.upd honly fun _ => honly blockhash tx htx (.inr hlive), hpoint⟩
  · cases hstep

/-- **A step that keeps track leaves one transaction alive at most.**. -/
theorem Tracked.step {e : SendEvent} (h : s.Tracked)
    (hstep : Guarded (Step pool commitment) (KeepsTrack pool) s e s') : s'.Tracked := by
  obtain ⟨hstep, hg⟩ := hstep
  cases e with
  | reply reply => exact h.resume hg hstep
  | lands blockhash => exact h.execute hstep
  | fails blockhash => exact h.execute hstep
  | blocks height =>
      simp only [Step, next, Option.ite_none_right_eq_some] at hstep
      obtain ⟨hheight, hstep⟩ := hstep
      obtain rfl := Option.some.inj hstep
      obtain ⟨only, honly, hpoint⟩ := h
      exact ⟨only, honly.of_eq rfl hheight, hpoint⟩
  | moves index =>
      obtain rfl := Option.some.inj hstep
      exact h

/-! ### A transaction that is given up while it may land -/

/-- There is always another blockhash. -/
theorem exists_fresh (txs : Table String Tx) : ∃ blockhash, txs.get blockhash = none := by
  by_contra hall
  push Not at hall
  have hinfinite : (Set.univ : Set String).Infinite := Set.infinite_univ
  exact hinfinite (txs.finite.subset fun b _ => hall b)

/-- The next transaction is sent, on a blockhash of its own. -/
theorem both_live {blockhash : String} {tx : Tx} (hpoint : s.point = .getLatestBlockhash)
    (htx : s.txs.get blockhash = some tx) (hlive : tx.Live s.height) :
    ∃ es s', Run (Step pool commitment) s es s' ∧ ¬s'.Alone := by
  obtain ⟨fresh, hfresh⟩ := exists_fresh s.txs
  have hne : blockhash ≠ fresh := by
    rintro rfl
    exact nomatch hfresh.symm.trans htx
  let built : Sending := { s with
    point := .sendRawTransaction fresh s.height 1
    txs := s.txs.upd fresh ⟨s.height, .unsent⟩ }
  let sent := (built.take fresh true).goto (.getSignatureStatuses ⟨fresh, s.height, 0, 0⟩)
  have hbuild : Step pool commitment s (.reply (.blockhash fresh s.height)) built := by
    simp [Step, next, resume, hpoint, hfresh, built]
  refine ⟨[.reply (.blockhash fresh s.height), .reply (.sent 0)], sent,
    .cons hbuild (.one rfl), fun halone => hne ?_⟩
  refine halone blockhash fresh tx ⟨s.height, .sent⟩ ?_ ?_ ?_ (.inr ⟨rfl, ?_⟩)
  · rw [goto_txs, take_get, if_neg hne]
    exact (Table.get_upd_other hne).trans htx
  · rw [goto_txs, take_get, if_pos rfl, Table.get_upd_same]
    rfl
  · rwa [goto_height, take_height]
  · rw [goto_height, take_height]

/-- A step that forgets a transaction can leave two alive. -/
theorem both_live_of_forgets {e : SendEvent} (hstep : Step pool commitment s e s')
    (hforgets : ¬s.KeepsTrack pool e) :
    ∃ es s'', Run (Step pool commitment) s' es s'' ∧ ¬s''.Alone := by
  unfold KeepsTrack at hforgets
  split at hforgets
  next e taken now =>
    split at hforgets
    next blockhash lastValid attempt hpoint =>
      push Not at hforgets
      obtain ⟨hused, hretry, hmore, tx, htx, hlive⟩ := hforgets
      simp only [Step, next, resume, hpoint] at hstep
      rw [if_neg fun h => absurd h.1 (not_lt.mpr hused)] at hstep
      obtain rfl := Option.some.inj hstep
      obtain ⟨htxs, hheight, -⟩ := throws_spec pool (s.take blockhash taken) (toServiceError e)
      have hmore : (s.take blockhash taken).More pool := by
        unfold take
        split <;> exact hmore
      have htx : (s.take blockhash taken).txs.get blockhash = some (tx.take taken) := by
        rw [take_get, if_pos rfl, Option.mem_def.mp htx, Option.map_some]
      refine both_live (throws_more hretry hmore) (by rw [htxs, htx]) ?_
      rwa [hheight, take_height]
    · exact absurd trivial hforgets
  · exact absurd trivial hforgets

end Sending

/-- A call of `sendSigned`. -/
def Begins (s : Sending) : Prop := ∃ signers index height, s = sendSigned signers index height

theorem Begins.tracked {s : Sending} (h : Begins s) : s.Tracked := by
  obtain ⟨signers, index, height, rfl⟩ := h
  refine ⟨none, .empty, ?_⟩
  by_cases e : signers = []
  · exact .inl ⟨_, if_pos e⟩
  · exact .inr (by simp [sendSigned, e, Sending.current])

/-- **One call, one transaction.**  In a run that never gives up a transaction that has landed or
can land, one transaction of the call has landed or can land at most, and while one is sent it is
the one; and a call that gives one up goes on, in some run, until two can land. -/
theorem sendSigned_once (pool : RpcPool) (commitment : Commitment) :
    (∀ s, Reachable (Guarded (Sending.Step pool commitment) (Sending.KeepsTrack pool)) Begins s →
      s.Alone ∧ ∀ blockhash lastValid attempt,
        s.point = .sendRawTransaction blockhash lastValid attempt →
          ∀ b tx, s.txs.get b = some tx → tx.Live s.height → b = blockhash) ∧
    ∀ s e s', Sending.Step pool commitment s e s' → ¬s.KeepsTrack pool e →
      ∃ es s'', Run (Sending.Step pool commitment) s' es s'' ∧ ¬s''.Alone := by
  refine ⟨fun s hs => ?_, fun s e s' hstep hforgets => Sending.both_live_of_forgets hstep hforgets⟩
  have htracked : s.Tracked := hs.invariant (fun _ h => h.tracked) fun _ _ _ h hstep => h.step hstep
  refine ⟨?_, fun blockhash lastValid attempt hpoint b tx hb hlive => ?_⟩
  · obtain ⟨only, honly, -⟩ := htracked
    exact honly.alone
  · exact (Option.some.inj (htracked.only hpoint nofun b tx hb hlive)).symm

/-! A run -/

/-- One endpoint. -/
def devnet : RpcPool := ⟨1, one_pos⟩

def stall : Raised := ⟨"connect ETIMEDOUT", none⟩

def wallet : Pubkey := .key 1

/-- No endpoint takes the first transaction. -/
theorem sendSigned_once_rebuilt : ∃ s : Sending,
    s.point = .ended (.ok ("b2", 7)) ∧ s.Alone := by
  have run : (follow (Sending.next devnet .confirmed) (Sending.KeepsTrack devnet)
      (sendSigned [wallet] 0 100)
      ([.blockhash "b1" 150, .throws stall false 0, .throws stall false 0, .throws stall false 0,
        .blockhash "b2" 150, .throws stall true 0, .sent 0].map .reply ++
        [.lands "b2", .reply (.statuses (some ⟨7, none, .confirmed⟩))])).any (fun s =>
          match s.point with
          | .ended (.ok result) => decide (result = ("b2", 7))
          | _ => false) = true := by
    decide
  obtain ⟨s, hs, htest⟩ := (Option.any_eq_true _ _).mp run
  have hreach : Reachable (Guarded (Sending.Step devnet .confirmed) (Sending.KeepsTrack devnet))
      Begins s := ⟨_, _, ⟨_, _, _, rfl⟩, run_of_follow hs⟩
  refine ⟨s, ?_, ((sendSigned_once devnet .confirmed).1 s hreach).1⟩
  split at htest
  next result hpoint => rw [hpoint, of_decide_eq_true htest]
  · cases htest

/-- The endpoint takes the first transaction, and every response is lost. -/
theorem sendSigned_once_lost : ¬ ∀ (pool : RpcPool) (commitment : Commitment) (s : Sending),
    Reachable (Sending.Step pool commitment) Begins s → s.Alone := by
  intro hclaim
  have run : (follow (Sending.next devnet .confirmed) (fun _ _ => True)
      (sendSigned [wallet] 0 100)
      ([.blockhash "b1" 150, .throws stall true 0, .throws stall false 0, .throws stall false 0,
        .blockhash "b2" 150, .sent 0].map .reply ++ [.lands "b1", .lands "b2"])).any (fun s =>
          decide ((s.txs.get "b1").map (·.fate) = some .landed) &&
            decide ((s.txs.get "b2").map (·.fate) = some .landed)) = true := by
    decide
  obtain ⟨s, hs, htest⟩ := (Option.any_eq_true _ _).mp run
  simp only [Bool.and_eq_true, decide_eq_true_eq, Option.map_eq_some_iff] at htest
  obtain ⟨⟨tx, htx, hlanded⟩, tx', htx', hlanded'⟩ := htest
  have hreach : Reachable (Sending.Step devnet .confirmed) Begins s :=
    ⟨_, _, ⟨_, _, _, rfl⟩, (run_of_follow hs).of_guarded⟩
  exact absurd (hclaim _ _ s hreach "b1" "b2" tx tx' htx htx' (.inl hlanded) (.inl hlanded'))
    (by decide)

end SnakeArena.Sdk
