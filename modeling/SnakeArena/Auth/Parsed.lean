import Mathlib
import SnakeArena.Auth.Message

/-!
# Auth — the message read back

`parseAuthMessage` reads the lines of a message.  It scans every line for every label and the last
match counts, so a statement may hold lines that imitate the labels: the real ones come after it.
What a pattern captures is not empty, so a field that is empty is not read back.

* `lines_buildAuthMessage`: the lines of a message, whatever its statement.
* `parse_buildAuthMessage`: what is read back from a message.
* `buildAuthMessage_inj`: a message tells its parameters.
-/

namespace SnakeArena.Auth

/-! ### Reading -/

/-- `message.split('\n')`. -/
def lines (message : String) : List String :=
  (message.toList.splitOn '\n').map String.ofList

/-- The `.` of a pattern, which no line terminator matches. -/
def dot (c : Char) : Bool :=
  c ∉ ['\n', '\r', Char.ofNat 0x2028, Char.ofNat 0x2029]

/-- `/^before(.+)after$/.exec(line)?.[1]`. -/
def capture (before after line : String) : Option String :=
  let length := line.toList.length - before.toList.length - after.toList.length
  let group := (line.toList.drop before.toList.length).take length
  if line.toList = before.toList ++ group ++ after.toList ∧ group ≠ [] ∧ group.all dot then
    some (String.ofList group)
  else none

/-- `Partial<AuthMessageParams>`; the statement is never read. -/
structure PartialParams where
  domain : Option String
  wallet : Option String
  nonce : Option String := none
  issuedAt : Option String := none
  expiresAt : Option String := none
deriving DecidableEq

def PartialParams.read (result : PartialParams) (line : String) : PartialParams :=
  { result with
    nonce := (capture "Nonce: " "" line).or result.nonce
    issuedAt := (capture "Issued At: " "" line).or result.issuedAt
    expiresAt := (capture "Expires At: " "" line).or result.expiresAt }

def parseAuthMessage (message : String) : PartialParams :=
  let lines := lines message
  lines.foldl PartialParams.read
    { domain :=
        capture "" " wants you to sign in with your Solana account:" (lines[0]?.getD "")
      wallet := lines[1]?.filter (· ≠ "") }

/-! ### Lines -/

theorem lines_append (x y : String) : lines (x ++ "\n" ++ y) = lines x ++ lines y := by
  simp [lines, List.splitOn_append_cons_self]

theorem lines_eq_singleton {x : String} (h : '\n' ∉ x.toList) : lines x = [x] := by
  simp [lines, List.splitOn_eq_singleton h]

theorem intercalate_lines (x : String) : "\n".intercalate (lines x) = x := by
  apply String.toList_injective
  simp [lines, Function.comp_def, List.intercalate_splitOn]

theorem lines_injective : Function.Injective lines := fun x y h => by
  rw [← intercalate_lines x, h, intercalate_lines]

/-- No line terminator. -/
def OneLine (s : String) : Prop := ∀ c ∈ s.toList, dot c = true

instance (s : String) : Decidable (OneLine s) :=
  decidable_of_iff (s.toList.all dot = true) List.all_eq_true

theorem OneLine.append {x y : String} (hx : OneLine x) (hy : OneLine y) : OneLine (x ++ y) := by
  intro c hc
  rw [String.toList_append, List.mem_append] at hc
  exact hc.elim (hx c) (hy c)

theorem OneLine.lines {x : String} (h : OneLine x) : lines x = [x] :=
  lines_eq_singleton fun hc => absurd (h _ hc) (by decide)

/-- Every field of the message is on a line of its own. -/
structure AuthMessageParams.SingleLine (p : AuthMessageParams) : Prop where
  domain : OneLine p.domain
  wallet : OneLine p.wallet
  nonce : OneLine p.nonce
  issuedAt : OneLine p.issuedAt
  expiresAt : OneLine p.expiresAt

instance (p : AuthMessageParams) : Decidable p.SingleLine :=
  decidable_of_iff (OneLine p.domain ∧ OneLine p.wallet ∧ OneLine p.nonce ∧ OneLine p.issuedAt ∧
      OneLine p.expiresAt)
    ⟨fun h => ⟨h.1, h.2.1, h.2.2.1, h.2.2.2.1, h.2.2.2.2⟩,
      fun h => ⟨h.domain, h.wallet, h.nonce, h.issuedAt, h.expiresAt⟩⟩

theorem lines_buildAuthMessage {p : AuthMessageParams} (h : p.SingleLine) :
    lines (buildAuthMessage p) =
      [p.domain ++ " wants you to sign in with your Solana account:", p.wallet, ""] ++
        lines p.statement ++ [""] ++
          ["Nonce: " ++ p.nonce, "Issued At: " ++ p.issuedAt, "Expires At: " ++ p.expiresAt] := by
  have hbuild : buildAuthMessage p =
      p.domain ++ " wants you to sign in with your Solana account:" ++ "\n" ++ (p.wallet ++ "\n" ++
        ("" ++ "\n" ++ (p.statement ++ "\n" ++ ("" ++ "\n" ++ ("Nonce: " ++ p.nonce ++ "\n" ++
          ("Issued At: " ++ p.issuedAt ++ "\n" ++ ("Expires At: " ++ p.expiresAt))))))) := by
    simp [buildAuthMessage, String.append_assoc]
  rw [hbuild]
  simp only [lines_append]
  rw [(h.domain.append (by decide)).lines, h.wallet.lines,
    (OneLine.append (x := "Nonce: ") (by decide) h.nonce).lines,
    (OneLine.append (x := "Issued At: ") (by decide) h.issuedAt).lines,
    (OneLine.append (x := "Expires At: ") (by decide) h.expiresAt).lines,
    lines_eq_singleton (x := "") (by simp)]
  simp

/-! ### Captures -/

section Captures
variable {before after line group s : String}

theorem capture_eq_some : capture before after line = some group ↔
    line = before ++ group ++ after ∧ group ≠ "" ∧ OneLine group := by
  unfold capture
  simp only [Option.ite_none_right_eq_some, Option.some.injEq]
  constructor
  · rintro ⟨⟨hline, hne, hdot⟩, rfl⟩
    refine ⟨String.toList_injective ?_, fun h => hne ?_, ?_⟩
    · rw [hline]
      simp
    · simpa using congrArg String.toList h
    · intro c hc
      exact List.all_eq_true.mp hdot c (by simpa using hc)
  · rintro ⟨rfl, hne, hdot⟩
    have hgroup : (List.drop before.toList.length (before ++ group ++ after).toList).take
        ((before ++ group ++ after).toList.length - before.toList.length - after.toList.length)
          = group.toList := by
      simp only [String.toList_append, List.append_assoc, List.drop_left, List.length_append]
      rw [Nat.add_sub_cancel_left, Nat.add_sub_cancel, List.take_left]
    rw [hgroup]
    refine ⟨⟨by simp, fun h => hne ?_, List.all_eq_true.mpr hdot⟩, String.ofList_toList⟩
    exact String.toList_injective (by simpa using h)

theorem capture_ne_empty : capture before after line ≠ some "" := fun h =>
  (capture_eq_some.mp h).2.1 rfl

theorem capture_label (hs : OneLine s) (hne : s ≠ "") :
    capture before "" (before ++ s) = some s :=
  capture_eq_some.mpr ⟨by simp, hne, hs⟩

/-- A line that starts with another letter. -/
theorem capture_eq_none (h : before.toList.head? ≠ line.toList.head?)
    (hbefore : before.toList ≠ []) : capture before after line = none := by
  cases hcapture : capture before after line with
  | none => rfl
  | some group =>
      obtain ⟨rfl, -, -⟩ := capture_eq_some.mp hcapture
      refine absurd ?_ h
      rw [String.toList_append, String.toList_append, List.append_assoc,
        List.head?_append_of_ne_nil _ hbefore]

end Captures

/-! ### What is read -/

/-- What was read so far is not empty. -/
structure PartialParams.Full (r : PartialParams) : Prop where
  nonce : r.nonce ≠ some ""
  issuedAt : r.issuedAt ≠ some ""
  expiresAt : r.expiresAt ≠ some ""

theorem or_ne_empty {x y : Option String} (hx : x ≠ some "") (hy : y ≠ some "") :
    x.or y ≠ some "" := by
  cases x with
  | none => exact hy
  | some s => exact hx

theorem PartialParams.Full.read {r : PartialParams} (h : r.Full) (line : String) :
    (r.read line).Full where
  nonce := or_ne_empty capture_ne_empty h.nonce
  issuedAt := or_ne_empty capture_ne_empty h.issuedAt
  expiresAt := or_ne_empty capture_ne_empty h.expiresAt

/-- The loop reads no domain and no wallet, and nothing empty. -/
theorem foldl_read (ls : List String) : ∀ r : PartialParams, r.Full →
    (ls.foldl PartialParams.read r).Full ∧ (ls.foldl PartialParams.read r).domain = r.domain ∧
      (ls.foldl PartialParams.read r).wallet = r.wallet := by
  induction ls with
  | nil => exact fun r h => ⟨h, rfl, rfl⟩
  | cons line ls ih =>
      intro r h
      obtain ⟨hfull, hdomain, hwallet⟩ := ih (r.read line) (h.read line)
      exact ⟨hfull, hdomain, hwallet⟩

/-- The labels are the last of what they match, and no other label's. -/
theorem read_labels (r : PartialParams) (p : AuthMessageParams) :
    ["Nonce: " ++ p.nonce, "Issued At: " ++ p.issuedAt, "Expires At: " ++ p.expiresAt].foldl
      PartialParams.read r = { r with
        nonce := (capture "Nonce: " "" ("Nonce: " ++ p.nonce)).or r.nonce
        issuedAt := (capture "Issued At: " "" ("Issued At: " ++ p.issuedAt)).or r.issuedAt
        expiresAt :=
          (capture "Expires At: " "" ("Expires At: " ++ p.expiresAt)).or r.expiresAt } := by
  have hother : ∀ before label s : String, before.toList.head? ≠ label.toList.head? →
      before.toList ≠ [] → label.toList ≠ [] → capture before "" (label ++ s) = none := by
    intro before label s h hbefore hlabel
    refine capture_eq_none ?_ hbefore
    rwa [String.toList_append, List.head?_append_of_ne_nil _ hlabel]
  simp only [List.foldl_cons, List.foldl_nil, PartialParams.read]
  rw [hother "Nonce: " "Issued At: ", hother "Nonce: " "Expires At: ",
    hother "Issued At: " "Nonce: ", hother "Issued At: " "Expires At: ",
    hother "Expires At: " "Nonce: ", hother "Expires At: " "Issued At: "] <;> first | rfl | decide

/-- A field that is not empty is read back from its line, before anything else. -/
theorem capture_or_eq_some {before s : String} {x : Option String} (hs : OneLine s)
    (hx : x ≠ some "") : (capture before "" (before ++ s)).or x = some s ↔ s ≠ "" := by
  constructor
  · rintro h rfl
    exact or_ne_empty capture_ne_empty hx h
  · intro hne
    rw [capture_label hs hne, Option.some_or]

theorem parse_buildAuthMessage {p : AuthMessageParams} (h : p.SingleLine) :
    ((parseAuthMessage (buildAuthMessage p)).domain = some p.domain ↔ p.domain ≠ "") ∧
      ((parseAuthMessage (buildAuthMessage p)).wallet = some p.wallet ↔ p.wallet ≠ "") ∧
      ((parseAuthMessage (buildAuthMessage p)).nonce = some p.nonce ↔ p.nonce ≠ "") ∧
      ((parseAuthMessage (buildAuthMessage p)).issuedAt = some p.issuedAt ↔ p.issuedAt ≠ "") ∧
      ((parseAuthMessage (buildAuthMessage p)).expiresAt = some p.expiresAt ↔
        p.expiresAt ≠ "") := by
  unfold parseAuthMessage
  rw [lines_buildAuthMessage h]
  simp only
  rw [List.foldl_append, read_labels]
  obtain ⟨hfull, hdomain, hwallet⟩ := foldl_read
    ([p.domain ++ " wants you to sign in with your Solana account:", p.wallet, ""] ++
      lines p.statement ++ [""])
    { domain := capture "" " wants you to sign in with your Solana account:"
        (p.domain ++ " wants you to sign in with your Solana account:")
      wallet := (some p.wallet).filter (· ≠ "") } ⟨by rintro ⟨⟩, by rintro ⟨⟩, by rintro ⟨⟩⟩
  refine ⟨?_, ?_, capture_or_eq_some h.nonce hfull.nonce,
    capture_or_eq_some h.issuedAt hfull.issuedAt, capture_or_eq_some h.expiresAt hfull.expiresAt⟩
  · refine (Eq.congr_left hdomain).trans (capture_eq_some.trans ?_)
    simp [h.domain]
  · refine (Eq.congr_left hwallet).trans ?_
    simp

theorem buildAuthMessage_inj {p q : AuthMessageParams} (hp : p.SingleLine) (hq : q.SingleLine)
    (h : buildAuthMessage p = buildAuthMessage q) : p = q := by
  have hlines := congrArg lines h
  rw [lines_buildAuthMessage hp, lines_buildAuthMessage hq] at hlines
  obtain ⟨hhead, hlabels⟩ := List.append_inj' hlines rfl
  obtain ⟨hhead, -⟩ := List.append_inj' hhead rfl
  obtain ⟨hhead, hstatement⟩ := List.append_inj hhead rfl
  simp only [List.cons.injEq, String.append_left_inj, String.append_right_inj, and_true]
    at hhead hlabels
  obtain ⟨hdomain, hwallet⟩ := hhead
  obtain ⟨hnonce, hissuedAt, hexpiresAt⟩ := hlabels
  cases p
  cases q
  simp_all [lines_injective.eq_iff]

/-! ### Signatures -/

theorem toList_loop (bs : ByteArray) (i : ℕ) (r : List UInt8) :
    ByteArray.toList.loop bs i r = r.reverse ++ bs.data.toList.drop i := by
  induction i, r using ByteArray.toList.loop.induct bs with
  | case1 i r h ih =>
      have hi : i < bs.data.toList.length := h
      have hget : bs.get! i = bs.data.toList[i] := getElem!_pos bs.data i h
      rw [ByteArray.toList.loop, if_pos h, ih, List.drop_eq_getElem_cons hi, hget]
      simp
  | case2 i r h =>
      have hi : bs.data.toList.length ≤ i := Nat.le_of_not_lt h
      rw [ByteArray.toList.loop, if_neg h, List.drop_eq_nil_of_le hi, List.append_nil]

theorem toUTF8_toList_injective : Function.Injective fun s : String => s.toUTF8.toList := by
  intro s t h
  have hdata : ∀ bs : ByteArray, bs.toList = bs.data.toList := fun bs => toList_loop bs 0 []
  simp only [hdata] at h
  exact String.toByteArray_inj.mp (ByteArray.ext (Array.toList_inj.mp h))

/-- A signature of the wallet is over one message. -/
def Nacl.Binding (nacl : Nacl) (wallet : String) : Prop :=
  ∀ publicKey, nacl.decode wallet = some publicKey → ∀ signature m m',
    nacl.verify m signature publicKey = some true →
      nacl.verify m' signature publicKey = some true → m = m'

theorem verifySignature_eq_true {nacl : Nacl} {message signature wallet : String} :
    nacl.verifySignature message signature wallet = true ↔ ∃ publicKey bytes,
      nacl.decode wallet = some publicKey ∧ nacl.decode signature = some bytes ∧
        publicKey.length = 32 ∧ bytes.length = 64 ∧
          nacl.verify message.toUTF8.toList bytes publicKey = some true := by
  unfold Nacl.verifySignature
  cases nacl.decode wallet with
  | none => simp
  | some publicKey =>
      cases nacl.decode signature with
      | none => simp
      | some bytes =>
          dsimp only
          split_ifs with h
          · simp
            omega
          · rw [not_or, not_not, not_not] at h
            simp [h, Option.getD_eq_iff]

/-- A statement that imitates the line of a nonce. -/
def imitation : AuthMessageParams where
  domain := "arena.example"
  wallet := "wallet"
  nonce := "17"
  issuedAt := "2026-07-30T12:00:00.000Z"
  expiresAt := "2026-07-30T12:05:00.000Z"
  statement := "Welcome.\nNonce: 18"

/-- A wallet that signed the one message. -/
def signer : Nacl where
  decode text :=
    if text = "wallet" then some (List.replicate 32 1)
    else if text = "signature" then some (List.replicate 64 2)
    else none
  verify message _ _ := some (message = (buildAuthMessage imitation).toUTF8.toList)

end SnakeArena.Auth
