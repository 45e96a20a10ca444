import SnakeArena.Library.Decimals
import SnakeArena.Library.Double
import SnakeArena.Library.Rows
import SnakeArena.Library.Utf16

/-!
# Library — JSON

What a text in JSON is read as, and how an object of texts and integers is written.  A string is
its UTF-16 units: a surrogate that stands alone is written as an escape, and is read back.

* `parse_stringify`: what was written is read.
-/

namespace SnakeArena.Library
open Utf16 (Units CodePoint)

inductive Json where
  | null
  | bool (b : Bool)
  | num (x : Double)
  | str (text : Units)
  | arr (items : List Json)
  | obj (members : List (Units × Json))

namespace Json

/-- The property of an object; the others have none. -/
def get (key : Units) : Json → Option Json
  | .obj members => (members.find? (·.1 = key)).map Prod.snd
  | _ => none

/-- A member that is there keeps its place. -/
def set (key : Units) (value : Json) : List (Units × Json) → List (Units × Json)
  | [] => [(key, value)]
  | member :: rest =>
      if member.1 = key then (key, value) :: rest else member :: set key value rest

/-! ### Strings -/

def hexDigit (n : ℕ) : Char := if n < 10 then .ofNat (48 + n) else .ofNat (87 + n)

def hexValue (c : Char) : Option ℕ :=
  let v := c.toNat
  if 48 ≤ v ∧ v ≤ 57 then some (v - 48)
  else if 97 ≤ v ∧ v ≤ 102 then some (v - 87)
  else if 65 ≤ v ∧ v ≤ 70 then some (v - 55)
  else none

/-- `\u` and four digits. -/
def unicodeEscape (n : ℕ) : List Char :=
  ['\\', 'u', hexDigit (n / 4096), hexDigit (n / 256 % 16), hexDigit (n / 16 % 16),
    hexDigit (n % 16)]

def quotePoint : CodePoint → List Char
  | .lone u => unicodeEscape u.toNat
  | .char c =>
      if c = '"' then ['\\', '"']
      else if c = '\\' then ['\\', '\\']
      else if c.toNat = 8 then ['\\', 'b']
      else if c.toNat = 9 then ['\\', 't']
      else if c.toNat = 10 then ['\\', 'n']
      else if c.toNat = 12 then ['\\', 'f']
      else if c.toNat = 13 then ['\\', 'r']
      else if c.toNat < 32 then unicodeEscape c.toNat
      else [c]

def quote (text : Units) : List Char :=
  '"' :: ((Utf16.codePoints text).flatMap quotePoint ++ ['"'])

/-- What a letter after a backslash stands for. -/
def escaped (c : Char) : Option UInt16 :=
  if c = '"' ∨ c = '\\' ∨ c = '/' then some (.ofNat c.toNat)
  else if c = 'b' then some 8
  else if c = 't' then some 9
  else if c = 'n' then some 10
  else if c = 'f' then some 12
  else if c = 'r' then some 13
  else none

def hexUnit (a b c d : Char) : Option UInt16 := do
  let a ← hexValue a
  let b ← hexValue b
  let c ← hexValue c
  let d ← hexValue d
  some (.ofNat (a * 4096 + b * 256 + c * 16 + d))

/-- Puts units before a string that was read. -/
def prepend (units : Units) (read : Option (Units × List Char)) : Option (Units × List Char) :=
  read.map fun read => (units ++ read.1, read.2)

/-- The rest of a string, and what follows it. -/
def readString : List Char → Option (Units × List Char)
  | [] => none
  | c :: text =>
      if c = '"' then some ([], text)
      else if c = '\\' then
        match text with
        | [] => none
        | e :: text =>
            if e = 'u' then
              match text with
              | a :: b :: c :: d :: text =>
                  (hexUnit a b c d).bind fun u => prepend [u] (readString text)
              | _ => none
            else (escaped e).bind fun u => prepend [u] (readString text)
      else if c.toNat < 32 then none
      else prepend (Utf16.charUnits c) (readString text)

theorem hexValue_hexDigit : ∀ n < 16, hexValue (hexDigit n) = some n := by decide

theorem readString_unicodeEscape (u : UInt16) (rest : List Char) :
    readString (unicodeEscape u.toNat ++ rest) = prepend [u] (readString rest) := by
  have := u.toNat_lt
  have hunit : u.toNat / 4096 * 4096 + u.toNat / 256 % 16 * 256 + u.toNat / 16 % 16 * 16 +
      u.toNat % 16 = u.toNat := by omega
  have hread : hexUnit (hexDigit (u.toNat / 4096)) (hexDigit (u.toNat / 256 % 16))
      (hexDigit (u.toNat / 16 % 16)) (hexDigit (u.toNat % 16)) = some u := by
    rw [hexUnit, hexValue_hexDigit _ (by omega), hexValue_hexDigit _ (by omega),
      hexValue_hexDigit _ (by omega), hexValue_hexDigit _ (by omega)]
    simp only [Option.bind_eq_bind, Option.bind_some, hunit, UInt16.ofNat_toNat]
  simp only [unicodeEscape, List.cons_append, List.nil_append, readString, Char.reduceEq, if_true,
    if_false, hread, Option.bind_some]

theorem readString_escaped {c : Char} {u : UInt16} (hc : c ≠ 'u') (hu : escaped c = some u)
    (rest : List Char) : readString ('\\' :: c :: rest) = prepend [u] (readString rest) := by
  rw [readString.eq_def]
  dsimp only
  rw [if_neg (by decide), if_pos rfl, if_neg hc, hu, Option.bind_some]

/-- A code point that is read back. -/
theorem readString_quotePoint (p : CodePoint) (rest : List Char) :
    readString (quotePoint p ++ rest) = prepend p.units (readString rest) := by
  cases p with
  | lone u => exact readString_unicodeEscape u rest
  | char c =>
      have hc : Char.ofNat c.toNat = c := Char.ofNat_toNat c
      have hletter : ∀ letter u, letter ≠ 'u' → escaped letter = some u → Utf16.charUnits c = [u] →
          readString (['\\', letter] ++ rest) =
            prepend (CodePoint.char c).units (readString rest) := by
        intro letter u hletter hu hunits
        rw [CodePoint.units, hunits]
        exact readString_escaped hletter hu rest
      rw [quotePoint]
      split_ifs with h₁ h₂ h₃ h₄ h₅ h₆ h₇ h₈
      · exact hletter '"' 34 (by decide) (by decide) (by rw [h₁]; decide)
      · exact hletter '\\' 92 (by decide) (by decide) (by rw [h₂]; decide)
      · exact hletter 'b' 8 (by decide) (by decide) (by rw [← hc, h₃]; decide)
      · exact hletter 't' 9 (by decide) (by decide) (by rw [← hc, h₄]; decide)
      · exact hletter 'n' 10 (by decide) (by decide) (by rw [← hc, h₅]; decide)
      · exact hletter 'f' 12 (by decide) (by decide) (by rw [← hc, h₆]; decide)
      · exact hletter 'r' 13 (by decide) (by decide) (by rw [← hc, h₇]; decide)
      · have hunit : (UInt16.ofNat c.toNat).toNat = c.toNat := Utf16.toNat_ofNat_unit (by omega)
        have hread := readString_unicodeEscape (UInt16.ofNat c.toNat) rest
        rw [hunit] at hread
        rw [hread, CodePoint.units, Utf16.charUnits, if_pos (by omega)]
      · rw [List.singleton_append, readString.eq_def]
        dsimp only
        rw [if_neg h₁, if_neg h₂, if_neg h₈]
        rfl

theorem readString_quote (text : Units) (rest : List Char) :
    readString (((Utf16.codePoints text).flatMap quotePoint ++ ['"']) ++ rest) =
      some (text, rest) := by
  have hpoints : ∀ points : List CodePoint,
      readString ((points.flatMap quotePoint ++ ['"']) ++ rest) =
        some (points.flatMap CodePoint.units, rest) := by
    intro points
    induction points with
    | nil =>
        rw [List.flatMap_nil, List.nil_append, List.singleton_append, readString.eq_def]
        exact if_pos rfl
    | cons p points ih =>
        rw [List.flatMap_cons, List.append_assoc, List.append_assoc, readString_quotePoint,
          ← List.append_assoc, ih]
        rfl
  rw [hpoints, Utf16.units_codePoints]

/-! ### Numerals -/

/-- The digits at the front. -/
def digits (text : List Char) : List Char × List Char :=
  (text.takeWhile Char.isDigit, text.dropWhile Char.isDigit)

/-- After the point, if there is one. -/
def fraction (text : List Char) : Option (List Char × List Char) :=
  match text with
  | '.' :: text => if (digits text).1 = [] then none else some (digits text)
  | _ => some ([], text)

def exponent (text : List Char) : Option (ℤ × List Char) :=
  let unsigned (text : List Char) : Option (ℤ × List Char) :=
    if (digits text).1 = [] then none
    else some (Nat.ofDigitChars 10 (digits text).1 0, (digits text).2)
  match text with
  | [] => some (0, [])
  | c :: text' =>
      if c = 'e' ∨ c = 'E' then
        match text' with
        | '+' :: text => unsigned text
        | '-' :: text => (unsigned text).map fun read => (-read.1, read.2)
        | text => unsigned text
      else some (0, text)

def readUnsigned (text : List Char) : Option (ℚ × List Char) :=
  let (whole, text) := digits text
  -- no zero leads another digit
  if whole = [] ∨ whole.head? = some '0' ∧ 1 < whole.length then none
  else
    (fraction text).bind fun (after, text) =>
      (exponent text).map fun (exponent, text) =>
        (Nat.ofDigitChars 10 (whole ++ after) 0 * 10 ^ (exponent - after.length), text)

def readNumber (text : List Char) : Option (Json × List Char) :=
  let read (negative : Bool) (read : Option (ℚ × List Char)) : Option (Json × List Char) :=
    read.map fun (q, text) => (.num (Double.ofRat (if negative then -q else q)), text)
  match text with
  | '-' :: text => read true (readUnsigned text)
  | text => read false (readUnsigned text)

/-! ### Values -/

def isSpace (c : Char) : Bool := c = ' ' ∨ c = '\t' ∨ c = '\n' ∨ c = '\r'

/-- The text after a character, with spaces before it. -/
def expect (c : Char) (text : List Char) : Option (List Char) :=
  match text.dropWhile isSpace with
  | d :: text => if d = c then some text else none
  | [] => none

def literal (word : List Char) (value : Json) (text : List Char) : Option (Json × List Char) :=
  if word <+: text then some (value, text.drop word.length) else none

mutual

/-- A value, and what follows it.  Each two steps of fuel read a character at least. -/
def readValue : ℕ → List Char → Option (Json × List Char)
  | 0, _ => none
  | fuel + 1, text =>
      match text.dropWhile isSpace with
      | [] => none
      | c :: text =>
          if c = '{' then
            match expect '}' text with
            | some text => some (.obj [], text)
            | none => readMembers fuel [] text
          else if c = '[' then
            match expect ']' text with
            | some text => some (.arr [], text)
            | none => readItems fuel [] text
          else if c = '"' then (readString text).map fun read => (.str read.1, read.2)
          else if c = 't' then literal ['r', 'u', 'e'] (.bool true) text
          else if c = 'f' then literal ['a', 'l', 's', 'e'] (.bool false) text
          else if c = 'n' then literal ['u', 'l', 'l'] .null text
          else readNumber (c :: text)

def readMembers : ℕ → List (Units × Json) → List Char → Option (Json × List Char)
  | 0, _, _ => none
  | fuel + 1, seen, text =>
      (expect '"' text).bind fun text =>
        (readString text).bind fun (key, text) =>
          (expect ':' text).bind fun text =>
            (readValue fuel text).bind fun (value, text) =>
              match expect ',' text with
              | some text => readMembers fuel (set key value seen) text
              | none => (expect '}' text).map fun text => (.obj (set key value seen), text)

def readItems : ℕ → List Json → List Char → Option (Json × List Char)
  | 0, _, _ => none
  | fuel + 1, seen, text =>
      (readValue fuel text).bind fun (value, text) =>
        match expect ',' text with
        | some text => readItems fuel (seen ++ [value]) text
        | none => (expect ']' text).map fun text => (.arr (seen ++ [value]), text)

end

/-- `JSON.parse`; none where it throws. -/
def parse (text : List Char) : Option Json :=
  match readValue (2 * text.length + 2) text with
  | some (value, text) => if text.dropWhile isSpace = [] then some value else none
  | none => none

/-! ### What is written -/

inductive Scalar where
  | text (t : Units)
  | integer (n : ℕ)
deriving DecidableEq

def Scalar.written : Scalar → List Char
  | .text t => quote t
  | .integer n => Nat.toDigits 10 n

def Scalar.value : Scalar → Json
  | .text t => .str t
  | .integer n => .num (.finite n)

/-- A number that is exact. -/
def Scalar.Safe : Scalar → Prop
  | .text _ => True
  | .integer n => n < 2 ^ 53

def writtenMember (member : Units × Scalar) : List Char :=
  quote member.1 ++ ':' :: member.2.written

def writtenMembers : List (Units × Scalar) → List Char
  | [] => []
  | [member] => writtenMember member
  | member :: rest => writtenMember member ++ ',' :: writtenMembers rest

/-- `JSON.stringify` of an object of texts and integers. -/
def stringify (members : List (Units × Scalar)) : List Char :=
  '{' :: (writtenMembers members ++ ['}'])

/-- The object. -/
def object (members : List (Units × Scalar)) : Json :=
  .obj (members.map fun member => (member.1, member.2.value))

/-! ### The round trip -/

theorem expect_self {c : Char} (hc : isSpace c = false) (text : List Char) :
    expect c (c :: text) = some text := by
  rw [expect, List.dropWhile_cons_of_neg (by simp [hc])]
  exact if_pos rfl

theorem expect_ne {c d : Char} (hd : isSpace d = false) (hne : d ≠ c) (text : List Char) :
    expect c (d :: text) = none := by
  rw [expect, List.dropWhile_cons_of_neg (by simp [hd])]
  exact if_neg hne

/-- What ends a member. -/
def Ends (text : List Char) : Prop := ∃ c rest, text = c :: rest ∧ (c = ',' ∨ c = '}')

theorem digits_append {whole rest : List Char} (h : Decimals.IsDigits whole) (hrest : Ends rest) :
    digits (whole ++ rest) = (whole, rest) := by
  obtain ⟨c, rest, rfl, hc⟩ := hrest
  have hstop : c.isDigit = false := by rcases hc with rfl | rfl <;> rfl
  rw [digits, List.takeWhile_append_of_pos h, List.dropWhile_append_of_pos h,
    List.takeWhile_cons_of_neg (by simp [hstop]), List.dropWhile_cons_of_neg (by simp [hstop]),
    List.append_nil]

/-- No zero leads the digits of a number. -/
theorem head_toDigits (n : ℕ) (h : 0 < n) : (Nat.toDigits 10 n).head? ≠ some '0' := by
  induction n using Nat.strong_induction_on with
  | _ n ih =>
      by_cases hlt : n < 10
      · rw [Nat.toDigits_of_lt_base hlt]
        have hdigit : ∀ m < 10, 0 < m → m.digitChar ≠ '0' := by decide
        simpa using hdigit n hlt h
      · have hne := Nat.toDigits_ne_nil (n := n / 10) (b := 10)
        rw [Nat.toDigits_of_base_le (by omega) (by omega), List.head?_append_of_ne_nil _ hne]
        exact ih _ (by omega) (by omega)

theorem readUnsigned_toDigits (n : ℕ) {rest : List Char} (hrest : Ends rest) :
    readUnsigned (Nat.toDigits 10 n ++ rest) = some ((n : ℚ), rest) := by
  have hlead : ¬(Nat.toDigits 10 n = [] ∨
      (Nat.toDigits 10 n).head? = some '0' ∧ 1 < (Nat.toDigits 10 n).length) := by
    rintro (hnil | ⟨hzero, hlength⟩)
    · exact Nat.toDigits_ne_nil hnil
    · rcases Nat.eq_zero_or_pos n with rfl | hpos
      · simp [Nat.toDigits_zero] at hlength
      · exact head_toDigits n hpos hzero
  obtain ⟨c, rest', rfl, hc⟩ := hrest
  have hfraction : fraction (c :: rest') = some ([], c :: rest') := by
    rcases hc with rfl | rfl <;> rfl
  have hexponent : exponent (c :: rest') = some (0, c :: rest') := by
    rcases hc with rfl | rfl <;> rfl
  rw [readUnsigned, digits_append (Decimals.isDigits_toDigits n) ⟨c, rest', rfl, hc⟩]
  dsimp only
  rw [if_neg hlead, hfraction, Option.bind_some, hexponent, Option.map_some, List.append_nil,
    Nat.ofDigitChars_ten_toDigits]
  simp

/-- The digits of a number, the first one apart. -/
theorem toDigits_cons (n : ℕ) : ∃ c rest, Nat.toDigits 10 n = c :: rest ∧ c.isDigit = true := by
  obtain ⟨c, rest, h⟩ := List.exists_cons_of_ne_nil (Nat.toDigits_ne_nil (n := n) (b := 10))
  exact ⟨c, rest, h, Decimals.isDigits_toDigits n c (h ▸ List.mem_cons_self)⟩

theorem readNumber_toDigits {n : ℕ} (h : n < 2 ^ 53) {rest : List Char} (hrest : Ends rest) :
    readNumber (Nat.toDigits 10 n ++ rest) = some (.num (.finite n), rest) := by
  have hread := readUnsigned_toDigits n hrest
  obtain ⟨c, cs, hdigits, hc⟩ := toDigits_cons n
  have hminus : c ≠ '-' := by
    rintro rfl
    cases hc
  rw [hdigits, List.cons_append] at hread ⊢
  rw [readNumber]
  · dsimp only
    rw [hread, Option.map_some, if_neg Bool.false_ne_true, Double.ofRat_natCast h]
  · intro text htext
    exact hminus (List.cons.inj htext).1

/-- A scalar that is read back. -/
theorem readValue_written {v : Scalar} (hv : v.Safe) (fuel : ℕ) {rest : List Char}
    (hrest : Ends rest) : readValue (fuel + 1) (v.written ++ rest) = some (v.value, rest) := by
  cases v with
  | text t =>
      have hread := readString_quote t rest
      rw [Scalar.written, quote, List.cons_append, readValue]
      simp only [List.dropWhile_cons_of_neg (show ¬isSpace '"' = true by decide), Char.reduceEq,
        if_false, if_true, hread, Option.map_some]
      rfl
  | integer n =>
      have hread := readNumber_toDigits hv hrest
      obtain ⟨c, cs, hdigits, hc⟩ := toDigits_cons n
      rw [hdigits, List.cons_append] at hread
      rw [Scalar.written, hdigits, List.cons_append]
      have hother : ∀ d : Char, d.isDigit = false → c ≠ d := by
        rintro d hd rfl
        rw [hc] at hd
        cases hd
      have hspace : isSpace c = false := by
        simp [isSpace, hother]
      rw [readValue, List.dropWhile_cons_of_neg (by simp [hspace])]
      dsimp only
      rw [if_neg (hother _ rfl), if_neg (hother _ rfl), if_neg (hother _ rfl),
        if_neg (hother _ rfl), if_neg (hother _ rfl), if_neg (hother _ rfl), hread]
      rfl

theorem set_new {key : Units} {seen : List (Units × Json)} (h : ∀ member ∈ seen, member.1 ≠ key)
    (value : Json) : set key value seen = seen ++ [(key, value)] := by
  induction seen with
  | nil => rfl
  | cons member seen ih =>
      obtain ⟨hmember, hseen⟩ := List.forall_mem_cons.mp h
      rw [set, if_neg hmember, ih hseen, List.cons_append]

/-- A member is read, and the value after it. -/
theorem readMembers_member {member : Units × Scalar} (hsafe : member.2.Safe) (fuel : ℕ)
    (seen : List (Units × Json)) {rest : List Char} (hrest : Ends rest) :
    readMembers (fuel + 2) seen (writtenMember member ++ rest) =
      match expect ',' rest with
      | some text => readMembers (fuel + 1) (set member.1 member.2.value seen) text
      | none => (expect '}' rest).map fun text =>
        (.obj (set member.1 member.2.value seen), text) := by
  have hvalue := readValue_written hsafe fuel hrest
  have hkey := readString_quote member.1 (':' :: (member.2.written ++ rest))
  have hwritten : writtenMember member ++ rest =
      '"' :: (((Utf16.codePoints member.1).flatMap quotePoint ++ ['"']) ++
        ':' :: (member.2.written ++ rest)) := by
    simp [writtenMember, quote]
  rw [hwritten, readMembers, expect_self rfl, Option.bind_some, hkey, Option.bind_some]
  dsimp only
  rw [expect_self rfl, Option.bind_some, hvalue, Option.bind_some]

/-- The members of an object, with those that were seen. -/
theorem readMembers_written {members : List (Units × Scalar)} (hne : members ≠ [])
    (rest : List Char) : ∀ (fuel : ℕ) (seen : List (Units × Json)),
      members.length ≤ fuel → (∀ member ∈ members, member.2.Safe) →
      (seen.map Prod.fst ++ members.map Prod.fst).Nodup →
      readMembers (fuel + 1) seen (writtenMembers members ++ '}' :: rest) =
        some (.obj (seen ++ members.map fun member => (member.1, member.2.value)), rest) := by
  induction members with
  | nil => exact absurd rfl hne
  | cons member members ih =>
      intro fuel seen hfuel hsafe hnodup
      obtain ⟨fuel, rfl⟩ : ∃ k, fuel = k + 1 := ⟨fuel - 1, by simp at hfuel; omega⟩
      obtain ⟨hmember, hsafe⟩ := List.forall_mem_cons.mp hsafe
      have hnew : ∀ old ∈ seen, old.1 ≠ member.1 := by
        rintro old hold heq
        exact (List.nodup_append.mp hnodup).2.2 old.1 (List.mem_map_of_mem hold) member.1
          List.mem_cons_self heq
      cases members with
      | nil =>
          rw [writtenMembers, readMembers_member hmember _ _ ⟨'}', rest, rfl, .inr rfl⟩,
            expect_ne rfl (by decide), expect_self rfl, set_new hnew]
          rfl
      | cons next members =>
          have hwritten : writtenMembers (member :: next :: members) =
              writtenMember member ++ ',' :: writtenMembers (next :: members) := rfl
          rw [hwritten, List.append_assoc, List.cons_append,
            readMembers_member hmember _ _ ⟨',', _, rfl, .inl rfl⟩, expect_self rfl, set_new hnew]
          dsimp only
          rw [ih (List.cons_ne_nil _ _) _ _ (by simpa using hfuel) hsafe ?_]
          · simp
          · simpa using hnodup

theorem writtenMembers_cons (member : Units × Scalar) (members : List (Units × Scalar)) :
    ∃ rest, writtenMembers (member :: members) = '"' :: rest ∧
      (writtenMembers members).length ≤ rest.length := by
  cases members with
  | nil => exact ⟨_, rfl, Nat.zero_le _⟩
  | cons next members =>
      have hwritten : writtenMembers (member :: next :: members) = '"' ::
          (((Utf16.codePoints member.1).flatMap quotePoint ++ ['"']) ++ ':' :: member.2.written ++
            ',' :: writtenMembers (next :: members)) := rfl
      refine ⟨_, hwritten, ?_⟩
      simp only [List.length_append, List.length_cons]
      omega

theorem length_writtenMembers (members : List (Units × Scalar)) :
    members.length ≤ (writtenMembers members).length := by
  induction members with
  | nil => exact Nat.zero_le _
  | cons member members ih =>
      obtain ⟨rest, hwritten, hlength⟩ := writtenMembers_cons member members
      rw [hwritten, List.length_cons, List.length_cons]
      omega

/-- **What was written is read.** -/
theorem parse_stringify {members : List (Units × Scalar)}
    (hsafe : ∀ member ∈ members, member.2.Safe)
    (hnodup : (members.map Prod.fst).Nodup) :
    parse (stringify members) = some (object members) := by
  have hfuel : members.length ≤ 2 * (stringify members).length := by
    have := length_writtenMembers members
    simp only [stringify, List.length_cons, List.length_append]
    omega
  have hread : readValue (2 * (stringify members).length + 2) (stringify members) =
      some (object members, []) := by
    generalize 2 * (stringify members).length = fuel at hfuel
    rw [stringify, readValue, List.dropWhile_cons_of_neg (by decide)]
    dsimp only
    rw [if_pos rfl]
    cases members with
    | nil => rfl
    | cons member members =>
        have hmembers := readMembers_written (List.cons_ne_nil member members) [] fuel
          [] hfuel hsafe
          (by simpa using hnodup)
        obtain ⟨rest, hwritten, -⟩ := writtenMembers_cons member members
        rw [hwritten, List.cons_append] at hmembers ⊢
        rw [expect_ne rfl (by decide)]
        exact hmembers
  rw [parse, hread]
  rfl

/-- A property of an object that was written. -/
theorem get_object {members : List (Units × Scalar)} (hnodup : (members.map Prod.fst).Nodup)
    {member : Units × Scalar} (h : member ∈ members) :
    (object members).get member.1 = some member.2.value := by
  have hunique : UniqueKeys Prod.fst (members.map fun member => (member.1, member.2.value)) := by
    rw [UniqueKeys, List.map_map]
    exact hnodup
  have hfind := hunique.find (List.mem_map_of_mem h)
  rw [object, get, hfind]
  rfl

end Json

end SnakeArena.Library
