import Mathlib.Tactic.Linarith
import SnakeArena.Library.Decimals

/-!
# Web — lamports (`lib/lamports.ts`)

`formatSol` shows an amount of lamports as SOL, with the decimals that are not zero.  It truncates
the magnitude, so that a figure is never larger than what is there; a negative one is then shown as
larger.

* `displays_iff`: what is shown is at most the amount where it is not negative, or nothing is
  truncated.
-/

namespace SnakeArena.Web
open SnakeArena.Library Decimals

def LAMPORTS_PER_SOL : ℕ := 1000000000

def DECIMALS : ℕ := 9

/-- What the functions of the page take: a decimal string, a bigint, or nothing. -/
inductive LamportValue where
  | text (value : String)
  | bigint (value : ℤ)
  | missing

/-- The digits of a lamport string: `/^-?\d+$/`. -/
def parseDigits (text : List Char) : Option ℕ :=
  if text ≠ [] ∧ text.all Char.isDigit then some (Nat.ofDigitChars 10 text 0) else none

/-- Parses a lamport string, tolerating junk. -/
def parseLamports (value : String) : Option ℤ :=
  match value.toList with
  | '-' :: text => (parseDigits text).map fun n => -(n : ℤ)
  | text => (parseDigits text).map fun n => (n : ℤ)

def LamportValue.lamports : LamportValue → Option ℤ
  | .text value => parseLamports value
  | .bigint value => some value
  | .missing => none

/-- A separator before each digit that leaves whole groups of three, but for the first. -/
def groupDigits (first : Bool) : List Char → List Char
  | [] => []
  | digit :: digits =>
      if ¬first ∧ (digits.length + 1) % 3 = 0 then ',' :: digit :: groupDigits false digits
      else digit :: groupDigits false digits

/-- Groups digits for readability. -/
def formatThousands (value : ℕ) : List Char := groupDigits true (Nat.toDigits 10 value)

def padStart (width : ℕ) (digits : List Char) : List Char :=
  List.replicate (width - digits.length) '0' ++ digits

/-- Renders lamports as SOL. -/
def formatSol (value : LamportValue) (maxDecimals : ℕ) (sign : Bool) : String :=
  match value.lamports with
  | none => "—"
  | some lamports =>
      let absolute := lamports.natAbs
      let whole := absolute / LAMPORTS_PER_SOL
      let remainder := absolute % LAMPORTS_PER_SOL
      -- padded to nine places first, then truncated
      let fractionalDigits := (padStart DECIMALS (Nat.toDigits 10 remainder)).take maxDecimals
      let magnitude := formatThousands whole ++ afterPoint (trim fractionalDigits)
      let sign := if lamports < 0 then ['-'] else if sign ∧ 0 < lamports then ['+'] else []
      String.ofList (sign ++ magnitude)

/-! ### What is shown -/

/-- The output as a decimal, its separators removed. -/
def readBack (text : String) : Option ℚ := readDecimal (text.toList.filter (· ≠ ','))

theorem filter_digits {digits : List Char} (h : IsDigits digits) :
    digits.filter (· ≠ ',') = digits := by
  refine List.filter_eq_self.mpr fun c hc => decide_eq_true ?_
  rintro rfl
  exact absurd (h _ hc) (by decide)

theorem filter_groupDigits (digits : List Char) : ∀ first, IsDigits digits →
    (groupDigits first digits).filter (· ≠ ',') = digits := by
  induction digits with
  | nil => exact fun _ _ => rfl
  | cons digit digits ih =>
      intro first h
      have hrest := ih false fun c hc => h c (List.mem_cons_of_mem digit hc)
      have hdigit : digit ≠ ',' := by
        rintro rfl
        exact absurd (h _ List.mem_cons_self) (by decide)
      unfold groupDigits
      split_ifs
      · rw [List.filter_cons_of_neg (by simp),
          List.filter_cons_of_pos (by simpa using hdigit), hrest]
      · rw [List.filter_cons_of_pos (by simpa using hdigit), hrest]

/-- The remainder, in nine places. -/
theorem padStart_spec {n : ℕ} (h : n < LAMPORTS_PER_SOL) :
    (padStart DECIMALS (Nat.toDigits 10 n)).length = 9 ∧
      IsDigits (padStart DECIMALS (Nat.toDigits 10 n)) ∧
      Nat.ofDigitChars 10 (padStart DECIMALS (Nat.toDigits 10 n)) 0 = n := by
  have hlength := (Nat.length_toDigits_le_iff (b := 10) (by omega) (by omega : 0 < 9)).mpr h
  refine ⟨?_, ?_, ?_⟩
  · rw [padStart, List.length_append, List.length_replicate, DECIMALS]
    omega
  · refine IsDigits.append (fun c hc => ?_) (isDigits_toDigits n)
    rw [List.eq_of_mem_replicate hc]
    decide
  · rw [padStart, Nat.ofDigitChars_append, Nat.ofDigitChars_replicate_zero, Nat.mul_zero,
      Nat.ofDigitChars_ten_toDigits]

/-- How many places after the point are shown. -/
def places (text : String) : ℕ := ((text.toList.dropWhile (· ≠ '.')).drop 1).length

/-- The magnitude, truncated to the places. -/
def truncated (absolute maxDecimals : ℕ) : ℚ :=
  (absolute / 10 ^ (9 - maxDecimals) : ℕ) / 10 ^ maxDecimals

/-- What is read back: a figure towards zero. -/
def shown (lamports : ℤ) (maxDecimals : ℕ) : ℚ :=
  if lamports < 0 then -truncated lamports.natAbs maxDecimals
  else truncated lamports.natAbs maxDecimals

section
variable {maxDecimals : ℕ}

/-- The whole part and the first places of the remainder. -/
theorem truncated_eq (hplaces : maxDecimals ≤ 9) (absolute : ℕ) :
    truncated absolute maxDecimals = (absolute / LAMPORTS_PER_SOL : ℕ) +
      (absolute % LAMPORTS_PER_SOL / 10 ^ (9 - maxDecimals) : ℕ) / 10 ^ maxDecimals := by
  have hpow : LAMPORTS_PER_SOL = 10 ^ maxDecimals * 10 ^ (9 - maxDecimals) := by
    rw [← pow_add, Nat.add_sub_cancel' hplaces]
    rfl
  have hdiv : absolute / 10 ^ (9 - maxDecimals) = absolute / LAMPORTS_PER_SOL * 10 ^ maxDecimals +
      absolute % LAMPORTS_PER_SOL / 10 ^ (9 - maxDecimals) := by
    conv_lhs => rw [← Nat.div_add_mod absolute LAMPORTS_PER_SOL]
    generalize absolute / LAMPORTS_PER_SOL = whole
    generalize absolute % LAMPORTS_PER_SOL = remainder
    rw [hpow, Nat.mul_comm (10 ^ maxDecimals), Nat.mul_assoc,
      Nat.mul_add_div (Nat.pow_pos (by omega)), Nat.mul_comm]
  rw [truncated, hdiv]
  push_cast
  field_simp

/-- The places of the remainder that are shown. -/
theorem shownDigits_spec (hplaces : maxDecimals ≤ 9) (absolute : ℕ) :
    IsDigits (trim ((padStart DECIMALS (Nat.toDigits 10 (absolute % LAMPORTS_PER_SOL))).take
      maxDecimals)) ∧
    (trim ((padStart DECIMALS (Nat.toDigits 10 (absolute % LAMPORTS_PER_SOL))).take
      maxDecimals)).length ≤ maxDecimals ∧
    (absolute / LAMPORTS_PER_SOL : ℕ) + fraction (trim ((padStart DECIMALS
      (Nat.toDigits 10 (absolute % LAMPORTS_PER_SOL))).take maxDecimals)) =
        truncated absolute maxDecimals := by
  obtain ⟨hlength, hdigits, hvalue⟩ :=
    padStart_spec (Nat.mod_lt absolute (by decide : 0 < LAMPORTS_PER_SOL))
  generalize padStart DECIMALS (Nat.toDigits 10 (absolute % LAMPORTS_PER_SOL)) = digits at *
  have htake : (digits.take maxDecimals).length = maxDecimals := by
    rw [List.length_take, hlength, min_eq_left hplaces]
  refine ⟨(hdigits.subset (List.take_subset _ _)).subset (trim_subset _), ?_, ?_⟩
  · exact (length_trim_le _).trans htake.le
  · rw [fraction_trim, fraction, htake, ofDigitChars_take hdigits, hvalue, hlength,
      truncated_eq hplaces]

/-- Digits, a separator or a point: what the magnitude is written with. -/
theorem groupDigits_ne_point (digits : List Char) : ∀ first, IsDigits digits →
    ∀ c ∈ groupDigits first digits, c ≠ '.' := by
  induction digits with
  | nil => exact fun _ _ c hc => absurd hc List.not_mem_nil
  | cons digit digits ih =>
      intro first h c hc
      have hrest := ih false (fun c hc => h c (List.mem_cons_of_mem digit hc)) c
      have hdigit : digit ≠ '.' := by
        rintro rfl
        exact absurd (h _ List.mem_cons_self) (by decide)
      unfold groupDigits at hc
      split_ifs at hc
      · rcases List.mem_cons.mp hc with rfl | hc
        · decide
        · rcases List.mem_cons.mp hc with rfl | hc
          · exact hdigit
          · exact hrest hc
      · rcases List.mem_cons.mp hc with rfl | hc
        · exact hdigit
        · exact hrest hc

/-- A magnitude has no sign before it. -/
theorem readDecimal_unsigned {text : List Char}
    (h : ∃ c rest, text = c :: rest ∧ c.isDigit = true) :
    readDecimal text = readUnsigned text := by
  obtain ⟨c, rest, rfl, hc⟩ := h
  unfold readDecimal
  split
  next heq =>
      obtain ⟨rfl, -⟩ := List.cons.inj heq
      exact absurd hc (by decide)
  next heq =>
      obtain ⟨rfl, -⟩ := List.cons.inj heq
      exact absurd hc (by decide)
  · rfl

/-- **What is shown reads back as the figure towards zero.** -/
theorem readBack_formatSol (hplaces : maxDecimals ≤ 9) {value : LamportValue} {lamports : ℤ}
    (h : value.lamports = some lamports) (sign : Bool) :
    readBack (formatSol value maxDecimals sign) = some (shown lamports maxDecimals) ∧
      places (formatSol value maxDecimals sign) ≤ maxDecimals := by
  obtain ⟨hdigits, hlength, hvalue⟩ := shownDigits_spec hplaces lamports.natAbs
  unfold formatSol shown
  rw [h]
  dsimp only
  generalize trim ((padStart DECIMALS (Nat.toDigits 10 (lamports.natAbs % LAMPORTS_PER_SOL))).take
    maxDecimals) = digits at *
  generalize hwhole : Nat.toDigits 10 (lamports.natAbs / LAMPORTS_PER_SOL) = whole
  have hwholeDigits : IsDigits whole := hwhole ▸ isDigits_toDigits _
  have hne : whole ≠ [] := hwhole ▸ Nat.toDigits_ne_nil
  have hpoint : (afterPoint digits).filter (· ≠ ',') = afterPoint digits := by
    unfold afterPoint
    split_ifs
    · rfl
    · rw [List.filter_cons_of_pos (by decide), filter_digits hdigits]
  have hmagnitude : (formatThousands (lamports.natAbs / LAMPORTS_PER_SOL) ++
      afterPoint digits).filter (· ≠ ',') = whole ++ afterPoint digits := by
    rw [List.filter_append, formatThousands, hwhole, filter_groupDigits whole true hwholeDigits,
      hpoint]
  have hread : readUnsigned (whole ++ afterPoint digits) =
      some (truncated lamports.natAbs maxDecimals) := by
    rw [readUnsigned_text hwholeDigits hne hdigits, ← hvalue, ← hwhole,
      Nat.ofDigitChars_ten_toDigits]
  constructor
  · have hplain : readDecimal (whole ++ afterPoint digits) =
        some (truncated lamports.natAbs maxDecimals) := by
      rw [readDecimal_unsigned, hread]
      obtain ⟨c, rest, rfl⟩ := List.exists_cons_of_ne_nil hne
      exact ⟨c, rest ++ afterPoint digits, rfl, hwholeDigits c List.mem_cons_self⟩
    rw [readBack, String.toList_ofList, List.filter_append, hmagnitude]
    by_cases hneg : lamports < 0
    · rw [if_pos hneg, if_pos hneg]
      exact congrArg (Option.map (- ·)) hread
    · rw [if_neg hneg, if_neg hneg]
      split_ifs
      · exact hread
      · exact hplain
  · have hbefore : ∀ before : List Char, (∀ c ∈ before, c ≠ '.') →
        ((before ++ afterPoint digits).dropWhile (· ≠ '.')).drop 1 = digits := by
      intro before hbefore
      rw [List.dropWhile_append_of_pos fun c hc => decide_eq_true (hbefore c hc)]
      unfold afterPoint
      split_ifs with hnil
      · rw [hnil]
        rfl
      · rfl
    rw [places, String.toList_ofList, ← List.append_assoc, hbefore]
    · exact hlength
    · intro c hc
      rcases List.mem_append.mp hc with hc | hc
      · split_ifs at hc
        · rcases List.mem_singleton.mp hc with rfl
          decide
        · rcases List.mem_singleton.mp hc with rfl
          decide
        · exact absurd hc List.not_mem_nil
      · rw [formatThousands, hwhole] at hc
        exact groupDigits_ne_point whole true hwholeDigits c hc

/-! ### Never more than there is -/

/-- At most the amount, within one unit of the last place, and exact with all nine. -/
structure Understates (lamports : ℤ) (maxDecimals : ℕ) (figure : ℚ) : Prop where
  atMost : figure ≤ lamports / LAMPORTS_PER_SOL
  near : lamports / LAMPORTS_PER_SOL - figure < 1 / 10 ^ maxDecimals
  full : maxDecimals = 9 → figure = lamports / LAMPORTS_PER_SOL

/-- The places that are shown, and those that are not. -/
theorem LAMPORTS_PER_SOL_eq (hplaces : maxDecimals ≤ 9) :
    (LAMPORTS_PER_SOL : ℚ) = 10 ^ maxDecimals * 10 ^ (9 - maxDecimals) := by
  rw [← pow_add, Nat.add_sub_cancel' hplaces]
  norm_num [LAMPORTS_PER_SOL]

/-- What truncating leaves out of a magnitude. -/
theorem truncated_spec (hplaces : maxDecimals ≤ 9) (absolute : ℕ) :
    (absolute : ℚ) / LAMPORTS_PER_SOL = truncated absolute maxDecimals +
      (absolute % 10 ^ (9 - maxDecimals) : ℕ) / LAMPORTS_PER_SOL := by
  conv_lhs => rw [← Nat.div_add_mod absolute (10 ^ (9 - maxDecimals))]
  rw [truncated, LAMPORTS_PER_SOL_eq hplaces]
  push_cast
  field_simp

theorem truncated_mono {absolute absolute' : ℕ} (h : absolute ≤ absolute') (maxDecimals : ℕ) :
    truncated absolute maxDecimals ≤ truncated absolute' maxDecimals := by
  unfold truncated
  have hle : ((absolute / 10 ^ (9 - maxDecimals) : ℕ) : ℚ) ≤
      (absolute' / 10 ^ (9 - maxDecimals) : ℕ) :=
    by exact_mod_cast Nat.div_le_div_right h
  gcongr

theorem truncated_nonneg (absolute maxDecimals : ℕ) : 0 ≤ truncated absolute maxDecimals := by
  unfold truncated
  positivity

/-- **A larger amount is shown as no less.** -/
theorem shown_mono {lamports lamports' : ℤ} (h : lamports ≤ lamports') (maxDecimals : ℕ) :
    shown lamports maxDecimals ≤ shown lamports' maxDecimals := by
  have hleft := truncated_nonneg lamports.natAbs maxDecimals
  have hright := truncated_nonneg lamports'.natAbs maxDecimals
  unfold shown
  split_ifs
  · have := @truncated_mono lamports'.natAbs lamports.natAbs (by omega) maxDecimals
    linarith
  · linarith
  · omega
  · exact truncated_mono (by omega) maxDecimals

/-- A figure towards zero understates what is not negative, and what it does not truncate. -/
theorem understates_shown_iff (hplaces : maxDecimals ≤ 9) (lamports : ℤ) :
    Understates lamports maxDecimals (shown lamports maxDecimals) ↔
      0 ≤ lamports ∨ (10 ^ (9 - maxDecimals) : ℤ) ∣ lamports := by
  have hspec := truncated_spec hplaces lamports.natAbs
  have hrest : ((lamports.natAbs % 10 ^ (9 - maxDecimals) : ℕ) : ℚ) / LAMPORTS_PER_SOL <
      1 / 10 ^ maxDecimals := by
    have hlt : ((lamports.natAbs % 10 ^ (9 - maxDecimals) : ℕ) : ℚ) < 10 ^ (9 - maxDecimals) := by
      exact_mod_cast Nat.mod_lt _ (Nat.pow_pos (by omega))
    rw [LAMPORTS_PER_SOL_eq hplaces, div_lt_div_iff₀ (by positivity) (by positivity)]
    have := mul_lt_mul_of_pos_right hlt (by positivity : (0 : ℚ) < 10 ^ maxDecimals)
    linarith
  have hdvd : (10 ^ (9 - maxDecimals) : ℤ) ∣ lamports ↔
      lamports.natAbs % 10 ^ (9 - maxDecimals) = 0 := by
    rw [← Int.natAbs_dvd_natAbs, Int.natAbs_pow, Nat.dvd_iff_mod_eq_zero]
    rfl
  have hnonneg : (0 : ℚ) ≤ (lamports.natAbs % 10 ^ (9 - maxDecimals) : ℕ) / LAMPORTS_PER_SOL := by
    positivity
  have hnine : maxDecimals = 9 → lamports.natAbs % 10 ^ (9 - maxDecimals) = 0 := by
    rintro rfl
    exact Nat.mod_one _
  rw [hdvd]
  rcases lt_or_ge lamports 0 with hneg | hpos
  · have habs : (lamports : ℚ) = -(lamports.natAbs : ℚ) := by
      rw [Nat.cast_natAbs, abs_of_neg hneg, Int.cast_neg, neg_neg]
    rw [shown, if_pos hneg, or_iff_right hneg.not_ge]
    constructor
    · intro h
      have hle := h.atMost
      rw [habs, neg_div, hspec] at hle
      have hzero : ((lamports.natAbs % 10 ^ (9 - maxDecimals) : ℕ) : ℚ) / LAMPORTS_PER_SOL = 0 := by
        linarith
      rw [div_eq_zero_iff] at hzero
      rcases hzero with hzero | hzero
      · exact_mod_cast hzero
      · exact absurd hzero (by norm_num [LAMPORTS_PER_SOL])
    · intro hzero
      rw [hzero, Nat.cast_zero, zero_div, add_zero] at hspec
      have hexact : -truncated lamports.natAbs maxDecimals = lamports / LAMPORTS_PER_SOL := by
        rw [habs, neg_div, hspec]
      refine ⟨hexact.le, ?_, fun _ => hexact⟩
      rw [hexact, sub_self]
      positivity
  · have habs : (lamports : ℚ) = (lamports.natAbs : ℚ) := by
      rw [Nat.cast_natAbs, abs_of_nonneg hpos]
    rw [shown, if_neg hpos.not_gt]
    refine iff_of_true ⟨?_, ?_, fun h => ?_⟩ (.inl hpos)
    · rw [habs, hspec]
      linarith
    · rw [habs, hspec]
      linarith
    · rw [habs, hspec, hnine h, Nat.cast_zero, zero_div, add_zero]

/-- **Displayed money never overstates** where the amount is not negative, or nothing of it is
truncated; and a larger amount never shows less. -/
theorem displays_iff (hplaces : maxDecimals ≤ 9) (sign : Bool) :
    (∀ (value : LamportValue) (lamports : ℤ), value.lamports = some lamports →
      ((∃ figure, readBack (formatSol value maxDecimals sign) = some figure ∧
        places (formatSol value maxDecimals sign) ≤ maxDecimals ∧
        Understates lamports maxDecimals figure) ↔
          0 ≤ lamports ∨ (10 ^ (9 - maxDecimals) : ℤ) ∣ lamports)) ∧
    ∀ (value value' : LamportValue) (lamports lamports' : ℤ), value.lamports = some lamports →
      value'.lamports = some lamports' → lamports ≤ lamports' → ∃ figure figure',
        readBack (formatSol value maxDecimals sign) = some figure ∧
          readBack (formatSol value' maxDecimals sign) = some figure' ∧ figure ≤ figure' := by
  constructor
  · intro value lamports h
    obtain ⟨hread, hle⟩ := readBack_formatSol hplaces h sign
    rw [← understates_shown_iff hplaces, hread]
    constructor
    · rintro ⟨figure, hfigure, -, hunderstates⟩
      obtain rfl := Option.some.inj hfigure
      exact hunderstates
    · exact fun hunderstates => ⟨_, rfl, hle, hunderstates⟩
  · intro value value' lamports lamports' h h' hle
    exact ⟨_, _, (readBack_formatSol hplaces h sign).1, (readBack_formatSol hplaces h' sign).1,
      shown_mono hle maxDecimals⟩

end

/-- Five digits are cut off, and an amount that differs in them shows the same. -/
theorem displays_iff_truncated : ∃ figure figure',
    formatSol (.text "1234512345678") 4 true = "+1,234.5123" ∧
      readBack (formatSol (.text "1234512345678") 4 true) = some figure ∧
      places (formatSol (.text "1234512345678") 4 true) ≤ 4 ∧
      Understates 1234512345678 4 figure ∧
      readBack (formatSol (.bigint 1234512399999) 4 true) = some figure' ∧ figure ≤ figure' := by
  have hplaces : 4 ≤ 9 := by decide
  obtain ⟨figure, hread, hle, hunderstates⟩ :=
    ((displays_iff hplaces true).1 (.text "1234512345678") 1234512345678 (by decide)).mpr
      (.inl (by decide))
  obtain ⟨figure₁, figure', hread₁, hread', hmono⟩ := (displays_iff hplaces true).2
    (.text "1234512345678") (.bigint 1234512399999) 1234512345678 1234512399999 (by decide) rfl
    (by decide)
  obtain rfl := Option.some.inj (hread.symm.trans hread₁)
  exact ⟨figure, figure', by decide, hread, hle, hunderstates, hread', hmono⟩

/-- A drift of minus one lamport is shown as zero, which is more. -/
theorem displays_drift : ¬ ∀ (maxDecimals : ℕ) (value : LamportValue) (lamports : ℤ),
    maxDecimals ≤ 9 → value.lamports = some lamports → ∃ figure,
      readBack (formatSol value maxDecimals false) = some figure ∧
        Understates lamports maxDecimals figure := by
  intro hclaim
  obtain ⟨figure, hfigure, hunderstates⟩ := hclaim 4 (.bigint (-1)) (-1) (by decide) rfl
  obtain rfl : figure = 0 := Option.some.inj (hfigure.symm.trans (by decide))
  exact absurd hunderstates.atMost (by norm_num [LAMPORTS_PER_SOL])

end SnakeArena.Web
