import Mathlib.Data.UInt
import SnakeArena.Library.Blanks

/-!
# Realtime — chat

`sanitiseChat` of `anticheat/event-guard.ts`.  A string is its UTF-16 units, as the expressions of
the code read it: none of them has the `u` flag.

The runs of whitespace are collapsed before the control characters are stripped.  A stripped
character between two spaces therefore leaves both, and the text that is cut at 140 units may end in
one.

* `sanitiseChat_clean_iff`: a text is clean, and stays so, where there is no such gap.
-/

namespace SnakeArena.Realtime
open SnakeArena.Library.Blanks

/-- `\s`. -/
def isSpace (c : UInt16) : Bool :=
  9 ≤ c ∧ c ≤ 13 ∨ c = 0x20 ∨ c = 0xa0 ∨ c = 0x1680 ∨ 0x2000 ≤ c ∧ c ≤ 0x200a ∨ c = 0x2028 ∨
    c = 0x2029 ∨ c = 0x202f ∨ c = 0x205f ∨ c = 0x3000 ∨ c = 0xfeff

/-- The C0 and C1 controls, zero-width characters, and the bidi overrides. -/
def isControl (c : UInt16) : Bool :=
  c ≤ 0x1f ∨ 0x7f ≤ c ∧ c ≤ 0x9f ∨ 0x200b ≤ c ∧ c ≤ 0x200f ∨ 0x202a ≤ c ∧ c ≤ 0x202e ∨
    0x2066 ≤ c ∧ c ≤ 0x2069 ∨ c = 0xfeff

abbrev Units := List UInt16

def BLANK : UInt16 := 0x20

/-- What is cut, and the schema's cap on a body. -/
def CHAT_LENGTH : ℕ := 140

/-- Strips control characters and collapses runs of whitespace. -/
def sanitiseChat (body : Units) : Option Units :=
  -- whitespace first: newlines and tabs live in the C0 control range
  let cleaned := trim isSpace (strip isControl (collapse isSpace BLANK false body))
  if cleaned.length = 0 then none else some (cleaned.take CHAT_LENGTH)

/-- No control character, no two spaces in a row, none at an end, and no more than the cap. -/
structure CleanChat (text : Units) : Prop where
  shown : ∀ c ∈ text, isControl c = false
  apart : text.IsChain fun a b => ¬(isSpace a = true ∧ isSpace b = true)
  head : ∀ c ∈ text.head?, isSpace c = false
  last : ∀ c ∈ text.getLast?, isSpace c = false
  short : text.length ≤ CHAT_LENGTH

theorem sanitiseChat_eq (body : Units) :
    sanitiseChat body =
      if clean isSpace isControl BLANK body = [] then none
      else some ((clean isSpace isControl BLANK body).take CHAT_LENGTH) := by
  simp only [← List.length_eq_zero_iff]
  rfl

theorem control_blank : isControl BLANK = false := by decide
theorem space_blank : isSpace BLANK = true := by decide

/-- Only invisible characters, which is not a message. -/
theorem sanitiseChat_eq_none (body : Units) :
    sanitiseChat body = none ↔ ∀ c ∈ body, isSpace c = true ∨ isControl c = true := by
  have hunseen : ∀ c, ¬Visible isSpace isControl c ↔ isSpace c = true ∨ isControl c = true := by
    intro c
    rw [Visible, not_and_or, Bool.not_eq_false, Bool.not_eq_false]
  simp only [sanitiseChat_eq, ← hunseen, ← clean_eq_nil_iff control_blank space_blank]
  split_ifs with hclean <;> simp [hclean]

/-- What is clean passes unchanged. -/
theorem sanitiseChat_of_settled {text : Units} (h : Settled isSpace isControl BLANK text)
    (hne : text ≠ []) (hshort : text.length ≤ CHAT_LENGTH) : sanitiseChat text = some text := by
  rw [sanitiseChat_eq, h.clean, if_neg hne, List.take_of_length_le hshort]

theorem settled_iff_cleanChat (body : Units) :
    Settled isSpace isControl BLANK ((clean isSpace isControl BLANK body).take CHAT_LENGTH) ↔
      CleanChat ((clean isSpace isControl BLANK body).take CHAT_LENGTH) :=
  ⟨fun h => ⟨fun c hc => (h.mem c hc).1, h.apart, h.head, h.last, List.length_take_le _ _⟩,
    fun h => ⟨fun _ hc => mem_clean (List.mem_of_mem_take hc), h.apart, h.head, h.last⟩⟩

/-- **Sanitised chat is clean and stable** exactly where, within the cap, there is one run of
whitespace at most between two visible characters, and the cap is not right after it. -/
theorem sanitiseChat_clean_iff (body : Units) :
    ((∀ text, sanitiseChat body = some text → CleanChat text ∧ sanitiseChat text = some text) ∧
      (sanitiseChat body = none ↔ ∀ c ∈ body, isSpace c = true ∨ isControl c = true)) ↔
    ∀ before gap after, Gap isSpace isControl body before gap after →
      width isSpace isControl before < CHAT_LENGTH →
        runs isSpace false gap = 1 ∧ width isSpace isControl before + 1 ≠ CHAT_LENGTH := by
  rw [← settled_take_iff control_blank space_blank, and_iff_left (sanitiseChat_eq_none body)]
  by_cases hclean : clean isSpace isControl BLANK body = []
  · rw [sanitiseChat_eq, if_pos hclean, hclean]
    refine iff_of_true ?_ ⟨?_, .nil, ?_, ?_⟩
    all_goals rintro _ ⟨⟩
  · have hsome := (sanitiseChat_eq body).trans (if_neg hclean)
    rw [hsome]
    constructor
    · intro h
      exact (settled_iff_cleanChat body).mpr (h _ rfl).1
    · rintro h _ ⟨⟩
      refine ⟨(settled_iff_cleanChat body).mp h, sanitiseChat_of_settled h ?_ ?_⟩
      · rw [Ne, List.take_eq_nil_iff]
        simpa [CHAT_LENGTH] using hclean
      · exact List.length_take_le _ _

/-- A character that is not to be seen between two spaces: both of them stay. -/
theorem sanitiseChat_two_spaces :
    sanitiseChat [0x61, 0x20, 0x200b, 0x20, 0x62] = some [0x61, 0x20, 0x20, 0x62] ∧
      ¬CleanChat [0x61, 0x20, 0x20, 0x62] ∧
      sanitiseChat [0x61, 0x20, 0x20, 0x62] = some [0x61, 0x20, 0x62] := by
  refine ⟨by decide, fun h => ?_, by decide⟩
  have := h.apart
  revert this
  decide

end SnakeArena.Realtime
