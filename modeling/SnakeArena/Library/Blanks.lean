import Mathlib.Data.List.Chain
import Mathlib.Data.List.DropRight
import Mathlib.Tactic.Common

/-!
# Library — blanks in a text

A text of spaces, of characters that are not to be seen, and of visible ones.  Each run of spaces is
one blank, the hidden characters go, and then the blanks at both ends.

What is hidden between two runs leaves two blanks side by side: between two visible characters there
are as many as there are runs (`clean_gap`), and every blank is in such a gap (`exists_gap`).
-/

namespace SnakeArena.Library
namespace Blanks

section Definitions
variable {α : Type*} (space hidden : α → Bool) (blank : α)

/-- Each run of spaces is one blank; `inRun` is whether one was just seen. -/
def collapse (inRun : Bool) : List α → List α
  | [] => []
  | c :: cs =>
      if space c then
        if inRun then collapse true cs else blank :: collapse true cs
      else c :: collapse false cs

/-- How many runs of spaces there are. -/
def runs (inRun : Bool) : List α → ℕ
  | [] => 0
  | c :: cs =>
      if space c then
        if inRun then runs true cs else runs true cs + 1
      else runs false cs

def strip (text : List α) : List α := text.filter fun c => !hidden c

def trim (text : List α) : List α := (text.dropWhile space).rdropWhile space

/-- What is left before the ends are trimmed. -/
def plain (text : List α) : List α := strip hidden (collapse space blank false text)

def clean (text : List α) : List α := trim space (plain space hidden blank text)

def Visible (c : α) : Prop := space c = false ∧ hidden c = false

instance : DecidablePred (Visible space hidden) := fun _ => inferInstanceAs (Decidable (_ ∧ _))

/-- What a text takes that ends visibly: its visible characters, and the runs after the first. -/
def width (text : List α) : ℕ :=
  text.countP (Visible space hidden ·) +
    runs space false (text.dropWhile (¬Visible space hidden ·))

/-- Between two visible characters, with spaces and nothing visible. -/
structure Gap (text before gap after : List α) : Prop where
  split : text = before ++ gap ++ after
  unseen : ∀ c ∈ gap, ¬Visible space hidden c
  spaced : 0 < runs space false gap
  last : ∃ x w, before = x ++ [w] ∧ Visible space hidden w
  head : ∃ v y, after = v :: y ∧ Visible space hidden v

end Definitions

variable {α : Type*} {space hidden : α → Bool} {blank : α}

/-! ### What is left -/

theorem collapse_append {v : α} (hv : space v = false) (x y : List α) : ∀ inRun,
    collapse space blank inRun (x ++ v :: y) =
      collapse space blank inRun x ++ v :: collapse space blank false y := by
  induction x with
  | nil =>
      intro inRun
      simp [collapse, hv]
  | cons c x ih =>
      intro inRun
      rw [List.cons_append, collapse, collapse]
      split_ifs
      · exact ih true
      · rw [ih true, List.cons_append]
      · rw [ih false, List.cons_append]

theorem plain_append {v : α} (hv : Visible space hidden v) (x y : List α) :
    plain space hidden blank (x ++ v :: y) =
      plain space hidden blank x ++ v :: plain space hidden blank y := by
  unfold plain strip
  rw [collapse_append hv.1, List.filter_append, List.filter_cons_of_pos (by simp [hv.2])]

/-- A gap is as many blanks as it has runs. -/
theorem strip_collapse_gap (hshown : hidden blank = false) {gap : List α} :
    ∀ inRun, (∀ c ∈ gap, ¬Visible space hidden c) →
      strip hidden (collapse space blank inRun gap) =
        List.replicate (runs space inRun gap) blank := by
  induction gap with
  | nil => exact fun _ _ => rfl
  | cons c gap ih =>
      intro inRun h
      have hrest : ∀ c ∈ gap, ¬Visible space hidden c := fun d hd => h d (List.mem_cons_of_mem c hd)
      rw [collapse, runs]
      by_cases hc : space c = true
      · rw [if_pos hc, if_pos hc]
        cases inRun with
        | true => exact ih true hrest
        | false =>
            simp only [Bool.false_eq_true, if_false]
            rw [strip, List.filter_cons_of_pos (by simp [hshown]), List.replicate_succ]
            exact congrArg (blank :: ·) (ih true hrest)
      · rw [if_neg hc, if_neg hc]
        have hhidden : hidden c = true := by
          by_contra hcon
          exact h c List.mem_cons_self ⟨by simpa using hc, by simpa using hcon⟩
        rw [strip, List.filter_cons_of_neg (by simp [hhidden])]
        exact ih false hrest

theorem mem_collapse {c : α} {text : List α} : ∀ {inRun}, c ∈ collapse space blank inRun text →
    c = blank ∨ space c = false ∧ c ∈ text := by
  induction text with
  | nil => exact fun h => absurd h List.not_mem_nil
  | cons d text ih =>
      intro inRun h
      have hlift : c = blank ∨ space c = false ∧ c ∈ text →
          c = blank ∨ space c = false ∧ c ∈ d :: text :=
        Or.imp_right fun h => ⟨h.1, List.mem_cons_of_mem d h.2⟩
      rw [collapse] at h
      split_ifs at h with hd
      · exact hlift (ih h)
      · rcases List.mem_cons.mp h with rfl | h
        · exact .inl rfl
        · exact hlift (ih h)
      · rcases List.mem_cons.mp h with rfl | h
        · exact .inr ⟨by simpa using hd, List.mem_cons_self⟩
        · exact hlift (ih h)

/-- A blank, or a visible character of the text. -/
theorem mem_plain {c : α} {text : List α} (h : c ∈ plain space hidden blank text) :
    hidden c = false ∧ (c = blank ∨ Visible space hidden c ∧ c ∈ text) := by
  obtain ⟨hmem, hc⟩ := List.mem_filter.mp h
  have hc : hidden c = false := by simpa using hc
  exact ⟨hc, (mem_collapse hmem).imp_right fun h => ⟨⟨h.1, hc⟩, h.2⟩⟩

/-! ### Trimming -/

theorem trim_subset (text : List α) : trim space text ⊆ text :=
  fun _ hc => List.dropWhile_subset _ ((List.rdropWhile_prefix _ _).subset hc)

theorem dropWhile_stop {v : α} (hv : space v = false) (x y : List α) :
    (x ++ v :: y).dropWhile space = x.dropWhile space ++ v :: y := by
  induction x with
  | nil => exact List.dropWhile_cons_of_neg (by simp [hv])
  | cons c x ih =>
      rw [List.cons_append, List.dropWhile_cons, List.dropWhile_cons]
      split_ifs
      · exact ih
      · rfl

theorem rdropWhile_stop {v : α} (hv : space v = false) (x y : List α) :
    (x ++ v :: y).rdropWhile space = x ++ v :: y.rdropWhile space := by
  have hreverse : (x ++ v :: y).reverse = y.reverse ++ v :: x.reverse := by simp
  rw [List.rdropWhile, hreverse, dropWhile_stop hv, List.rdropWhile]
  simp

theorem trim_eq_nil {text : List α} (h : ∀ c ∈ text, space c = true) : trim space text = [] := by
  rw [trim, List.dropWhile_eq_nil_iff.mpr h]
  rfl

/-! ### Gaps -/

section Gaps
variable (hshown : hidden blank = false) (hblank : space blank = true)
include hshown hblank

omit hshown hblank in
/-- The text up to a visible character. -/
theorem clean_concat {w : α} (hw : Visible space hidden w) (x : List α) :
    clean space hidden blank (x ++ [w]) = (plain space hidden blank x).dropWhile space ++ [w] := by
  rw [clean, plain_append hw, trim, dropWhile_stop hw.1, rdropWhile_stop hw.1]
  rfl

omit hshown hblank in
/-- What is shown up to a visible character is shown first. -/
theorem clean_append {w : α} (hw : Visible space hidden w) (x rest : List α) :
    clean space hidden blank (x ++ [w] ++ rest) =
      clean space hidden blank (x ++ [w]) ++ (plain space hidden blank rest).rdropWhile space := by
  rw [clean_concat hw, clean, List.append_assoc, List.singleton_append, plain_append hw, trim,
    dropWhile_stop hw.1, rdropWhile_stop hw.1]
  simp

omit hblank in
/-- **Between two visible characters there are as many blanks as runs.** -/
theorem clean_gap {w v : α} (hw : Visible space hidden w) (hv : Visible space hidden v)
    {gap : List α} (hgap : ∀ c ∈ gap, ¬Visible space hidden c) (x after : List α) :
    clean space hidden blank (x ++ [w] ++ gap ++ v :: after) =
      clean space hidden blank (x ++ [w]) ++ (List.replicate (runs space false gap) blank ++
        v :: (plain space hidden blank after).rdropWhile space) := by
  have hplain : plain space hidden blank gap = List.replicate (runs space false gap) blank :=
    strip_collapse_gap hshown false hgap
  rw [List.append_assoc, clean_append hw, plain_append hv, rdropWhile_stop hv.1, hplain]

/-- What is unseen leaves blanks only. -/
theorem space_of_mem_plain {text : List α} (h : ∀ c ∈ text, ¬Visible space hidden c) :
    ∀ c ∈ plain space hidden blank text, space c = true := by
  intro c hc
  rw [plain, strip_collapse_gap hshown false h] at hc
  rw [List.eq_of_mem_replicate hc]
  exact hblank

/-- What is left of the text after the last visible character is trimmed. -/
theorem clean_last {w : α} (hw : Visible space hidden w) {gap : List α}
    (hgap : ∀ c ∈ gap, ¬Visible space hidden c) (x : List α) :
    clean space hidden blank (x ++ [w] ++ gap) = clean space hidden blank (x ++ [w]) := by
  have hspaces : (plain space hidden blank gap).rdropWhile space = [] :=
    List.rdropWhile_eq_nil_iff.mpr (space_of_mem_plain hshown hblank hgap)
  rw [clean_append hw, hspaces, List.append_nil]

/-- Nothing is left where nothing is visible. -/
theorem clean_eq_nil {text : List α} (h : ∀ c ∈ text, ¬Visible space hidden c) :
    clean space hidden blank text = [] :=
  trim_eq_nil (space_of_mem_plain hshown hblank h)

/-- Up to its first visible character a text leaves blanks only, which are trimmed. -/
theorem dropWhile_plain_append {lead : List α} (h : ∀ c ∈ lead, ¬Visible space hidden c) {v : α}
    (hv : Visible space hidden v) (rest : List α) :
    (plain space hidden blank (lead ++ v :: rest)).dropWhile space =
      v :: plain space hidden blank rest := by
  rw [plain_append hv, dropWhile_stop hv.1,
    List.dropWhile_eq_nil_iff.mpr (space_of_mem_plain hshown hblank h), List.nil_append]

theorem clean_eq_nil_iff {text : List α} :
    clean space hidden blank text = [] ↔ ∀ c ∈ text, ¬Visible space hidden c := by
  refine ⟨fun h c hc hv => ?_, clean_eq_nil hshown hblank⟩
  obtain ⟨x, y, rfl⟩ := List.append_of_mem hc
  rw [List.append_cons, clean_append hv, clean_concat hv] at h
  simp at h

/-- A text that shows a space after what is `before` shows it in a gap. -/
theorem exists_gap_after {i : ℕ} {c : α} (hc : space c = true) : ∀ (rest x : List α) (w : α),
    Visible space hidden w → (clean space hidden blank (x ++ [w])).length ≤ i →
    (clean space hidden blank (x ++ [w] ++ rest))[i]? = some c → ∃ before gap after,
      Gap space hidden (x ++ [w] ++ rest) before gap after ∧
        (clean space hidden blank before).length ≤ i ∧
        i < (clean space hidden blank before).length + runs space false gap := by
  intro rest
  induction hn : rest.length using Nat.strong_induction_on generalizing rest with
  | _ n ih =>
      intro x w hw hle hi
      -- the next visible character, if there is one
      have hgap : ∀ d ∈ rest.takeWhile (¬Visible space hidden ·), ¬Visible space hidden d :=
        fun d hd => by simpa using List.mem_takeWhile_imp hd
      have hrest := List.takeWhile_append_dropWhile (p := (¬Visible space hidden ·)) (l := rest)
      generalize rest.takeWhile (¬Visible space hidden ·) = gap at hgap hrest
      cases htail : rest.dropWhile (¬Visible space hidden ·) with
      | nil =>
          rw [htail, List.append_nil] at hrest
          rw [← hrest, clean_last hshown hblank hw hgap, List.getElem?_eq_none hle] at hi
          cases hi
      | cons v after =>
          have hv : Visible space hidden v := by
            have hhead := List.head?_dropWhile_not (¬Visible space hidden ·) rest
            rw [htail] at hhead
            simpa using hhead
          rw [htail] at hrest
          have hclean := clean_gap hshown hw hv hgap x after
          subst hrest
          rw [← List.append_assoc] at hi ⊢
          have hwhole := hi
          rw [hclean, List.getElem?_append_right hle] at hi
          generalize hlength : (clean space hidden blank (x ++ [w])).length = length at hle hi
          by_cases hin : i < length + runs space false gap
          · refine ⟨x ++ [w], gap, v :: after,
              ⟨rfl, hgap, by omega, ⟨x, w, rfl, hw⟩, v, after, rfl, hv⟩,
              ?_, ?_⟩ <;> omega
          · rw [List.getElem?_append_right (by rw [List.length_replicate]; omega),
              List.length_replicate] at hi
            -- the visible character is no space: it is further on
            obtain hfirst | hfurther : i - length - runs space false gap = 0 ∨
              length + runs space false gap + 1 ≤ i := by omega
            · rw [hfirst, List.getElem?_cons_zero] at hi
              obtain rfl := Option.some.inj hi
              rw [hv.1] at hc
              cases hc
            · have hbefore : (clean space hidden blank (x ++ [w] ++ gap ++ [v])).length =
                  length + runs space false gap + 1 := by
                rw [clean_gap hshown hw hv hgap x []]
                simp [plain, strip, collapse, hlength, Nat.add_assoc]
              have hassoc : x ++ [w] ++ gap ++ v :: after =
                x ++ [w] ++ gap ++ [v] ++ after := by simp
              rw [hassoc] at hwhole ⊢
              exact ih after.length (by rw [← hn]; simp; omega) after rfl (x ++ [w] ++ gap) v hv
                (by omega) hwhole

/-- **A space that is shown is in a gap.** -/
theorem exists_gap {text : List α} {i : ℕ} {c : α} (hc : space c = true)
    (hi : (clean space hidden blank text)[i]? = some c) : ∃ before gap after,
      Gap space hidden text before gap after ∧
        (clean space hidden blank before).length ≤ i ∧
        i < (clean space hidden blank before).length + runs space false gap := by
  have hlead : ∀ d ∈ text.takeWhile (¬Visible space hidden ·), ¬Visible space hidden d :=
    fun d hd => by simpa using List.mem_takeWhile_imp hd
  have htext := List.takeWhile_append_dropWhile (p := (¬Visible space hidden ·)) (l := text)
  have hhead := List.head?_dropWhile_not (¬Visible space hidden ·) text
  generalize text.takeWhile (¬Visible space hidden ·) = lead at hlead htext
  generalize text.dropWhile (¬Visible space hidden ·) = tail at htext hhead
  subst htext
  cases tail with
  | nil =>
      rw [List.append_nil, clean_eq_nil hshown hblank hlead] at hi
      cases hi
  | cons v rest =>
      have hv : Visible space hidden v := by simpa using hhead
      have hfirst : clean space hidden blank (lead ++ [v]) = [v] := by
        rw [clean, trim, dropWhile_plain_append hshown hblank hlead hv]
        exact rdropWhile_stop hv.1 [] []
      have hsplit : lead ++ v :: rest = lead ++ [v] ++ rest := by simp
      rw [hsplit] at hi ⊢
      refine exists_gap_after hshown hblank hc rest lead v hv ?_ hi
      rw [hfirst]
      cases i with
      | zero =>
          rw [clean_append hv, hfirst] at hi
          obtain rfl := Option.some.inj hi
          rw [hv.1] at hc
          cases hc
      | succ i => exact Nat.succ_pos i

omit hblank in
theorem length_plain (text : List α) : ∀ inRun,
    (strip hidden (collapse space blank inRun text)).length =
      text.countP (Visible space hidden ·) + runs space inRun text := by
  induction text with
  | nil => exact fun _ => rfl
  | cons c text ih =>
      intro inRun
      rw [collapse, runs, List.countP_cons]
      by_cases hc : space c = true
      · have hunseen : ¬Visible space hidden c := fun h => by simp [h.1] at hc
        rw [if_pos hc, if_pos hc]
        cases inRun with
        | true => simpa [hunseen] using ih true
        | false =>
            have hblank : strip hidden (blank :: collapse space blank true text) =
                blank :: strip hidden (collapse space blank true text) :=
              List.filter_cons_of_pos (by simp [hshown])
            simp only [Bool.false_eq_true, if_false, hblank, List.length_cons, ih true, hunseen]
            simp
            omega
      · rw [if_neg hc, if_neg hc]
        have hc : space c = false := by simpa using hc
        cases hhidden : hidden c with
        | true =>
            have hgone : strip hidden (c :: collapse space blank false text) =
                strip hidden (collapse space blank false text) :=
              List.filter_cons_of_neg (by simp [hhidden])
            rw [hgone, ih false]
            simp [Visible, hhidden]
        | false =>
            have hkept : strip hidden (c :: collapse space blank false text) =
                c :: strip hidden (collapse space blank false text) :=
              List.filter_cons_of_pos (by simp [hhidden])
            rw [hkept, List.length_cons, ih false]
            simp [Visible, hc, hhidden]
            omega

/-- How long a text is once cleaned, that ends visibly. -/
theorem length_clean_concat {w : α} (hw : Visible space hidden w) (x : List α) :
    (clean space hidden blank (x ++ [w])).length = width space hidden (x ++ [w]) := by
  have hlead : ∀ d ∈ (x ++ [w]).takeWhile (¬Visible space hidden ·), ¬Visible space hidden d :=
    fun d hd => by simpa using List.mem_takeWhile_imp hd
  have htext := List.takeWhile_append_dropWhile (p := (¬Visible space hidden ·)) (l := x ++ [w])
  have hhead := List.head?_dropWhile_not (¬Visible space hidden ·) (x ++ [w])
  unfold width
  generalize (x ++ [w]).takeWhile (¬Visible space hidden ·) = lead at hlead htext
  generalize (x ++ [w]).dropWhile (¬Visible space hidden ·) = tail at htext hhead
  cases tail with
  | nil =>
      rw [List.append_nil] at htext
      exact absurd hw (hlead w (by simp [htext]))
  | cons v rest =>
      have hv : Visible space hidden v := by simpa using hhead
      have hclean : clean space hidden blank (x ++ [w]) = plain space hidden blank (v :: rest) := by
        calc clean space hidden blank (x ++ [w])
            = (plain space hidden blank (x ++ [w])).dropWhile space := by
              rw [clean_concat hw, plain_append hw, dropWhile_stop hw.1]
              rfl
          _ = v :: plain space hidden blank rest := by
              rw [← htext, dropWhile_plain_append hshown hblank hlead hv]
          _ = plain space hidden blank (v :: rest) := (plain_append hv [] rest).symm
      have hnone : lead.countP (Visible space hidden ·) = 0 :=
        List.countP_eq_zero.mpr fun c hc => by simpa using hlead c hc
      rw [hclean, plain, length_plain hshown, ← htext, List.countP_append, hnone, Nat.zero_add]

end Gaps

/-! ### What is clean stays so -/

/-- Blanks and visible characters, no two blanks in a row and none at an end. -/
structure Settled (space hidden : α → Bool) (blank : α) (text : List α) : Prop where
  mem : ∀ c ∈ text, hidden c = false ∧ (space c = true → c = blank)
  apart : text.IsChain fun a b => ¬(space a = true ∧ space b = true)
  head : ∀ c ∈ text.head?, space c = false
  last : ∀ c ∈ text.getLast?, space c = false

theorem collapse_eq_self {text : List α} : ∀ {inRun}, (∀ c ∈ text, space c = true → c = blank) →
    text.IsChain (fun a b => ¬(space a = true ∧ space b = true)) →
    (inRun = true → ∀ c ∈ text.head?, space c = false) →
      collapse space blank inRun text = text := by
  induction text with
  | nil => exact fun _ _ _ => rfl
  | cons c text ih =>
      intro inRun hblank hapart hhead
      have hrest : ∀ c ∈ text, space c = true → c = blank :=
        fun d hd => hblank d (List.mem_cons_of_mem c hd)
      rw [collapse]
      by_cases hc : space c = true
      · have hfresh : ¬inRun = true := fun hrun => by
          have := hhead hrun c rfl
          rw [hc] at this
          cases this
        rw [if_pos hc, if_neg hfresh, ← hblank c List.mem_cons_self hc,
          hblank c List.mem_cons_self hc]
        refine congrArg _ (ih hrest hapart.tail fun _ d hd => ?_)
        have hnext := (List.isChain_cons.mp hapart).1 d hd
        by_contra hcon
        exact hnext ⟨hc, by simpa using hcon⟩
      · rw [if_neg hc]
        exact congrArg _ (ih hrest hapart.tail fun h => absurd h Bool.false_ne_true)

/-- **What is settled is left as it is.** -/
theorem Settled.clean {text : List α} (h : Settled space hidden blank text) :
    clean space hidden blank text = text := by
  have hplain : plain space hidden blank text = text := by
    rw [plain, collapse_eq_self (fun c hc => (h.mem c hc).2) h.apart fun h => absurd h
      Bool.false_ne_true, strip, List.filter_eq_self]
    intro c hc
    simp [(h.mem c hc).1]
  rw [Blanks.clean, hplain, trim]
  have hdrop : text.dropWhile space = text := by
    cases text with
    | nil => rfl
    | cons c text => exact List.dropWhile_cons_of_neg (by simp [h.head c rfl])
  rw [hdrop]
  refine List.rdropWhile_eq_self_iff.mpr fun hne => ?_
  have := h.last (text.getLast hne) (List.getLast?_eq_getLast_of_ne_nil hne)
  simp [this]

/-! ### What is cut -/

section Cut
variable {text : List α}

theorem mem_clean {c : α} (h : c ∈ clean space hidden blank text) :
    hidden c = false ∧ (space c = true → c = blank) := by
  obtain ⟨hc, hmem⟩ := mem_plain (trim_subset _ h)
  refine ⟨hc, fun hspace => ?_⟩
  rcases hmem with hmem | ⟨hvisible, -⟩
  · exact hmem
  · rw [hvisible.1] at hspace
    cases hspace

theorem head_clean : ∀ c ∈ (clean space hidden blank text).head?, space c = false := by
  intro c hc
  rw [clean, trim] at hc
  have hprefix := List.rdropWhile_prefix space ((plain space hidden blank text).dropWhile space)
  have hhead := List.head?_dropWhile_not space (plain space hidden blank text)
  generalize (plain space hidden blank text).dropWhile space = dropped at hc hprefix hhead
  obtain ⟨rest, hrest⟩ := hprefix
  cases hkept : dropped.rdropWhile space with
  | nil =>
      rw [hkept] at hc
      cases hc
  | cons d kept =>
      rw [hkept] at hc hrest
      obtain rfl := Option.some.inj hc
      rw [← hrest] at hhead
      exact hhead

variable (hshown : hidden blank = false) (hblank : space blank = true)
include hshown hblank

omit hblank in
/-- What is shown before a gap, a blank for each run, and a visible character. -/
theorem Gap.shown {before gap after : List α} (h : Gap space hidden text before gap after) :
    ∃ v rest, space v = false ∧ clean space hidden blank text =
      clean space hidden blank before ++
        (List.replicate (runs space false gap) blank ++ v :: rest) := by
  obtain ⟨x, w, rfl, hw⟩ := h.last
  obtain ⟨v, y, rfl, hv⟩ := h.head
  exact ⟨v, _, hv.1, h.split ▸ clean_gap hshown hw hv h.unseen x y⟩

theorem Gap.length_clean {before gap after : List α} (h : Gap space hidden text before gap after) :
    (clean space hidden blank before).length = width space hidden before := by
  obtain ⟨x, w, rfl, hw⟩ := h.last
  exact length_clean_concat hshown hblank hw x

/-- A gap within the limit has one run where the text that is cut there is settled. -/
theorem runs_eq_one_of_settled {limit : ℕ} {before gap after : List α}
    (h : Settled space hidden blank ((clean space hidden blank text).take limit))
    (hgap : Gap space hidden text before gap after) (hlt : width space hidden before < limit) :
    runs space false gap = 1 ∧ width space hidden before + 1 ≠ limit := by
  rw [← hgap.length_clean hshown hblank] at hlt ⊢
  obtain ⟨v, rest, -, hclean⟩ := hgap.shown hshown
  have hspaced := hgap.spaced
  have hblankAt : ∀ i, (clean space hidden blank before).length ≤ i →
      i < (clean space hidden blank before).length + runs space false gap →
      (clean space hidden blank text)[i]? = some blank := by
    intro i hle hi
    rw [hclean, List.getElem?_append_right hle, List.getElem?_append_left (by simp; omega),
      List.getElem?_replicate, if_pos (by omega)]
  have hlength : (clean space hidden blank before).length + runs space false gap + 1 ≤
      (clean space hidden blank text).length := by
    rw [hclean]
    simp only [List.length_append, List.length_replicate, List.length_cons]
    omega
  generalize (clean space hidden blank before).length = shown at hlt hblankAt hlength
  generalize clean space hidden blank text = T at h hblankAt hlength
  have hlimit : shown + 1 ≠ limit := by
    rintro rfl
    have hlast := h.last blank
    rw [List.getLast?_eq_getElem?, List.length_take, min_eq_left (by omega), Nat.add_sub_cancel,
      List.getElem?_take_of_lt (by omega), hblankAt shown le_rfl (by omega)] at hlast
    rw [hlast rfl] at hblank
    cases hblank
  refine ⟨?_, hlimit⟩
  by_contra hruns
  have hapart := List.isChain_iff_getElem.mp h.apart shown (by rw [List.length_take]; omega)
  have hfirst := hblankAt shown le_rfl (by omega)
  have hsecond := hblankAt (shown + 1) (by omega) (by omega)
  obtain ⟨_, hfirst⟩ := List.getElem?_eq_some_iff.mp hfirst
  obtain ⟨_, hsecond⟩ := List.getElem?_eq_some_iff.mp hsecond
  rw [List.getElem_take, List.getElem_take, hfirst, hsecond] at hapart
  exact hapart ⟨hblank, hblank⟩

theorem settled_take {limit : ℕ}
    (h : ∀ before gap after, Gap space hidden text before gap after →
      width space hidden before < limit →
        runs space false gap = 1 ∧ width space hidden before + 1 ≠ limit) :
    Settled space hidden blank ((clean space hidden blank text).take limit) := by
  -- a space that is shown within the limit is the one of its gap, and is followed by another
  have hspace : ∀ i < limit, ∀ c, space c = true → (clean space hidden blank text)[i]? = some c →
      i + 1 ≠ limit ∧ ∃ v, (clean space hidden blank text)[i + 1]? = some v ∧ space v = false := by
    intro i hi c hc hget
    obtain ⟨before, gap, after, hgap, hle, hlt⟩ := exists_gap hshown hblank hc hget
    have hlength := hgap.length_clean hshown hblank
    obtain ⟨hruns, hlimit⟩ := h before gap after hgap (by omega)
    obtain ⟨v, rest, hv, hclean⟩ := hgap.shown hshown
    obtain rfl : i = (clean space hidden blank before).length := by omega
    refine ⟨by omega, v, ?_, hv⟩
    rw [hclean, hruns, List.getElem?_append_right (by omega)]
    simp
  refine ⟨fun c hc => mem_clean (List.mem_of_mem_take hc), ?_, fun c hc => ?_, fun c hc => ?_⟩
  · refine List.isChain_iff_getElem.mpr fun i hi => ?_
    rw [List.length_take] at hi
    rw [List.getElem_take, List.getElem_take]
    rintro ⟨hc, hd⟩
    obtain ⟨-, v, hget, hv⟩ := hspace i (by omega) _ hc (List.getElem?_eq_getElem (by omega))
    rw [List.getElem?_eq_getElem (by omega)] at hget
    rw [Option.some.inj hget, hv] at hd
    cases hd
  · cases limit with
    | zero => cases hc
    | succ limit =>
        refine @head_clean α space hidden blank text c ?_
        cases hclean : clean space hidden blank text with
        | nil =>
            rw [hclean] at hc
            exact hc
        | cons d rest =>
            rw [hclean] at hc
            exact hc
  · rw [List.getLast?_eq_getElem?, List.length_take] at hc
    by_contra hcon
    have hpos : 0 < min limit (clean space hidden blank text).length := by
      by_contra hzero
      rw [List.getElem?_eq_none (by rw [List.length_take]; omega)] at hc
      cases hc
    rw [List.getElem?_take_of_lt (by omega)] at hc
    obtain ⟨hlimit, v, hget, -⟩ := hspace _ (by omega) c (by simpa using hcon) hc
    have hlt := (List.getElem?_eq_some_iff.mp hget).1
    omega

/-- **What is cut is settled** where each gap within the limit has one run, and does not end at the
limit. -/
theorem settled_take_iff (limit : ℕ) :
    Settled space hidden blank ((clean space hidden blank text).take limit) ↔
      ∀ before gap after, Gap space hidden text before gap after →
        width space hidden before < limit →
          runs space false gap = 1 ∧ width space hidden before + 1 ≠ limit :=
  ⟨fun h _ _ _ hgap => runs_eq_one_of_settled hshown hblank h hgap, settled_take hshown hblank⟩

end Cut

end Blanks
end SnakeArena.Library
