import Mathlib.Data.List.Basic

/-!
# Library — folds

What the steps of a fold do, a fold does: it goes where each step goes, it has settled about every
element what the step of the element settles and no other undoes, and it follows another fold
whose steps it follows.
-/

namespace SnakeArena.Library
variable {α β γ : Type*}

/-- A fold goes where each of its steps goes. -/
theorem foldl_leads {R : β → β → Prop} (hrefl : ∀ b, R b b)
    (htrans : ∀ b b' b'', R b b' → R b' b'' → R b b'') {f : β → α → β} (hf : ∀ b a, R b (f b a))
    (as : List α) (b : β) : R b (as.foldl f b) :=
  List.foldlRecOn as f (hrefl b) fun b' h a _ => htrans b b' _ h (hf b' a)

/-- What a step settles about its element, and the other steps keep. -/
theorem foldl_settles {Q : α → β → Prop} {f : β → α → β} (hset : ∀ b a, Q a (f b a))
    (hkeep : ∀ b a a', Q a b → Q a (f b a')) : ∀ (as : List α) (b : β), ∀ a ∈ as, Q a (as.foldl f b)
  | a' :: as, b, a, ha => by
      by_cases hmem : a ∈ as
      · exact foldl_settles hset hkeep as _ a hmem
      · obtain rfl := (List.mem_cons.mp ha).resolve_right hmem
        exact List.foldlRecOn as f (hset b a) fun b' h a' _ => hkeep b' a a' h

/-- Steps that commute where an invariant holds of the state can be taken in any order. -/
theorem foldl_perm {P : α → Prop} {I : β → Prop} {f : β → α → β}
    (hI : ∀ b a, P a → I b → I (f b a))
    (hcomm : ∀ b a a', P a → P a' → I b → f (f b a) a' = f (f b a') a) {as as' : List α}
    (h : as.Perm as') : (∀ a ∈ as, P a) → ∀ b, I b → as.foldl f b = as'.foldl f b := by
  induction h with
  | nil => exact fun _ _ _ => rfl
  | cons a h ih =>
      intro hP b hb
      exact ih (fun a' ha' => hP a' (.tail _ ha')) (f b a) (hI b a (hP a (.head _)) hb)
  | swap a a' as =>
      intro hP b hb
      rw [List.foldl_cons, List.foldl_cons, List.foldl_cons, List.foldl_cons,
        hcomm b a' a (hP a' (.head _)) (hP a (.tail _ (.head _))) hb]
  | trans h h' ih ih' =>
      intro hP b hb
      exact (ih hP b hb).trans (ih' (fun a ha => hP a (h.mem_iff.mpr ha)) b hb)

end SnakeArena.Library
