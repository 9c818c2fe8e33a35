import Mathlib.Data.Set.Function

/-!
# Edits of a set

A log of insertions and removals, and the set it leaves.  An injective image of the set
follows the image of the log (`foldl_map_image`).  Edits within a set `F` see nothing of
what lies outside of it (`apply_inter`).
-/

/-- An edit of a set. -/
inductive SetEdit (α : Type*)
  | insert (a : α)
  | erase (a : α)

namespace SetEdit

variable {α β : Type*}

/-- The element an edit is about. -/
def elem : SetEdit α → α
  | insert a => a
  | erase a => a

def apply (s : Set α) : SetEdit α → Set α
  | insert a => Insert.insert a s
  | erase a => s \ {a}

def map (f : α → β) : SetEdit α → SetEdit β
  | insert a => insert (f a)
  | erase a => erase (f a)

theorem elem_map (f : α → β) (e : SetEdit α) : (e.map f).elem = f e.elem := by
  cases e <;> rfl

/-- An edit within `F` edits the part of the set in `F`. -/
theorem apply_inter {s F : Set α} {e : SetEdit α} (he : e.elem ∈ F) :
    e.apply s ∩ F = e.apply (s ∩ F) := by
  cases e with
  | insert a => exact Set.insert_inter_of_mem he
  | erase a => exact Set.sdiff_inter_right_comm s {a} F

theorem apply_subset {s U : Set α} (hs : s ⊆ U) {e : SetEdit α} (he : e.elem ∈ U) :
    e.apply s ⊆ U := by
  cases e with
  | insert a => exact Set.insert_subset he hs
  | erase a => exact Set.sdiff_subset.trans hs

theorem apply_map_image {f : α → β} {s U : Set α} (hf : U.InjOn f) (hs : s ⊆ U) {e : SetEdit α}
    (he : e.elem ∈ U) : (e.map f).apply (f '' s) = f '' e.apply s := by
  cases e with
  | insert a => exact (Set.image_insert_eq).symm
  | erase a =>
      ext b
      simp only [map, apply, Set.mem_sdiff, Set.mem_image, Set.mem_singleton_iff]
      constructor
      · rintro ⟨⟨c, hc, rfl⟩, hne⟩
        exact ⟨c, ⟨hc, fun hca => hne (by rw [hca])⟩, rfl⟩
      · rintro ⟨c, ⟨hc, hne⟩, rfl⟩
        exact ⟨⟨c, hc, rfl⟩, fun hfc => hne (hf (hs hc) he hfc)⟩

/-- The image of the set is edited by the image of the log. -/
theorem foldl_map_image {f : α → β} {s U : Set α} (hf : U.InjOn f) (hs : s ⊆ U)
    {es : List (SetEdit α)} (hes : ∀ e ∈ es, e.elem ∈ U) :
    (es.map (map f)).foldl apply (f '' s) = f '' es.foldl apply s := by
  induction es generalizing s with
  | nil => rfl
  | cons e es ih =>
      rw [List.forall_mem_cons] at hes
      rw [List.map_cons, List.foldl_cons, List.foldl_cons, apply_map_image hf hs hes.1]
      exact ih (apply_subset hs hes.1) hes.2

end SetEdit
