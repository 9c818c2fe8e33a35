import Mathlib.Data.Set.Basic

/-!
# Sets of values with two unique keys

A value has two keys, `f v` and `g v`, and `put` adds a value after dropping all
that share a key with it.  Two values without a common key can be put in either
order (`put_comm`), whatever each of them drops.
-/

namespace TwoKeys

variable {α β γ : Type*} (f : γ → α) (g : γ → β)

/-- Add `v` and drop what shares a key with it. -/
def put (v : γ) (S : Set γ) : Set γ := {w | w = v ∨ w ∈ S ∧ f w ≠ f v ∧ g w ≠ g v}

variable {f g}

theorem mem_put {v w : γ} {S : Set γ} :
    w ∈ put f g v S ↔ w = v ∨ w ∈ S ∧ f w ≠ f v ∧ g w ≠ g v := Iff.rfl

/-- One half of `put_comm`. -/
theorem put_put_subset {v w : γ} (hf : f v ≠ f w) (hg : g v ≠ g w) (S : Set γ) :
    put f g v (put f g w S) ⊆ put f g w (put f g v S) := by
  intro u hu
  rcases hu with rfl | ⟨rfl | ⟨hu, hfw, hgw⟩, hfv, hgv⟩
  · exact .inr ⟨.inl rfl, hf, hg⟩
  · exact .inl rfl
  · exact .inr ⟨.inr ⟨hu, hfv, hgv⟩, hfw, hgw⟩

/-- Values without a common key can be put in either order. -/
theorem put_comm {v w : γ} (hf : f v ≠ f w) (hg : g v ≠ g w) (S : Set γ) :
    put f g v (put f g w S) = put f g w (put f g v S) :=
  (put_put_subset hf hg S).antisymm (put_put_subset hf.symm hg.symm S)

end TwoKeys
