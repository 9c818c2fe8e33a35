import Mathlib.Logic.Relation

/-!
# Lifecycles

A thing is created with terms that stay for good, moves between statuses, and is
linked to something at most once.  A terminal status is never left.

A `Lifecycle` names the statuses and the empty link.  `Step` is one step of one
thing, from `none` when it does not exist yet.  What a sequence of steps keeps is
stated for `Relation.ReflTransGen`, so that a program may stutter.
-/

universe u v w

/-- The statuses of a lifecycle, and the link of a thing that is not linked yet. -/
structure Lifecycle (σ : Type v) (ℓ : Type w) where
  initial : σ
  /-- The status a thing has right after it is linked. -/
  active : σ
  terminal : σ → Prop
  unlinked : ℓ

/-- A thing at one moment of its life. -/
structure Lifecycle.Life (τ : Type u) (σ : Type v) (ℓ : Type w) where
  terms : τ
  status : σ
  link : ℓ

namespace Lifecycle

variable {τ : Type u} {σ : Type v} {ℓ : Type w} (C : Lifecycle σ ℓ)

inductive Step : Option (Life τ σ ℓ) → Option (Life τ σ ℓ) → Prop
  | create (terms : τ) : Step none (some ⟨terms, C.initial, C.unlinked⟩)
  | link (terms : τ) (link : ℓ) :
      Step (some ⟨terms, C.initial, C.unlinked⟩) (some ⟨terms, C.active, link⟩)
  | move (terms : τ) (link : ℓ) {status : σ} (status' : σ) (hopen : ¬ C.terminal status) :
      Step (some ⟨terms, status, link⟩) (some ⟨terms, status', link⟩)

variable {C} {life : Life τ σ ℓ} {later : Option (Life τ σ ℓ)}

theorem Step.terms_eq (h : C.Step (some life) later) :
    ∃ life', later = some life' ∧ life'.terms = life.terms := by
  cases h with
  | link terms link => exact ⟨_, rfl, rfl⟩
  | move terms link status' _ => exact ⟨_, rfl, rfl⟩

theorem Step.link_eq (h : C.Step (some life) later) (hlinked : life.link ≠ C.unlinked) :
    ∃ life', later = some life' ∧ life'.link = life.link := by
  cases h with
  | link terms link => exact absurd rfl hlinked
  | move terms link status' _ => exact ⟨_, rfl, rfl⟩

/-- Nothing happens to a thing in a terminal status. -/
theorem Step.not_terminal (h : C.Step (some life) later) (hinitial : ¬ C.terminal C.initial) :
    ¬ C.terminal life.status := by
  cases h with
  | link terms link => exact hinitial
  | move terms link status' hopen => exact hopen

/-- The terms stay for good. -/
theorem terms_eq (h : Relation.ReflTransGen C.Step (some life) later) :
    ∃ life', later = some life' ∧ life'.terms = life.terms := by
  induction h with
  | refl => exact ⟨life, rfl, rfl⟩
  | tail _ hstep ih =>
      obtain ⟨life', rfl, hterms⟩ := ih
      obtain ⟨life'', rfl, hterms'⟩ := hstep.terms_eq
      exact ⟨life'', rfl, hterms'.trans hterms⟩

/-- A link stays for good. -/
theorem link_eq (h : Relation.ReflTransGen C.Step (some life) later)
    (hlinked : life.link ≠ C.unlinked) : ∃ life', later = some life' ∧ life'.link = life.link := by
  induction h with
  | refl => exact ⟨life, rfl, rfl⟩
  | tail _ hstep ih =>
      obtain ⟨life', rfl, hlink⟩ := ih
      obtain ⟨life'', rfl, hlink'⟩ := hstep.link_eq (by rwa [hlink])
      exact ⟨life'', rfl, hlink'.trans hlink⟩

/-- A terminal status absorbs. -/
theorem eq_of_terminal (h : Relation.ReflTransGen C.Step (some life) later)
    (hinitial : ¬ C.terminal C.initial) (hterminal : C.terminal life.status) :
    later = some life := by
  induction h with
  | refl => rfl
  | tail _ hstep ih =>
      rw [ih] at hstep
      exact absurd hterminal (hstep.not_terminal hinitial)

end Lifecycle
