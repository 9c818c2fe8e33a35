import Mathlib.Logic.Basic

/-!
# Layouts of a list

A `Layout` reads a value off the front of a list and writes a value as a list.  It reads
exactly what it writes, followed by anything.  Layouts of single items are put together by
`pair` and `iso`.
-/

universe u v w

/-- How the values of `α` stand at the front of a list. -/
structure Layout (κ : Type u) (α : Type v) where
  write : α → List κ
  /-- A value off the front of a list, and what is left of the list. -/
  read : List κ → Option (α × List κ)
  read_eq_some : ∀ {ks a rest}, read ks = some (a, rest) ↔ ks = write a ++ rest

namespace Layout

variable {κ : Type u} {α : Type v} {β : Type w}

/-- One item, read through `parse`. -/
def item (parse : κ → Option α) (print : α → κ) (h : ∀ k a, parse k = some a ↔ print a = k) :
    Layout κ α where
  write a := [print a]
  read
    | [] => none
    | k :: ks => (parse k).map (·, ks)
  read_eq_some {ks a rest} := by
    cases ks with
    | nil => exact ⟨fun hread => (nomatch hread), fun hwrite => (nomatch hwrite)⟩
    | cons k ks =>
        simp only [Option.map_eq_some_iff, h, Prod.mk.injEq]
        constructor
        · rintro ⟨a, rfl, rfl, rfl⟩
          rfl
        · intro hwrite
          cases hwrite
          exact ⟨a, rfl, rfl, rfl⟩

/-- Any one item. -/
def any : Layout κ κ := item some id fun k a => by rw [Option.some.injEq, id, eq_comm]

/-- One item that is known. -/
def known [DecidableEq κ] (k : κ) : Layout κ Unit :=
  item (fun k' => if k = k' then some () else none) (fun _ => k) fun k' _ => by
    by_cases hk : k = k'
    · simp [hk]
    · simp [hk]

/-- Two values in order. -/
def pair (c : Layout κ α) (d : Layout κ β) : Layout κ (α × β) where
  write p := c.write p.1 ++ d.write p.2
  read ks := (c.read ks).bind fun r => (d.read r.2).map fun q => ((r.1, q.1), q.2)
  read_eq_some {ks p rest} := by
    obtain ⟨a, b⟩ := p
    simp only [Option.bind_eq_some_iff, Option.map_eq_some_iff, Prod.exists, Prod.mk.injEq,
      c.read_eq_some, d.read_eq_some]
    constructor
    · rintro ⟨a, rest', rfl, b, rest'', rfl, ⟨rfl, rfl⟩, rfl⟩
      exact (List.append_assoc _ _ _).symm
    · rintro rfl
      exact ⟨a, _, List.append_assoc _ _ _, b, rest, rfl, ⟨rfl, rfl⟩, rfl⟩

/-- The values of an equivalent type. -/
def iso (c : Layout κ α) (parse : α → β) (print : β → α) (hparse : ∀ a, print (parse a) = a)
    (hprint : ∀ b, parse (print b) = b) : Layout κ β where
  write b := c.write (print b)
  read ks := (c.read ks).map fun r => (parse r.1, r.2)
  read_eq_some {ks b rest} := by
    simp only [Option.map_eq_some_iff, Prod.exists, Prod.mk.injEq, c.read_eq_some]
    constructor
    · rintro ⟨a, rest, rfl, rfl, rfl⟩
      rw [hparse]
    · rintro rfl
      exact ⟨print b, rest, rfl, hprint b, rfl⟩

end Layout
