import Mathlib.Data.List.Nodup
import Mathlib.Data.List.Perm.Basic
import Mathlib.Algebra.Order.BigOperators.Group.Finset
import Mathlib.Algebra.Order.BigOperators.Group.List
import Mathlib.Algebra.Order.Group.Nat
import Mathlib.Algebra.GroupWithZero.Nat

/-!
# Finite maps that remember their insertion order

An `OrderedMap` is a list of entries with pairwise different keys.  `set`
replaces the value of a known key in place and appends a new key, `delete`
drops the entry of a key.  The keys stay different by the `nodup` field, so no
lemma below asks for it.

The map is read through `get?`.  The entries are the pairs `get?` answers
(`mem_entries`), and what depends only on the entries as a set depends only on
`get?`.  `sum f` adds up `f` over the entries.  `sum_set` says what one update
does to it, which is all an accounting argument needs.
-/

universe u v

/-- A finite map from `α` to `β`, oldest key first. -/
structure OrderedMap (α : Type u) (β : Type v) where
  /-- The entries in insertion order. -/
  entries : List (α × β)
  /-- No key occurs twice. -/
  nodup : (entries.map Prod.fst).Nodup
deriving DecidableEq

namespace OrderedMap

variable {α : Type u} {β : Type v}

/-- The map with no entry. -/
def empty : OrderedMap α β := ⟨[], by simp⟩

instance : Inhabited (OrderedMap α β) := ⟨empty⟩

section Operations

variable [DecidableEq α]

/-- The value of the first entry of `k`. -/
def lookupIn (k : α) : List (α × β) → Option β
  | [] => none
  | e :: es => if e.1 = k then some e.2 else lookupIn k es

/-- Replace the value of `k` where it stands, or append the entry. -/
def setIn (k : α) (v : β) : List (α × β) → List (α × β)
  | [] => [(k, v)]
  | e :: es => if e.1 = k then (k, v) :: es else e :: setIn k v es

theorem mem_keys_setIn {k j : α} {v : β} {es : List (α × β)} :
    j ∈ (setIn k v es).map Prod.fst ↔ j = k ∨ j ∈ es.map Prod.fst := by
  induction es with
  | nil => simp [setIn]
  | cons e es ih =>
      by_cases h : e.1 = k
      · rw [setIn, if_pos h, List.map_cons, List.map_cons, List.mem_cons, List.mem_cons, h]
        tauto
      · rw [setIn, if_neg h, List.map_cons, List.map_cons, List.mem_cons, List.mem_cons, ih]
        tauto

theorem nodup_setIn {k : α} {v : β} {es : List (α × β)} (hes : (es.map Prod.fst).Nodup) :
    ((setIn k v es).map Prod.fst).Nodup := by
  induction es with
  | nil => simp [setIn]
  | cons e es ih =>
      rw [List.map_cons, List.nodup_cons] at hes
      by_cases h : e.1 = k
      · rw [setIn, if_pos h, List.map_cons, List.nodup_cons, ← h]
        exact hes
      · rw [setIn, if_neg h, List.map_cons, List.nodup_cons, mem_keys_setIn]
        exact ⟨fun hk => hk.elim h hes.1, ih hes.2⟩

/-- The value of a key. -/
def get? (m : OrderedMap α β) (k : α) : Option β := lookupIn k m.entries

/-- Does the map have the key? -/
def has (m : OrderedMap α β) (k : α) : Bool := (m.get? k).isSome

/-- Give a key a value. -/
def set (m : OrderedMap α β) (k : α) (v : β) : OrderedMap α β :=
  ⟨setIn k v m.entries, nodup_setIn m.nodup⟩

/-- Drop a key. -/
def delete (m : OrderedMap α β) (k : α) : OrderedMap α β :=
  ⟨m.entries.filter fun e => e.1 ≠ k, m.nodup.sublist (List.filter_sublist.map _)⟩

end Operations

/-- The values, oldest key first. -/
def values (m : OrderedMap α β) : List β := m.entries.map Prod.snd

/-- The number of values with `p`. -/
def count (m : OrderedMap α β) (p : β → Bool) : ℕ := m.values.countP p

/-- The sum of `f` over the entries. -/
def sum (m : OrderedMap α β) (f : α → β → ℕ) : ℕ := (m.entries.map fun e => f e.1 e.2).sum

/-! ## Reading -/

section Reading

variable [DecidableEq α]

theorem lookupIn_eq_some {k : α} {v : β} {es : List (α × β)} (hes : (es.map Prod.fst).Nodup) :
    lookupIn k es = some v ↔ (k, v) ∈ es := by
  induction es with
  | nil => simp [lookupIn]
  | cons e es ih =>
      obtain ⟨j, w⟩ := e
      rw [List.map_cons, List.nodup_cons] at hes
      by_cases h : j = k
      · subst h
        have hfresh : (j, v) ∉ es := fun hmem => hes.1 (List.mem_map.mpr ⟨_, hmem, rfl⟩)
        simp [lookupIn, hfresh, eq_comm]
      · have hne : (k, v) ≠ (j, w) := fun he => h (congrArg Prod.fst he).symm
        simp [lookupIn, h, ih hes.2, hne]

theorem mem_entries {m : OrderedMap α β} {k : α} {v : β} :
    (k, v) ∈ m.entries ↔ m.get? k = some v := (lookupIn_eq_some m.nodup).symm

theorem mem_values {m : OrderedMap α β} {v : β} : v ∈ m.values ↔ ∃ k, m.get? k = some v := by
  simp [values, ← mem_entries]

theorem has_iff {m : OrderedMap α β} {k : α} : m.has k = true ↔ ∃ v, m.get? k = some v := by
  rw [has, Option.isSome_iff_exists]

theorem has_eq_false {m : OrderedMap α β} {k : α} : m.has k = false ↔ m.get? k = none := by
  rw [has, Option.isSome_eq_false_iff, Option.isNone_iff_eq_none]

@[simp] theorem get?_empty (k : α) : (empty : OrderedMap α β).get? k = none := rfl

theorem lookupIn_setIn (k j : α) (v : β) (es : List (α × β)) :
    lookupIn j (setIn k v es) = if j = k then some v else lookupIn j es := by
  induction es with
  | nil => simp [setIn, lookupIn, eq_comm]
  | cons e es ih =>
      by_cases h : e.1 = k
      · subst h
        by_cases hj : e.1 = j
        · simp [setIn, lookupIn, hj]
        · simp [setIn, lookupIn, hj, Ne.symm hj]
      · by_cases hj : e.1 = j
        · subst hj
          simp [setIn, lookupIn, h]
        · simp [setIn, lookupIn, h, hj, ih]

theorem get?_set (m : OrderedMap α β) (k j : α) (v : β) :
    (m.set k v).get? j = if j = k then some v else m.get? j := lookupIn_setIn k j v m.entries

@[simp] theorem get?_set_self (m : OrderedMap α β) (k : α) (v : β) :
    (m.set k v).get? k = some v := by rw [get?_set, if_pos rfl]

theorem get?_set_of_ne (m : OrderedMap α β) {k j : α} (v : β) (h : j ≠ k) :
    (m.set k v).get? j = m.get? j := by rw [get?_set, if_neg h]

theorem setIn_of_lookupIn {k : α} {v : β} {es : List (α × β)} (h : lookupIn k es = some v) :
    setIn k v es = es := by
  induction es with
  | nil => cases h
  | cons e es ih =>
      rw [lookupIn] at h
      split at h
      · next hk =>
        rw [setIn, if_pos hk, ← hk, ← Option.some.inj h]
      · next hk => rw [setIn, if_neg hk, ih h]

/-- Giving a key the value it has changes nothing, not even the order. -/
theorem set_of_get? {m : OrderedMap α β} {k : α} {v : β} (h : m.get? k = some v) :
    m.set k v = m := by
  obtain ⟨es, hes⟩ := m
  have hset : setIn k v es = es := setIn_of_lookupIn h
  simp only [set, hset]

theorem get?_delete (m : OrderedMap α β) (k j : α) :
    (m.delete k).get? j = if j = k then none else m.get? j := by
  refine Option.ext fun v => ?_
  rw [← mem_entries, delete, List.mem_filter, mem_entries]
  by_cases h : j = k <;> simp [h]

/-! ### Updates of all values -/

/-- The values `f` answers. -/
def filterMap {γ : Type*} (m : OrderedMap α β) (f : β → Option γ) : OrderedMap α γ where
  entries := m.entries.filterMap fun e => (f e.2).map fun v => (e.1, v)
  nodup := by
    refine m.nodup.sublist ?_
    induction m.entries with
    | nil => exact .slnil
    | cons e es ih =>
        cases hf : f e.2 with
        | none => simpa [hf] using ih.cons e.1
        | some v => simpa [hf] using ih

theorem get?_filterMap {γ : Type*} (m : OrderedMap α β) (f : β → Option γ) (k : α) :
    (m.filterMap f).get? k = (m.get? k).bind f := by
  refine Option.ext fun v => ?_
  rw [← mem_entries, Option.bind_eq_some_iff, filterMap, List.mem_filterMap]
  constructor
  · rintro ⟨e, he, hv⟩
    obtain ⟨w, hw, heq⟩ := Option.map_eq_some_iff.mp hv
    cases heq
    exact ⟨e.2, mem_entries.mp he, hw⟩
  · rintro ⟨w, hw, hv⟩
    exact ⟨(k, w), mem_entries.mpr hw, by rw [hv, Option.map_some]⟩

/-- Give each listed key the value that `f` makes of its old value and the listed one, if
`f` makes one each time. -/
def setAll {γ : Type*} (f : Option β → γ → Option β) (m : OrderedMap α β) :
    List (α × γ) → Option (OrderedMap α β)
  | [] => some m
  | e :: es => (f (m.get? e.1) e.2).bind fun v => setAll f (m.set e.1 v) es

/-- If `f` always makes a value, every listed key gets its own. -/
theorem setAll_of_forall {γ : Type*} {f : Option β → γ → Option β} {m : OrderedMap α β}
    {es : List (α × γ)} (hes : (es.map Prod.fst).Nodup)
    (h : ∀ e ∈ es, ∃ v, f (m.get? e.1) e.2 = some v) :
    ∃ m', m.setAll f es = some m' ∧
      ∀ k, m'.get? k = (lookupIn k es).elim (m.get? k) (f (m.get? k)) := by
  induction es generalizing m with
  | nil => exact ⟨m, rfl, fun _ => rfl⟩
  | cons e es ih =>
      rw [List.map_cons, List.nodup_cons] at hes
      rw [List.forall_mem_cons] at h
      obtain ⟨⟨v, hv⟩, hrest⟩ := h
      have hother : ∀ e' ∈ es, (m.set e.1 v).get? e'.1 = m.get? e'.1 := fun e' he' =>
        get?_set_of_ne m v fun hk => hes.1 (hk ▸ List.mem_map.mpr ⟨e', he', rfl⟩)
      obtain ⟨m', hm', hget⟩ := ih hes.2 fun e' he' => by
        rw [hother e' he']
        exact hrest e' he'
      refine ⟨m', by rw [setAll, hv, Option.bind_some, hm'], fun k => ?_⟩
      rw [hget, lookupIn]
      split
      · next hk =>
        subst hk
        have hnone : lookupIn e.1 es = none := by
          cases hlookup : lookupIn e.1 es with
          | none => rfl
          | some w =>
              have hmem := (lookupIn_eq_some hes.2).mp hlookup
              exact absurd (List.mem_map.mpr ⟨_, hmem, rfl⟩) hes.1
        rw [hnone, Option.elim_none, get?_set_self, Option.elim_some, hv]
      · next hk => rw [get?_set_of_ne m v fun he => hk he.symm]

/-! ### Two maps over the same values -/

/-- Drop a value from under its key `f w`, unless that key is `k`. -/
def dropOther (m : OrderedMap α β) (f : β → α) (k : α) : Option β → OrderedMap α β
  | some w => if f w ≠ k then m.delete (f w) else m
  | none => m

/-- If `other` is the value that `g` takes to `c`, away from `k` dropping it drops
exactly what `g` takes to `c`. -/
theorem get?_dropOther {γ : Type*} {m : OrderedMap α β} {f : β → α} {g : β → γ} {k j : α} {c : γ}
    {other : Option β} {v : β} (hkey : ∀ {i w}, m.get? i = some w → f w = i)
    (hother : ∀ w, other = some w ↔ m.get? (f w) = some w ∧ g w = c) (hj : j ≠ k) :
    (m.dropOther f k other).get? j = some v ↔ m.get? j = some v ∧ g v ≠ c := by
  have hdropped : m.get? j = some v → g v = c → other = some v := by
    intro hv hc
    rw [hother, hkey hv]
    exact ⟨hv, hc⟩
  cases other with
  | none =>
      constructor
      · intro hv
        exact ⟨hv, fun hc => nomatch hdropped hv hc⟩
      · exact And.left
  | some w =>
      obtain ⟨hw, hc⟩ := (hother w).mp rfl
      rw [dropOther]
      split
      · rw [get?_delete]
        split
        · next hjw =>
          rw [hjw, hw]
          constructor
          · intro hv
            cases hv
          · intro ⟨hv, hne⟩
            cases hv
            exact absurd hc hne
        · next hjw =>
          constructor
          · intro hv
            refine ⟨hv, fun hcv => hjw ?_⟩
            cases hdropped hv hcv
            exact (hkey hv).symm
          · exact And.left
      · next hk =>
        constructor
        · intro hv
          refine ⟨hv, fun hcv => hj ?_⟩
          cases hdropped hv hcv
          rw [← hkey hv]
          exact not_ne_iff.mp hk
        · exact And.left

end Reading

/-! ## Values with a key of their own -/

/-- If every value knows its key, no two values share what they know. -/
theorem values_pairwise_ne {γ : Type*} (m : OrderedMap α β) (key : β → γ)
    (inj : ∀ e ∈ m.entries, ∀ e' ∈ m.entries, key e.2 = key e'.2 → e.1 = e'.1) :
    m.values.Pairwise fun v w => key v ≠ key w := by
  rw [values, List.pairwise_map]
  have hkeys := m.nodup
  rw [List.Nodup, List.pairwise_map] at hkeys
  exact hkeys.imp_of_mem fun he he' hne hkey => hne (inj _ he _ he' hkey)

/-! ## Sums over the entries -/

section Sums

variable [DecidableEq α]

theorem sum_setIn {k : α} (v : β) (f : α → β → ℕ) (es : List (α × β)) :
    ((setIn k v es).map fun e => f e.1 e.2).sum + (lookupIn k es).elim 0 (f k) =
      (es.map fun e => f e.1 e.2).sum + f k v := by
  induction es with
  | nil => simp [setIn, lookupIn]
  | cons e es ih =>
      by_cases h : e.1 = k
      · subst h
        simp [setIn, lookupIn]
        omega
      · simp only [setIn, lookupIn, if_neg h, List.map_cons, List.sum_cons]
        omega

/-- One update changes the sum by the new value minus the replaced one. -/
theorem sum_set (m : OrderedMap α β) (k : α) (v : β) (f : α → β → ℕ) :
    (m.set k v).sum f + (m.get? k).elim 0 (f k) = m.sum f + f k v :=
  sum_setIn v f m.entries

theorem sum_set_of_get? {m : OrderedMap α β} {k : α} {w : β} (v : β) (f : α → β → ℕ)
    (h : m.get? k = some w) : (m.set k v).sum f + f k w = m.sum f + f k v := by
  have hset := sum_set m k v f
  rwa [h] at hset

/-- The keys of the map. -/
def keys (m : OrderedMap α β) : Finset α := (m.entries.map Prod.fst).toFinset

theorem get?_of_notMem_keys {m : OrderedMap α β} {k : α} (h : k ∉ m.keys) : m.get? k = none := by
  cases hget : m.get? k with
  | none => rfl
  | some v =>
      refine absurd ?_ h
      exact List.mem_toFinset.mpr (List.mem_map.mpr ⟨(k, v), mem_entries.mpr hget, rfl⟩)

theorem sum_eq_sum_keys (m : OrderedMap α β) (f : α → β → ℕ) :
    m.sum f = ∑ k ∈ m.keys, (m.get? k).elim 0 (f k) := by
  rw [keys, List.sum_toFinset _ m.nodup, List.map_map, sum]
  congr 1
  refine List.map_congr_left fun e he => ?_
  rw [Function.comp_apply, mem_entries.mp he, Option.elim_some]

/-- The sum over any finite set of keys that has every key with a contribution. -/
theorem sum_eq_sum_of_support (m : OrderedMap α β) (f : α → β → ℕ) {s : Finset α}
    (hs : ∀ k, k ∉ s → (m.get? k).elim 0 (f k) = 0) :
    m.sum f = ∑ k ∈ s, (m.get? k).elim 0 (f k) := by
  have hmissing : ∀ k, k ∉ m.keys → (m.get? k).elim 0 (f k) = 0 := fun k hk => by
    rw [get?_of_notMem_keys hk, Option.elim_none]
  rw [sum_eq_sum_keys, Finset.sum_subset Finset.subset_union_left fun k _ hk => hmissing k hk,
    ← Finset.sum_subset Finset.subset_union_right fun k _ hk => hs k hk]

/-- The sum depends on what each key contributes and on nothing else. -/
theorem sum_congr_elim {m m' : OrderedMap α β} {f : α → β → ℕ}
    (h : ∀ k, (m.get? k).elim 0 (f k) = (m'.get? k).elim 0 (f k)) : m.sum f = m'.sum f := by
  have hm : ∀ k, k ∉ m'.keys → (m.get? k).elim 0 (f k) = 0 := fun k hk => by
    rw [h, get?_of_notMem_keys hk, Option.elim_none]
  rw [sum_eq_sum_of_support m f hm, sum_eq_sum_keys]
  exact Finset.sum_congr rfl fun k _ => h k

/-- If no other key contributes, one key is the sum. -/
theorem sum_eq_of_single {m : OrderedMap α β} {f : α → β → ℕ} {k : α}
    (h : ∀ j, j ≠ k → (m.get? j).elim 0 (f j) = 0) : m.sum f = (m.get? k).elim 0 (f k) := by
  have hk : ∀ j, j ∉ ({k} : Finset α) → (m.get? j).elim 0 (f j) = 0 := fun j hj =>
    h j fun he => hj (Finset.mem_singleton.mpr he)
  rw [sum_eq_sum_of_support m f hk, Finset.sum_singleton]

/-- If only one key contributes something else, that changes the sum. -/
theorem sum_of_update {m m' : OrderedMap α β} {f : α → β → ℕ} {k : α}
    (h : ∀ j, j ≠ k → (m'.get? j).elim 0 (f j) = (m.get? j).elim 0 (f j)) :
    m'.sum f + (m.get? k).elim 0 (f k) = m.sum f + (m'.get? k).elim 0 (f k) := by
  let s := insert k (m.keys ∪ m'.keys)
  have hk : k ∈ s := Finset.mem_insert_self _ _
  have hm : ∀ j, j ∉ s → (m.get? j).elim 0 (f j) = 0 := fun j hj => by
    rw [get?_of_notMem_keys fun hmem =>
      hj (Finset.mem_insert_of_mem (Finset.mem_union_left _ hmem)), Option.elim_none]
  have hm' : ∀ j, j ∉ s → (m'.get? j).elim 0 (f j) = 0 := fun j hj => by
    rw [get?_of_notMem_keys fun hmem =>
      hj (Finset.mem_insert_of_mem (Finset.mem_union_right _ hmem)), Option.elim_none]
  have hrest : ∑ j ∈ s.erase k, (m'.get? j).elim 0 (f j) =
      ∑ j ∈ s.erase k, (m.get? j).elim 0 (f j) :=
    Finset.sum_congr rfl fun j hj => h j (Finset.ne_of_mem_erase hj)
  rw [sum_eq_sum_of_support m f hm, sum_eq_sum_of_support m' f hm', ← Finset.add_sum_erase s _ hk,
    ← Finset.add_sum_erase s _ hk, hrest]
  omega

omit [DecidableEq α] in
/-- Counting is adding up ones. -/
theorem count_eq_sum (m : OrderedMap α β) (p : β → Bool) :
    m.count p = m.sum fun _ v => (p v).toNat := by
  rw [count, values, sum]
  induction m.entries with
  | nil => rfl
  | cons e es ih =>
      rw [List.map_cons, List.countP_cons, ih, List.map_cons, List.sum_cons]
      cases p e.2 <;> simp [Nat.add_comm]

/-- What the keys of a finite set contribute is at most the sum. -/
theorem sum_finset_le (m : OrderedMap α β) (f : α → β → ℕ) (s : Finset α) :
    ∑ k ∈ s, (m.get? k).elim 0 (f k) ≤ m.sum f := by
  have hs : ∀ k, k ∉ m.keys ∪ s → (m.get? k).elim 0 (f k) = 0 := fun k hk => by
    rw [get?_of_notMem_keys fun hmem => hk (Finset.mem_union_left _ hmem), Option.elim_none]
  rw [sum_eq_sum_of_support m f hs]
  exact Finset.sum_le_sum_of_subset Finset.subset_union_right

/-- A positive sum has an entry that contributes. -/
theorem exists_of_sum_pos {m : OrderedMap α β} {f : α → β → ℕ} (h : 0 < m.sum f) :
    ∃ k v, m.get? k = some v ∧ 0 < f k v := by
  rw [sum_eq_sum_keys] at h
  obtain ⟨k, -, hk⟩ := Finset.sum_pos_iff.mp h
  cases hget : m.get? k with
  | none =>
      rw [hget, Option.elim_none] at hk
      cases hk
  | some v =>
      rw [hget, Option.elim_some] at hk
      exact ⟨k, v, hget, hk⟩

end Sums

end OrderedMap
