import Mathlib.Data.List.Nodup
import RwaAgents.Library.Effect
import RwaAgents.Library.Machine

/-!
# Footprints

A state is looked at through a `view`, which says what it shows at a key.  Two
states that show the same everywhere may still differ in what the view leaves
out, such as the order in which entries were made.

A computation is `Local` to keys it reads and keys it writes if it changes
nothing elsewhere and if its end depends on what it reads alone.  The rules
follow the shape of the computation.

A machine has a `Footprint` if each of its steps is local.  Two actions are
independent if neither writes what the other reads.  `Footprint.run_reorder` says
that exchanging independent neighbours changes neither what the last state shows
nor any answer.
-/

section

variable {σ κ ν : Type*} {view : σ → κ → ν}

/-- The two states show the same at the keys. -/
def SameAt (view : σ → κ → ν) (keys : List κ) (s t : σ) : Prop := ∀ k ∈ keys, view s k = view t k

/-- What `f` changes is at the keys of `W`, and it depends on the keys of `R`. -/
structure LocalUpdate (view : σ → κ → ν) (R W : List κ) (f : σ → σ) : Prop where
  frame : ∀ s k, k ∉ W → view (f s) k = view s k
  congr : ∀ {s t}, SameAt view R s t → SameAt view R (f s) (f t)

theorem LocalUpdate.comp {R W : List κ} {f g : σ → σ} (hg : LocalUpdate view R W g)
    (hf : LocalUpdate view R W f) : LocalUpdate view R W fun s => g (f s) where
  frame s k hk := by rw [hg.frame _ k hk, hf.frame s k hk]
  congr h := hg.congr (hf.congr h)

end

namespace EStateM

variable {ε σ α β : Type} {κ ν : Type*} {view : σ → κ → ν} {R W : List κ}

theorem settle_bind (x : EStateM ε σ α) (f : α → EStateM ε σ β) (s : σ) :
    (x >>= f).settle s =
      match x.settle s with
      | (.ok a, t) => (f a).settle t
      | (.error e, t) => (.error e, t) := by
  simp only [settle, run_bind]
  cases x.run s <;> rfl

/-- `x` writes at the keys of `W`, and how it ends depends on the keys of `R`. -/
structure Local (view : σ → κ → ν) (R W : List κ) (x : EStateM ε σ α) : Prop where
  frame : ∀ s k, k ∉ W → view (x.settle s).2 k = view s k
  congr : ∀ {s t}, SameAt view R s t →
    (x.settle s).1 = (x.settle t).1 ∧ SameAt view R (x.settle s).2 (x.settle t).2

namespace Local

@[simp] theorem pure {a : α} : (pure a : EStateM ε σ α).Local view R W :=
  ⟨fun _ _ _ => rfl, fun h => ⟨rfl, h⟩⟩

@[simp] theorem throw {e : ε} : (throw e : EStateM ε σ α).Local view R W :=
  ⟨fun _ _ _ => rfl, fun h => ⟨rfl, h⟩⟩

@[simp] theorem bind {x : EStateM ε σ α} {f : α → EStateM ε σ β} (hx : x.Local view R W)
    (hf : ∀ a, (f a).Local view R W) : (x >>= f).Local view R W where
  frame s k hk := by
    have hfirst := hx.frame s k hk
    rw [settle_bind]
    generalize x.settle s = p at hfirst
    obtain ⟨e | a, t⟩ := p
    · exact hfirst
    · exact ((hf a).frame t k hk).trans hfirst
  congr {s t} h := by
    obtain ⟨hanswer, hsame⟩ := hx.congr h
    rw [settle_bind, settle_bind]
    generalize x.settle s = p, x.settle t = q at hanswer hsame
    obtain ⟨e | a, s'⟩ := p <;> obtain ⟨e' | b, t'⟩ := q <;> cases hanswer
    · exact ⟨rfl, hsame⟩
    · exact (hf a).congr hsame

/-- What follows may depend on the state as far as the keys of `R` show it. -/
theorem get_bind {f : σ → EStateM ε σ β} (hf : ∀ s, (f s).Local view R W)
    (hcongr : ∀ {s t}, SameAt view R s t → f s = f t) :
    (get >>= f : EStateM ε σ β).Local view R W where
  frame s k hk := (hf s).frame s k hk
  congr {s t} h := by
    change ((f s).settle s).1 = ((f t).settle t).1 ∧
      SameAt view R ((f s).settle s).2 ((f t).settle t).2
    rw [← hcongr h]
    exact (hf s).congr h

theorem modify {f : σ → σ} (hf : LocalUpdate view R W f) :
    (modify f : EStateM ε σ PUnit).Local view R W where
  frame s k hk := hf.frame s k hk
  congr h := ⟨rfl, hf.congr h⟩

@[simp] theorem require {c : Prop} [Decidable c] {e : ε} :
    (require c e : EStateM ε σ Unit).Local view R W := by
  rw [EStateM.require]
  split
  · exact .pure
  · exact .throw

/-- What follows a check may rely on it. -/
theorem require_bind {c : Prop} [Decidable c] {e : ε} {f : Unit → EStateM ε σ β}
    (hf : c → (f ()).Local view R W) :
    (EStateM.require c e >>= f : EStateM ε σ β).Local view R W := by
  rw [EStateM.require]
  split
  next hc => exact hf hc
  next => exact ⟨fun _ _ _ => rfl, fun h => ⟨rfl, h⟩⟩

@[simp] theorem orThrow {o : Option α} {e : ε} :
    (orThrow o e : EStateM ε σ α).Local view R W := by
  cases o with
  | none => exact .throw
  | some a => exact .pure

end Local

end EStateM

/-! ## Exchanging neighbours -/

/-- Two lists that differ by exchanges of related neighbours. -/
inductive Reorder {α : Type*} (indep : α → α → Prop) : List α → List α → Prop
  | refl (as : List α) : Reorder indep as as
  | swap (pre : List α) {a b : α} (post : List α) (h : indep a b) :
      Reorder indep (pre ++ a :: b :: post) (pre ++ b :: a :: post)
  | trans {as bs cs : List α} : Reorder indep as bs → Reorder indep bs cs → Reorder indep as cs

namespace Reorder

variable {α : Type*} {indep : α → α → Prop} {as bs : List α}

theorem cons (a : α) (h : Reorder indep as bs) : Reorder indep (a :: as) (a :: bs) := by
  induction h with
  | refl as => exact .refl _
  | swap pre post h => exact .swap (a :: pre) post h
  | trans _ _ ih ih' => exact ih.trans ih'

theorem perm (h : Reorder indep as bs) : as.Perm bs := by
  induction h with
  | refl as => exact .refl as
  | swap pre post h => exact (List.Perm.swap _ _ post).append_left pre
  | trans _ _ ih ih' => exact ih.trans ih'

/-- What is related to all before it may come first. -/
theorem move_front {a : α} {pre : List α} (post : List α) (h : ∀ b ∈ pre, indep a b) :
    Reorder indep (a :: (pre ++ post)) (pre ++ a :: post) := by
  induction pre with
  | nil => exact .refl _
  | cons b pre ih =>
      rw [List.forall_mem_cons] at h
      exact (Reorder.swap [] (pre ++ post) h.1).trans ((ih h.2).cons b)

/-- Two orders of the same elements that agree on all unrelated pairs. -/
theorem of_order (hnodup : as.Nodup) (hperm : as.Perm bs)
    (horder : ∀ a b, ¬ indep a b → [a, b].Sublist as → [a, b].Sublist bs) : Reorder indep as bs := by
  induction as generalizing bs with
  | nil =>
      rw [List.nil_perm.mp hperm]
      exact .refl []
  | cons a as ih =>
      obtain ⟨pre, post, rfl⟩ := List.append_of_mem (hperm.subset List.mem_cons_self)
      have hbs : (pre ++ a :: post).Nodup := hperm.nodup_iff.mp hnodup
      rw [List.nodup_append'] at hbs
      obtain ⟨-, -, hdisjoint⟩ := hbs
      have hpre : a ∉ pre := fun ha => hdisjoint ha List.mem_cons_self
      rw [List.nodup_cons] at hnodup
      have hrest : as.Perm (pre ++ post) := (hperm.trans List.perm_middle).cons_inv
      have hfirst : ∀ b ∈ pre, indep a b := by
        intro b hb
        by_contra hdep
        have hbefore := horder a b hdep <| List.cons_sublist_cons.mpr <|
          List.singleton_sublist.mpr (hrest.mem_iff.mpr (List.mem_append_left post hb))
        obtain ⟨l, l', hl, hlpre, hlpost⟩ := List.sublist_append_iff.mp hbefore
        cases l with
        | nil =>
            have hb' : b ∈ l' := by
              rw [← List.nil_append l', ← hl]
              exact List.mem_cons_of_mem a List.mem_cons_self
            exact hdisjoint hb (hlpost.subset hb')
        | cons c l =>
            obtain rfl : a = c := (List.cons.inj hl).1
            exact hpre (hlpre.subset List.mem_cons_self)
      have hafter : Reorder indep as (pre ++ post) := by
        refine ih hnodup.2 hrest fun b c hdep hbc => ?_
        have hne : a ∉ [b, c] := fun ha => hnodup.1 (hbc.subset ha)
        have hbefore := horder b c hdep (hbc.cons a)
        obtain ⟨l, l', hl, hlpre, hlpost⟩ := List.sublist_append_iff.mp hbefore
        rw [hl] at hne ⊢
        refine hlpre.append ?_
        rcases List.sublist_cons_iff.mp hlpost with h | ⟨l'', rfl, -⟩
        · exact h
        · exact absurd (List.mem_append_right l List.mem_cons_self) hne
      exact (hafter.cons a).trans (move_front post hfirst)

end Reorder

/-! ## Machines -/

namespace Machine

variable {σ α β κ ν : Type*} {M : Machine σ α β} {view : σ → κ → ν} {R W : α → List κ}

/-- An action writes at the keys of `W`, and its answer and its effect depend on the
keys of `R`. -/
structure Footprint (M : Machine σ α β) (view : σ → κ → ν) (R W : α → List κ) : Prop where
  subset : ∀ a, W a ⊆ R a
  frame : ∀ s a k, k ∉ W a → view (M.next s a) k = view s k
  output : ∀ a {s t}, SameAt view (R a) s t → M.output s a = M.output t a
  effect : ∀ a {s t}, SameAt view (R a) s t → SameAt view (R a) (M.next s a) (M.next t a)

/-- Neither action writes what the other reads. -/
def Independent (R W : α → List κ) (a b : α) : Prop :=
  (∀ k ∈ W a, k ∉ R b) ∧ ∀ k ∈ W b, k ∉ R a

namespace Footprint

variable (h : M.Footprint view R W)
include h

theorem relabel {ι : Type*} (f : ι → α) :
    (M.relabel f).Footprint view (fun i => R (f i)) fun i => W (f i) :=
  ⟨fun i => h.subset (f i), fun s i => h.frame s (f i), fun i => h.output (f i),
    fun i => h.effect (f i)⟩

/-- A step from states that show the same. -/
theorem view_next {s t : σ} (hview : view s = view t) (a : α) :
    M.output s a = M.output t a ∧ view (M.next s a) = view (M.next t a) := by
  have hsame : SameAt view (R a) s t := fun k _ => congrFun hview k
  refine ⟨h.output a hsame, funext fun k => ?_⟩
  by_cases hk : k ∈ W a
  · exact h.effect a hsame k (h.subset a hk)
  · rw [h.frame s a k hk, h.frame t a k hk, hview]

/-- A run from states that show the same. -/
theorem view_run {s t : σ} (hview : view s = view t) (as : List α) :
    M.answers s as = M.answers t as ∧ view (M.run s as) = view (M.run t as) := by
  induction as generalizing s t with
  | nil => exact ⟨rfl, hview⟩
  | cons a as ih =>
      obtain ⟨houtput, hnext⟩ := h.view_next hview a
      obtain ⟨hanswers, hrun⟩ := ih hnext
      rw [answers_cons, answers_cons, houtput, hanswers]
      exact ⟨rfl, hrun⟩

/-- An action does not see an independent one before it. -/
theorem sameAt_next {a b : α} (hindep : Independent R W a b) (s : σ) :
    SameAt view (R b) (M.next s a) s :=
  fun k hk => h.frame s a k fun hw => hindep.1 k hw hk

theorem output_next {a b : α} (hindep : Independent R W a b) (s : σ) :
    M.output (M.next s a) b = M.output s b :=
  h.output b (h.sameAt_next hindep s)

/-- Independent actions commute. -/
theorem view_comm {a b : α} (hindep : Independent R W a b) (s : σ) :
    view (M.next (M.next s a) b) = view (M.next (M.next s b) a) := by
  have hb := h.effect b (h.sameAt_next hindep s)
  have ha := h.effect a (h.sameAt_next hindep.symm s)
  funext k
  by_cases hk : k ∈ W b
  · rw [hb k (h.subset b hk), h.frame _ a k fun hw => hindep.1 k hw (h.subset b hk)]
  · rw [h.frame _ b k hk]
    by_cases hka : k ∈ W a
    · exact (ha k (h.subset a hka)).symm
    · rw [h.frame s a k hka, h.frame _ a k hka, h.frame s b k hk]

/-- Exchanging independent neighbours exchanges their answers, and the last state
shows the same. -/
theorem run_reorder {as bs : List α} (hreorder : Reorder (Independent R W) as bs) (s : σ) :
    Reorder (fun p q => Independent R W p.1 q.1) (M.answers s as) (M.answers s bs) ∧
      view (M.run s as) = view (M.run s bs) := by
  induction hreorder with
  | refl as => exact ⟨.refl _, rfl⟩
  | trans _ _ ih ih' => exact ⟨ih.1.trans ih'.1, ih.2.trans ih'.2⟩
  | swap pre post hindep =>
      rename_i a b
      obtain ⟨hanswers, hrun⟩ := h.view_run (h.view_comm hindep (M.run s pre)) post
      have hab := h.output_next hindep (M.run s pre)
      have hba := h.output_next hindep.symm (M.run s pre)
      simp only [answers, steps_append, steps_cons, List.map_append, List.map_cons, stepAt,
        run_append, run_cons] at hanswers ⊢
      rw [hab, hba, hanswers]
      exact ⟨.swap _ _ hindep, hrun⟩

end Footprint

end Machine
