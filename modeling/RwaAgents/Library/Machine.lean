import Mathlib.Logic.Relation
import Mathlib.Data.Nat.Notation

/-!
# Deterministic machines and their runs

A `Machine` has start states and a total step that answers every action with a
next state and an output.  A step that fails is a step like any other: it
answers with an error and leaves whatever state the machine says.

A run is a list of actions.  `run` is the state it ends in and `steps` records
each step with the states around it.  Safety is proved by `Reachable.invariant`
and `Reachable.mem_steps`.  What holds from some point on is proved by
`Reachable.stable`, what ties a state to the steps behind it by
`Reachable.history`.  `Reachable.forall_after_iff` and `Reachable.forall_prefix_iff`
say which steps keep it throughout.  `Reachable.simulates` carries a run to an abstract relation
that may stutter, and `Reachable.foldl_events` rebuilds a view of the state from what
the steps emitted.  `Reachable.exists_run_of_measure` builds a run, and `related_run`
carries a relation between two machines along a run.
-/

universe u v w

/-- A deterministic machine with states `σ`, actions `α` and outputs `β`. -/
structure Machine (σ : Type u) (α : Type v) (β : Type w) where
  /-- The states a run may start in. -/
  start : σ → Prop
  /-- The next state and the output. -/
  step : σ → α → σ × β

namespace Machine

variable {σ : Type u} {α : Type v} {β : Type w}

/-- One executed step, with the states before and after it. -/
structure Step (σ : Type u) (α : Type v) (β : Type w) where
  before : σ
  action : α
  output : β
  after : σ

variable (M : Machine σ α β)

/-- The state after one action. -/
def next (s : σ) (a : α) : σ := (M.step s a).1

/-- The answer to one action. -/
def output (s : σ) (a : α) : β := (M.step s a).2

/-- The record of one action. -/
def stepAt (s : σ) (a : α) : Step σ α β := ⟨s, a, M.output s a, M.next s a⟩

/-- The state a run ends in. -/
def run (s : σ) : List α → σ
  | [] => s
  | a :: as => run (M.next s a) as

/-- The steps of a run, in order. -/
def steps (s : σ) : List α → List (Step σ α β)
  | [] => []
  | a :: as => M.stepAt s a :: steps (M.next s a) as

/-- The states a run from a start state can end in. -/
inductive Reachable : σ → Prop
  | start {s : σ} : M.start s → Reachable s
  | step {s : σ} (a : α) : Reachable s → Reachable (M.next s a)

variable {M}

@[simp] theorem run_nil (s : σ) : M.run s [] = s := rfl

@[simp] theorem run_cons (s : σ) (a : α) (as : List α) :
    M.run s (a :: as) = M.run (M.next s a) as := rfl

theorem run_append (s : σ) (as bs : List α) : M.run s (as ++ bs) = M.run (M.run s as) bs := by
  induction as generalizing s with
  | nil => rfl
  | cons a as ih => exact ih (M.next s a)

@[simp] theorem steps_nil (s : σ) : M.steps s [] = [] := rfl

@[simp] theorem steps_cons (s : σ) (a : α) (as : List α) :
    M.steps s (a :: as) = M.stepAt s a :: M.steps (M.next s a) as := rfl

theorem steps_append (s : σ) (as bs : List α) :
    M.steps s (as ++ bs) = M.steps s as ++ M.steps (M.run s as) bs := by
  induction as generalizing s with
  | nil => rfl
  | cons a as ih => rw [List.cons_append, steps_cons, steps_cons, ih, List.cons_append, run_cons]

theorem stepAt_mem_steps (s : σ) (pre : List α) (a : α) (post : List α) :
    M.stepAt (M.run s pre) a ∈ M.steps s (pre ++ a :: post) := by
  rw [steps_append, steps_cons]
  exact List.mem_append_right _ List.mem_cons_self

/-- Every step of a run starts where some prefix of the run ends. -/
theorem mem_steps {s : σ} {as : List α} {e : Step σ α β} (h : e ∈ M.steps s as) :
    ∃ pre a post, as = pre ++ a :: post ∧ e = M.stepAt (M.run s pre) a := by
  induction as generalizing s with
  | nil => cases h
  | cons b bs ih =>
      rcases List.mem_cons.mp h with rfl | h
      · exact ⟨[], b, bs, rfl, rfl⟩
      · obtain ⟨pre, a, post, rfl, he⟩ := ih h
        exact ⟨b :: pre, a, post, rfl, he⟩

theorem action_mem {s : σ} {as : List α} {e : Step σ α β} (h : e ∈ M.steps s as) :
    e.action ∈ as := by
  obtain ⟨pre, a, post, rfl, rfl⟩ := mem_steps h
  exact List.mem_append_right pre List.mem_cons_self

/-- What the steps of a run emitted, in order. -/
def events {ε : Type*} (emits : β → Option ε) (es : List (Step σ α β)) : List ε :=
  es.filterMap fun e => emits e.output

theorem foldl_events_concat {ε τ : Type*} (emits : β → Option ε) (apply : τ → ε → τ) (t : τ)
    (es : List (Step σ α β)) (e : Step σ α β) :
    (events emits (es ++ [e])).foldl apply t =
      (emits e.output).elim ((events emits es).foldl apply t)
        (apply ((events emits es).foldl apply t)) := by
  rw [events, List.filterMap_append, List.foldl_append, events, List.filterMap_cons,
    List.filterMap_nil]
  cases emits e.output with
  | none => rfl
  | some ε => rfl

/-- The actions of a run with their answers. -/
def answers (M : Machine σ α β) (s : σ) (as : List α) : List (α × β) :=
  (M.steps s as).map fun e => (e.action, e.output)

@[simp] theorem answers_cons (s : σ) (a : α) (as : List α) :
    M.answers s (a :: as) = (a, M.output s a) :: M.answers (M.next s a) as := rfl

/-- The machine whose actions are names of actions. -/
def relabel {ι : Type*} (M : Machine σ α β) (f : ι → α) : Machine σ ι β :=
  ⟨M.start, fun s i => M.step s (f i)⟩

theorem run_relabel {ι : Type*} (f : ι → α) (s : σ) (is : List ι) :
    (M.relabel f).run s is = M.run s (is.map f) := by
  induction is generalizing s with
  | nil => rfl
  | cons i is ih => exact ih _

theorem events_relabel {ι ε : Type*} (f : ι → α) (emits : β → Option ε) (s : σ) (is : List ι) :
    events emits ((M.relabel f).steps s is) = events emits (M.steps s (is.map f)) := by
  induction is generalizing s with
  | nil => rfl
  | cons i is ih =>
      have hrest := ih (M.next s (f i))
      rw [events, events] at hrest ⊢
      rw [List.map_cons, steps_cons, steps_cons, List.filterMap_cons, List.filterMap_cons, ← hrest]
      rfl

/-- If admitted actions keep two machines related and are answered alike up to `f`, a run
of such actions does. -/
theorem related_run {τ : Type*} {γ : Type*} {N : Machine τ α γ} {R : σ → τ → Prop}
    {A : α → Prop} {f : β → γ}
    (hstep : ∀ s t a, A a → R s t →
      N.output t a = f (M.output s a) ∧ R (M.next s a) (N.next t a)) {s : σ} {t : τ}
    (h : R s t) {as : List α} (has : ∀ a ∈ as, A a) :
    N.answers t as = (M.answers s as).map (Prod.map id f) ∧ R (M.run s as) (N.run t as) := by
  induction as generalizing s t with
  | nil => exact ⟨rfl, h⟩
  | cons a as ih =>
      rw [List.forall_mem_cons] at has
      obtain ⟨houtput, hnext⟩ := hstep s t a has.1 h
      obtain ⟨hanswers, hrun⟩ := ih hnext has.2
      refine ⟨?_, hrun⟩
      rw [answers_cons, answers_cons, List.map_cons, houtput, hanswers]
      rfl

/-- If every step appends what it logs, a run appends what its steps log. -/
theorem log_run {ε : Type*} {log : σ → List ε} {logs : Step σ α β → Option ε}
    (hstep : ∀ s a, log (M.next s a) = log s ++ (logs (M.stepAt s a)).toList) (s : σ)
    (as : List α) : log (M.run s as) = log s ++ (M.steps s as).filterMap logs := by
  induction as generalizing s with
  | nil => simp
  | cons a as ih =>
      rw [run_cons, ih, hstep, steps_cons, List.append_assoc]
      cases hlogs : logs (M.stepAt s a) <;> simp [hlogs]

/-- What every step that meets `C` keeps holds before each step of a run of such steps, and
where the run ends. -/
theorem invariant_of_steps {I : σ → Prop} {C : Step σ α β → Prop}
    (hstep : ∀ s a, I s → C (M.stepAt s a) → I (M.next s a)) {s : σ} (hs : I s) {as : List α}
    (hsteps : ∀ e ∈ M.steps s as, C e) : (∀ e ∈ M.steps s as, I e.before) ∧ I (M.run s as) := by
  induction as generalizing s with
  | nil => exact ⟨fun e he => absurd he List.not_mem_nil, hs⟩
  | cons a as ih =>
      rw [steps_cons, List.forall_mem_cons] at hsteps
      obtain ⟨hbefore, hrun⟩ := ih (hstep s a hs hsteps.1) hsteps.2
      exact ⟨List.forall_mem_cons.mpr ⟨hs, hbefore⟩, hrun⟩

/-- If every step that meets `C` keeps `I` and changes a view of the state as it logs, the
log of a run of such steps rebuilds the view. -/
theorem foldl_log {ε τ : Type*} {V : σ → τ} {logs : Step σ α β → Option ε}
    {apply : τ → ε → τ} {I : σ → Prop} {C : Step σ α β → Prop}
    (hstep : ∀ s a, I s → C (M.stepAt s a) → I (M.next s a) ∧
      V (M.next s a) = (logs (M.stepAt s a)).elim (V s) (apply (V s))) {s : σ}
    (hs : I s) {as : List α} (hsteps : ∀ e ∈ M.steps s as, C e) :
    ((M.steps s as).filterMap logs).foldl apply (V s) = V (M.run s as) := by
  induction as generalizing s with
  | nil => rfl
  | cons a as ih =>
      rw [steps_cons, List.forall_mem_cons] at hsteps
      obtain ⟨hnext, hview⟩ := hstep s a hs hsteps.1
      rw [run_cons, ← ih hnext hsteps.2, hview, steps_cons]
      cases hlogs : logs (M.stepAt s a) with
      | none => rw [List.filterMap_cons_none hlogs]; rfl
      | some e => rw [List.filterMap_cons_some hlogs]; rfl

/-- A part of the state that runs a machine of its own: an action is an action of that
machine or leaves the part alone. -/
structure Embedding {τ γ δ : Type*} (M : Machine σ α β) (N : Machine τ γ δ) (part : σ → τ)
    (action : α → Option γ) : Prop where
  moves : ∀ s {a c}, action a = some c → part (M.next s a) = N.next (part s) c
  stays : ∀ s {a}, action a = none → part (M.next s a) = part s

namespace Embedding

variable {τ γ δ : Type*} {N : Machine τ γ δ} {part : σ → τ} {action : α → Option γ}
  (h : M.Embedding N part action)

include h

theorem run (s : σ) (as : List α) :
    part (M.run s as) = N.run (part s) (as.filterMap action) := by
  induction as generalizing s with
  | nil => rfl
  | cons a as ih =>
      rw [run_cons, ih]
      cases haction : action a with
      | none => rw [List.filterMap_cons_none haction, h.stays s haction]
      | some c => rw [List.filterMap_cons_some haction, run_cons, h.moves s haction]

theorem steps (s : σ) (as : List α) :
    N.steps (part s) (as.filterMap action) =
      (M.steps s as).filterMap fun e => (action e.action).map (N.stepAt (part e.before)) := by
  induction as generalizing s with
  | nil => rfl
  | cons a as ih =>
      have hfirst : (M.stepAt s a).action = a := rfl
      cases haction : action a with
      | none =>
          rw [List.filterMap_cons_none haction, steps_cons,
            List.filterMap_cons_none (by rw [hfirst, haction]; rfl), ← ih, h.stays s haction]
      | some c =>
          rw [List.filterMap_cons_some haction, steps_cons, steps_cons,
            List.filterMap_cons_some (by rw [hfirst, haction]; rfl), ← ih, h.moves s haction]
          rfl

end Embedding

namespace Reachable

theorem run {s : σ} (h : M.Reachable s) (as : List α) : M.Reachable (M.run s as) := by
  induction as generalizing s with
  | nil => exact h
  | cons a as ih => exact ih (h.step a)

/-- What holds at the start and survives every step holds of every reachable
state. -/
theorem invariant {I : σ → Prop} (hstart : ∀ s, M.start s → I s)
    (hstep : ∀ s a, I s → I (M.next s a)) {s : σ} (h : M.Reachable s) : I s := by
  induction h with
  | start hs => exact hstart _ hs
  | step a _ ih => exact hstep _ a ih

/-- What every step from a reachable state keeps, a run keeps. -/
theorem stable {P : σ → Prop} (hstep : ∀ s a, M.Reachable s → P s → P (M.next s a)) {s : σ}
    (h : M.Reachable s) (hp : P s) (as : List α) : P (M.run s as) := by
  induction as generalizing s with
  | nil => exact hp
  | cons a as ih => exact ih (h.step a) (hstep s a h hp)

/-- What every step that meets `C` keeps, a run of such steps keeps. -/
theorem stable_of_steps {P : σ → Prop} {C : Step σ α β → Prop}
    (hstep : ∀ s a, M.Reachable s → P s → C (M.stepAt s a) → P (M.next s a)) {s : σ}
    (h : M.Reachable s) (hp : P s) {as : List α} (hsteps : ∀ e ∈ M.steps s as, C e) :
    P (M.run s as) := by
  induction as generalizing s with
  | nil => exact hp
  | cons a as ih =>
      rw [steps_cons, List.forall_mem_cons] at hsteps
      exact ih (h.step a) (hstep s a h hp hsteps.1) hsteps.2

/-- The states before the steps of a run are reachable. -/
theorem mem_steps {s : σ} (h : M.Reachable s) {as : List α} {e : Step σ α β}
    (he : e ∈ M.steps s as) : M.Reachable e.before ∧ e = M.stepAt e.before e.action := by
  obtain ⟨pre, a, post, rfl, rfl⟩ := Machine.mem_steps he
  exact ⟨h.run pre, rfl⟩

/-- If a step from a state with `P` keeps `P` exactly if it meets `C`, a run keeps
`P` throughout exactly if all its steps meet `C`. -/
theorem forall_after_iff {P : σ → Prop} {C : Step σ α β → Prop}
    (hstep : ∀ s a, M.Reachable s → P s → (P (M.next s a) ↔ C (M.stepAt s a))) {s : σ}
    (h : M.Reachable s) (hp : P s) (as : List α) :
    (∀ e ∈ M.steps s as, P e.after) ↔ ∀ e ∈ M.steps s as, C e := by
  induction as generalizing s with
  | nil => exact ⟨fun _ _ he => (nomatch he), fun _ _ he => (nomatch he)⟩
  | cons a as ih =>
      rw [steps_cons, List.forall_mem_cons, List.forall_mem_cons]
      constructor
      · rintro ⟨hfirst, hrest⟩
        exact ⟨(hstep s a h hp).mp hfirst, (ih (h.step a) hfirst).mp hrest⟩
      · rintro ⟨hfirst, hrest⟩
        have hnext := (hstep s a h hp).mpr hfirst
        exact ⟨hnext, (ih (h.step a) hnext).mpr hrest⟩

/-- Two properties of steps that agree on the steps from reachable states agree on
runs. -/
theorem forall_steps_congr {A B : Step σ α β → Prop}
    (hstep : ∀ s a, M.Reachable s → (A (M.stepAt s a) ↔ B (M.stepAt s a))) {s : σ}
    (h : M.Reachable s) (as : List α) :
    (∀ e ∈ M.steps s as, A e) ↔ ∀ e ∈ M.steps s as, B e := by
  refine forall₂_congr fun e he => ?_
  obtain ⟨hreach, heq⟩ := h.mem_steps he
  rw [heq]
  exact hstep _ _ hreach

/-- What holds of a state and the steps that led there, if every step keeps it. -/
theorem history {P : List (Step σ α β) → σ → Prop}
    (hstep : ∀ es s a, M.Reachable s → P es s → P (es ++ [M.stepAt s a]) (M.next s a)) {s : σ}
    (h : M.Reachable s) {es : List (Step σ α β)} (hp : P es s) (as : List α) :
    P (es ++ M.steps s as) (M.run s as) := by
  induction as generalizing s es with
  | nil => rwa [steps_nil, List.append_nil]
  | cons a as ih =>
      have := ih (h.step a) (hstep es s a h hp)
      rwa [List.append_assoc] at this

/-- If a step with an admitted action, from a state and a history with `P`, keeps `P`
exactly if it meets `C`, a run of such actions keeps `P` throughout exactly if all its
steps meet `C`. -/
theorem forall_prefix_iff {P : List (Step σ α β) → σ → Prop} {A : α → Prop}
    {C : Step σ α β → Prop}
    (hstep : ∀ es s a, M.Reachable s → A a → P es s →
      (P (es ++ [M.stepAt s a]) (M.next s a) ↔ C (M.stepAt s a))) {s : σ}
    (h : M.Reachable s) {es : List (Step σ α β)} (hp : P es s) {as : List α}
    (has : ∀ a ∈ as, A a) :
    (∀ pre, pre <+: as → P (es ++ M.steps s pre) (M.run s pre)) ↔ ∀ e ∈ M.steps s as, C e := by
  induction as generalizing s es with
  | nil =>
      constructor
      · intro _ e he
        cases he
      · intro _ pre hpre
        rw [List.prefix_nil.mp hpre, steps_nil, List.append_nil]
        exact hp
  | cons a as ih =>
      rw [List.forall_mem_cons] at has
      rw [steps_cons, List.forall_mem_cons]
      have hfirst := hstep es s a h has.1 hp
      have hcons : ∀ pre, P (es ++ M.steps s (a :: pre)) (M.run s (a :: pre)) ↔
          P ((es ++ [M.stepAt s a]) ++ M.steps (M.next s a) pre) (M.run (M.next s a) pre) := by
        intro pre
        rw [steps_cons, run_cons, List.append_cons]
      constructor
      · intro hall
        have hnext : P (es ++ [M.stepAt s a]) (M.next s a) :=
          hall [a] (List.cons_prefix_cons.mpr ⟨rfl, List.nil_prefix⟩)
        refine ⟨hfirst.mp hnext, (ih (h.step a) hnext has.2).mp fun pre hpre => ?_⟩
        exact (hcons pre).mp (hall (a :: pre) (List.cons_prefix_cons.mpr ⟨rfl, hpre⟩))
      · intro hall pre hpre
        have hnext := hfirst.mpr hall.1
        cases pre with
        | nil =>
            rw [steps_nil, List.append_nil]
            exact hp
        | cons b bs =>
            obtain ⟨rfl, hbs⟩ := List.cons_prefix_cons.mp hpre
            exact (hcons bs).mpr ((ih (h.step b) hnext has.2).mpr hall.2 bs hbs)

/-- If every step changes a view of the state as the event it emits says, and not at
all without one, the events of a run rebuild the view. -/
theorem foldl_events {ε τ : Type*} {emits : β → Option ε} {view : σ → τ} {apply : τ → ε → τ}
    (hstep : ∀ s a, M.Reachable s →
      view (M.next s a) = (emits (M.output s a)).elim (view s) (apply (view s))) {s : σ}
    (h : M.Reachable s) (as : List α) :
    (events emits (M.steps s as)).foldl apply (view s) = view (M.run s as) := by
  induction as generalizing s with
  | nil => rfl
  | cons a as ih =>
      rw [run_cons, ← ih (h.step a), hstep s a h, steps_cons, events, events]
      cases hemits : emits (M.output s a) with
      | none =>
          rw [List.filterMap_cons_none (a := M.stepAt s a) hemits]
          rfl
      | some e =>
          rw [List.filterMap_cons_some (a := M.stepAt s a) hemits]
          rfl

/-- If the marked steps lead from outside a stable `P` into it, a run has at most
one. -/
theorem countP_steps_le_one {P : σ → Prop} {mark : Step σ α β → Bool}
    (hstable : ∀ s a, M.Reachable s → P s → P (M.next s a))
    (hmark : ∀ s a, M.Reachable s → mark (M.stepAt s a) = true → ¬ P s ∧ P (M.next s a)) {s : σ}
    (h : M.Reachable s) (as : List α) : (M.steps s as).countP mark ≤ 1 := by
  have hnone : ∀ {s as}, M.Reachable s → P s → (M.steps s as).countP mark = 0 := by
    intro s as hs hp
    refine List.countP_eq_zero.mpr fun e he hmarked => ?_
    obtain ⟨pre, a, post, rfl, rfl⟩ := Machine.mem_steps he
    exact (hmark _ a (hs.run pre) hmarked).1 (hs.stable hstable hp pre)
  induction as generalizing s with
  | nil => exact Nat.zero_le 1
  | cons a as ih =>
      rw [steps_cons, List.countP_cons]
      split
      · next hmarked =>
        have hzero : (M.steps (M.next s a) as).countP mark = 0 :=
          hnone (h.step a) (hmark s a h hmarked).2
        omega
      · exact ih (h.step a)

/-- If the abstraction of every step is an abstract step or nothing, the
abstraction of a run is a sequence of abstract steps. -/
theorem simulates {τ : Type*} {T : τ → τ → Prop} {abs : σ → τ}
    (hstep : ∀ s a, M.Reachable s → Relation.ReflGen T (abs s) (abs (M.next s a))) {s : σ}
    (h : M.Reachable s) (as : List α) : Relation.ReflTransGen T (abs s) (abs (M.run s as)) := by
  induction as generalizing s with
  | nil => exact .refl
  | cons a as ih => exact (hstep s a h).to_reflTransGen.trans (ih (h.step a))

/-- If some step that meets `C` keeps `I` and lowers a measure wherever it is positive, a
run of such steps brings it to zero. -/
theorem exists_run_of_measure {I : σ → Prop} {C : Step σ α β → Prop} {n : σ → ℕ}
    (hstep : ∀ s, M.Reachable s → I s → 0 < n s →
      ∃ a, C (M.stepAt s a) ∧ I (M.next s a) ∧ n (M.next s a) < n s) {s : σ}
    (h : M.Reachable s) (hs : I s) :
    ∃ as, (∀ e ∈ M.steps s as, C e) ∧ I (M.run s as) ∧ n (M.run s as) = 0 := by
  induction hn : n s using Nat.strongRecOn generalizing s with
  | _ m ih =>
    rcases Nat.eq_zero_or_pos (n s) with hzero | hpos
    · exact ⟨[], fun e he => absurd he List.not_mem_nil, hs, hzero⟩
    · obtain ⟨a, hfirst, hnext, hlower⟩ := hstep s h hs hpos
      rw [hn] at hlower
      obtain ⟨as, hrest, hlast, hzero⟩ := ih _ hlower (h.step a) hnext rfl
      exact ⟨a :: as, List.forall_mem_cons.mpr ⟨hfirst, hrest⟩, hlast, hzero⟩

end Reachable

end Machine
