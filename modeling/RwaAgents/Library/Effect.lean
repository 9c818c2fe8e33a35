import Mathlib.Logic.Basic

/-!
# Inverting stateful computations that may fail

`EStateM ε σ α` keeps the state it had reached when it throws, as a method
that mutates its receiver does.  The lemmas below turn `x.run s = .ok a s'`
into the facts the parts of `x` established, one `bind` at a time.  A proof
about a successful call then never unfolds the monad.  `NeverThrows` traces an error
back to the parts that can throw it, and `OnlyChecks` marks the parts that write
nothing.  `OnError` speaks about the state in which an error is thrown, and a computation
is `Intact` if that is the state it began in.  The last lemmas do for `Except` what the
first do for `EStateM`.
-/

namespace EStateM

variable {ε σ α β : Type}

/-- Throw `e` unless `c` holds. -/
def require (c : Prop) [Decidable c] (e : ε) : EStateM ε σ Unit :=
  if c then pure () else throw e

/-- The value of an option, or the error `e`. -/
def orThrow (o : Option α) (e : ε) : EStateM ε σ α :=
  match o with
  | some a => pure a
  | none => throw e

theorem run_throw_any (e : ε) (s : σ) : (throw e : EStateM ε σ α).run s = .error e s := rfl

theorem run_ofExcept (x : Except ε α) (s : σ) :
    (MonadExcept.ofExcept x : EStateM ε σ α).run s =
      match x with
      | .ok a => .ok a s
      | .error e => .error e s := by
  cases x <;> rfl

/-- A sequence returns exactly if its first part returns and the rest returns from there. -/
theorem bind_ok {x : EStateM ε σ α} {f : α → EStateM ε σ β} {s s' : σ} {b : β} :
    (x >>= f).run s = .ok b s' ↔ ∃ a t, x.run s = .ok a t ∧ (f a).run t = .ok b s' := by
  rw [run_bind]
  cases x.run s with
  | ok a t => exact ⟨fun h => ⟨a, t, rfl, h⟩, fun ⟨_, _, he, h⟩ => by cases he; exact h⟩
  | error e t => exact ⟨fun h => (nomatch h), fun ⟨_, _, he, _⟩ => (nomatch he)⟩

/-- A value is returned and the state stays. -/
theorem pure_ok {s s' : σ} {a b : α} :
    (pure a : EStateM ε σ α).run s = .ok b s' ↔ a = b ∧ s = s' := by
  rw [run_pure, Result.ok.injEq]

theorem modify_ok {f : σ → σ} {s s' : σ} {u : Unit} :
    (modify f : EStateM ε σ Unit).run s = .ok u s' ↔ s' = f s := by
  rw [run_modify, Result.ok.injEq]
  exact ⟨fun h => h.2.symm, fun h => ⟨rfl, h.symm⟩⟩

theorem set_ok {s s' t : σ} {u : PUnit} :
    (set t : EStateM ε σ PUnit).run s = .ok u s' ↔ s' = t := by
  rw [run_set, Result.ok.injEq]
  exact ⟨fun h => h.2.symm, fun h => ⟨rfl, h.symm⟩⟩

theorem throw_ok {e : ε} {s s' : σ} {a : α} :
    (throw e : EStateM ε σ α).run s = .ok a s' ↔ False := by
  rw [run_throw_any]
  exact ⟨fun h => (nomatch h), False.elim⟩

/-- A check that passes leaves the state alone. -/
theorem require_ok {c : Prop} [Decidable c] {e : ε} {s s' : σ} {u : Unit} :
    (require c e : EStateM ε σ Unit).run s = .ok u s' ↔ c ∧ s = s' := by
  by_cases h : c
  · rw [require, if_pos h, pure_ok]
    exact ⟨fun ⟨_, hs⟩ => ⟨h, hs⟩, fun ⟨_, hs⟩ => ⟨rfl, hs⟩⟩
  · rw [require, if_neg h, throw_ok]
    exact ⟨False.elim, fun hc => h hc.1⟩

/-- An option that is there is returned, and the state stays. -/
theorem orThrow_ok {o : Option α} {e : ε} {s s' : σ} {a : α} :
    (orThrow o e : EStateM ε σ α).run s = .ok a s' ↔ o = some a ∧ s = s' := by
  cases o with
  | some b => rw [orThrow, pure_ok, Option.some.injEq]
  | none => exact ⟨fun h => (nomatch h), fun h => (nomatch h.1)⟩

/-! ## Peeling the first step of a computation -/

variable {s s' : σ} {b : β}

/-- What is read is the state of the run. -/
theorem get_bind_ok {f : σ → EStateM ε σ β} :
    (get >>= f).run s = .ok b s' ↔ (f s).run s = .ok b s' := Iff.rfl

theorem modify_bind_ok {g : σ → σ} {f : Unit → EStateM ε σ β} :
    (modify g >>= f).run s = .ok b s' ↔ (f ()).run (g s) = .ok b s' := Iff.rfl

/-- Behind a check, the condition holds and the rest runs from the same state. -/
theorem require_bind_ok {c : Prop} [Decidable c] {e : ε} {f : Unit → EStateM ε σ β} :
    (require c e >>= f).run s = .ok b s' ↔ c ∧ (f ()).run s = .ok b s' := by
  rw [bind_ok]
  constructor
  · rintro ⟨_, _, hrun, h⟩
    obtain ⟨hc, rfl⟩ := require_ok.mp hrun
    exact ⟨hc, h⟩
  · rintro ⟨hc, h⟩
    exact ⟨(), s, require_ok.mpr ⟨hc, rfl⟩, h⟩

/-- Behind an option that must be there, it is there and the rest runs on its value. -/
theorem orThrow_bind_ok {o : Option α} {e : ε} {f : α → EStateM ε σ β} :
    (orThrow o e >>= f).run s = .ok b s' ↔ ∃ a, o = some a ∧ (f a).run s = .ok b s' := by
  rw [bind_ok]
  constructor
  · rintro ⟨a, _, hrun, h⟩
    obtain ⟨ha, rfl⟩ := orThrow_ok.mp hrun
    exact ⟨a, ha, h⟩
  · rintro ⟨a, ha, h⟩
    exact ⟨a, s, orThrow_ok.mpr ⟨ha, rfl⟩, h⟩

/-! ## How a run ends -/

/-- The value or the error of a run, and the state it has reached. -/
def settle (x : EStateM ε σ α) (s : σ) : Except ε α × σ :=
  match x.run s with
  | .ok a s' => (.ok a, s')
  | .error e s' => (.error e, s')

/-- A value that is there already is passed on, and an error ends the run where it began. -/
theorem settle_ofExcept_bind (x : Except ε α) (f : α → EStateM ε σ β) (s : σ) :
    (MonadExcept.ofExcept x >>= f : EStateM ε σ β).settle s =
      match x with
      | .ok a => (f a).settle s
      | .error e => (.error e, s) := by
  cases x <;> rfl

/-! ## Errors a computation never throws -/

/-- No run throws `e`. -/
def NeverThrows (e : ε) (x : EStateM ε σ α) : Prop := ∀ s s', x.run s ≠ .error e s'

variable {e e' : ε}

/-- An error the first part never throws comes from the second. -/
theorem bind_error {x : EStateM ε σ α} {f : α → EStateM ε σ β} (hx : x.NeverThrows e) :
    (x >>= f).run s = .error e s' ↔ ∃ a t, x.run s = .ok a t ∧ (f a).run t = .error e s' := by
  rw [run_bind]
  have hs := hx s
  cases hrun : x.run s with
  | ok a t => exact ⟨fun h => ⟨a, t, rfl, h⟩, fun ⟨_, _, he, h⟩ => by cases he; exact h⟩
  | error d t =>
      rw [hrun] at hs
      exact ⟨fun h => by cases h; exact absurd rfl (hs s'), fun ⟨_, _, he, _⟩ => (nomatch he)⟩

namespace NeverThrows

@[simp] theorem bind {x : EStateM ε σ α} {f : α → EStateM ε σ β} (hx : x.NeverThrows e)
    (hf : ∀ a, (f a).NeverThrows e) : (x >>= f).NeverThrows e := by
  intro s s' h
  obtain ⟨a, t, -, herror⟩ := (bind_error hx).mp h
  exact hf a t s' herror

@[simp] theorem pure {a : α} : (pure a : EStateM ε σ α).NeverThrows e := fun _ _ h => (nomatch h)

@[simp] theorem get : (get : EStateM ε σ σ).NeverThrows e := fun _ _ h => (nomatch h)

@[simp] theorem set {t : σ} : (set t : EStateM ε σ PUnit).NeverThrows e := fun _ _ h => (nomatch h)

@[simp] theorem modify {f : σ → σ} : (modify f : EStateM ε σ PUnit).NeverThrows e :=
  fun _ _ h => (nomatch h)

@[simp] theorem throw (h : e' ≠ e) : (throw e' : EStateM ε σ α).NeverThrows e := by
  intro s s' he
  rw [run_throw_any] at he
  cases he
  exact h rfl

@[simp] theorem require {c : Prop} [Decidable c] (h : e' ≠ e) :
    (require c e' : EStateM ε σ Unit).NeverThrows e := by
  rw [EStateM.require]
  split
  · exact .pure
  · exact .throw h

@[simp] theorem orThrow {o : Option α} (h : e' ≠ e) :
    (orThrow o e' : EStateM ε σ α).NeverThrows e := by
  cases o with
  | none => exact .throw h
  | some a => exact .pure

end NeverThrows

/-! ## Computations that only check -/

/-- Whether it returns or throws, the computation leaves the state alone. -/
def OnlyChecks (x : EStateM ε σ Unit) : Prop :=
  ∀ s, x.run s = .ok () s ∨ ∃ e, x.run s = .error e s

namespace OnlyChecks

theorem pure : (pure () : EStateM ε σ Unit).OnlyChecks := fun _ => .inl rfl

theorem require {c : Prop} [Decidable c] {e : ε} :
    (require c e : EStateM ε σ Unit).OnlyChecks := by
  intro s
  by_cases hc : c
  · exact .inl (require_ok.mpr ⟨hc, rfl⟩)
  · refine .inr ⟨e, ?_⟩
    rw [EStateM.require, if_neg hc, run_throw_any]

/-- A computation behind a check is refused by it or runs from the same state. -/
theorem bind_cases {x : EStateM ε σ Unit} (hx : x.OnlyChecks) (f : Unit → EStateM ε σ α) (s : σ) :
    (x.run s = .ok () s ∧ (x >>= f).run s = (f ()).run s) ∨
      ∃ e, (x >>= f).run s = .error e s := by
  rcases hx s with hrun | ⟨e, hrun⟩
  · refine .inl ⟨hrun, ?_⟩
    rw [run_bind, hrun]
  · refine .inr ⟨e, ?_⟩
    rw [run_bind, hrun]

theorem bind {x y : EStateM ε σ Unit} (hx : x.OnlyChecks) (hy : y.OnlyChecks) :
    (x >>= fun _ => y).OnlyChecks := by
  intro s
  rcases hx.bind_cases (fun _ => y) s with ⟨-, hrun⟩ | hrefused
  · rw [hrun]
    exact hy s
  · exact .inr hrefused

end OnlyChecks

/-! ## What an error leaves behind -/

/-- A run from `s` throws only in states with `P`. -/
def OnError (x : EStateM ε σ α) (s : σ) (P : σ → Prop) : Prop :=
  ∀ e s', x.run s = .error e s' → P s'

section

variable {P : σ → Prop}

theorem onError_pure {a : α} : (pure a : EStateM ε σ α).OnError s P := fun _ _ h => (nomatch h)

theorem onError_modify {f : σ → σ} : (modify f : EStateM ε σ PUnit).OnError s P :=
  fun _ _ h => (nomatch h)

/-- A check that throws does so in the state it was made in. -/
theorem onError_require {c : Prop} [Decidable c] :
    (require c e : EStateM ε σ Unit).OnError s P ↔ (¬ c → P s) := by
  rw [EStateM.require]
  split
  next hc => exact ⟨fun _ hn => absurd hc hn, fun _ => onError_pure⟩
  next hc =>
    constructor
    · intro h _
      exact h e s rfl
    · intro h e' s' hrun
      cases hrun
      exact h hc

/-- The first of two parts throws, or it returns and the second throws. -/
theorem onError_bind {x : EStateM ε σ α} {f : α → EStateM ε σ β} :
    (x >>= f).OnError s P ↔ x.OnError s P ∧ ∀ a t, x.run s = .ok a t → (f a).OnError t P := by
  simp only [OnError, run_bind]
  cases x.run s with
  | ok a t => simp
  | error d t => simp

end

/-- An error leaves the state that the computation began in. -/
def Intact (x : EStateM ε σ α) : Prop := ∀ s, x.OnError s (· = s)

/-- Whether it returns or throws, the computation leaves the state alone. -/
def OnlyReads (x : EStateM ε σ α) : Prop :=
  ∀ s, (∃ a, x.run s = .ok a s) ∨ ∃ e, x.run s = .error e s

namespace OnlyReads

theorem get : (get : EStateM ε σ σ).OnlyReads := fun s => .inl ⟨s, rfl⟩

theorem pure {a : α} : (pure a : EStateM ε σ α).OnlyReads := fun _ => .inl ⟨a, rfl⟩

theorem throw : (throw e : EStateM ε σ α).OnlyReads := fun _ => .inr ⟨e, rfl⟩

theorem require {c : Prop} [Decidable c] : (require c e : EStateM ε σ Unit).OnlyReads :=
  fun s => (OnlyChecks.require s).imp_left fun hrun => ⟨(), hrun⟩

end OnlyReads

namespace Intact

/-- A computation that never throws is intact. -/
theorem of_neverThrows {x : EStateM ε σ α} (h : ∀ e, x.NeverThrows e) : x.Intact :=
  fun s e s' hrun => absurd hrun (h e s s')

theorem set {t : σ} : (set t : EStateM ε σ PUnit).Intact := of_neverThrows fun _ => .set

theorem modify {f : σ → σ} : (modify f : EStateM ε σ PUnit).Intact :=
  of_neverThrows fun _ => .modify

/-- What only reads may come before a computation that is intact. -/
theorem bind {x : EStateM ε σ α} {f : α → EStateM ε σ β} (hx : x.OnlyReads)
    (hf : ∀ a, (f a).Intact) : (x >>= f).Intact := by
  intro s
  rw [onError_bind]
  rcases hx s with ⟨a, hrun⟩ | ⟨e, hrun⟩
  · simp only [OnError, hrun]
    refine ⟨fun _ _ h => (nomatch h), fun b t h => ?_⟩
    cases h
    exact hf a s
  · simp only [OnError, hrun]
    refine ⟨fun _ _ h => ?_, fun _ _ h => (nomatch h)⟩
    cases h
    rfl

end Intact

end EStateM

namespace Except

variable {ε α β : Type}

@[simp] theorem ok_bind (a : α) (f : α → Except ε β) : (.ok a >>= f : Except ε β) = f a := rfl

@[simp] theorem error_bind (e : ε) (f : α → Except ε β) :
    (.error e >>= f : Except ε β) = .error e := rfl

/-- Behind a guard that throws, the guard was not met. -/
theorem guard_bind_eq_ok {c : Prop} [Decidable c] {e : ε} {f : α → Except ε β} {x : Except ε β}
    {b : β} : (if c then throw e >>= f else x) = .ok b ↔ ¬ c ∧ x = .ok b := by
  by_cases h : c
  · rw [if_pos h]
    exact ⟨fun herror => (nomatch herror), fun hb => absurd h hb.1⟩
  · rw [if_neg h]
    exact ⟨fun hx => ⟨h, hx⟩, fun hb => hb.2⟩

theorem bind_eq_ok {x : Except ε α} {f : α → Except ε β} {b : β} :
    (x >>= f) = .ok b ↔ ∃ a, x = .ok a ∧ f a = .ok b := by
  cases x with
  | error e => exact ⟨fun h => (nomatch h), fun ⟨_, h, _⟩ => (nomatch h)⟩
  | ok a => exact ⟨fun h => ⟨a, rfl, h⟩, fun ⟨_, h, hf⟩ => by cases h; exact hf⟩

theorem pure_eq_ok {a b : α} : (pure a : Except ε α) = .ok b ↔ a = b :=
  ⟨Except.ok.inj, congrArg Except.ok⟩

end Except
