import RwaAgents.Agents.Pairing

/-!
# What `pair` and `bindAgentToken` do

Both methods have a closed form.  `pair_run` says: if the call is refused the
registry is as before and the text is `refusal`.  Otherwise the value `stamp`
is returned and stored by `link`, after `record` has written the binding map.
Nothing later unfolds the methods.
-/

namespace RwaAgents.PairingRegistry

/-- Why the binding map refuses the token of a pairing. -/
def tokenRefusal (s : PairingRegistry) (p : AgentRwaPairing) : Option String :=
  match s.boundTokens.get? p.agentAsset with
  | some token =>
      if truthy p.agentToken ∧ truthy token ∧ p.agentToken ≠ token then
        some "setToken is irreversible; canonical token cannot be replaced"
      else none
  | none => none

/-- Why the holder of the RWA refuses a pairing. -/
def occupied (s : PairingRegistry) (p : AgentRwaPairing) (options : PairOptions) :
    Option String :=
  match s.byRwa.get? p.rwaAsset with
  | some e =>
      if e.agentAsset ≠ p.agentAsset ∧ ¬ options.replace = some true then
        some s!"RWA asset {p.rwaAsset} is already paired with agent {e.agentAsset}"
      else none
  | none => none

/-- Why `pair` throws, if it does. -/
def refusal (s : PairingRegistry) (p : AgentRwaPairing) (options : PairOptions) :
    Option String :=
  (s.occupied p options).or (s.tokenRefusal p)

/-- The pairing value that is stored: a recorded binding overrides the flags of
the caller. -/
def stamp (s : PairingRegistry) (p : AgentRwaPairing) : AgentRwaPairing :=
  match s.boundTokens.get? p.agentAsset with
  | some token => { p with agentTokenBound := true, agentToken := token }
  | none => p

/-- The first binding of an agent is recorded, later ones are not. -/
def record (s : PairingRegistry) (p : AgentRwaPairing) : PairingRegistry :=
  match s.boundTokens.get? p.agentAsset with
  | some _ => s
  | none => if p.agentTokenBound then s.setBoundToken p.agentAsset p.agentToken else s

/-- Drop the agent that holds the RWA, if it is another one. -/
def displace (s : PairingRegistry) (p : AgentRwaPairing) : PairingRegistry :=
  match s.byRwa.get? p.rwaAsset with
  | some e => if e.agentAsset ≠ p.agentAsset then s.deleteAgent e.agentAsset else s
  | none => s

/-- Drop the RWA the agent held, if it is another one. -/
def vacate (s : PairingRegistry) (p : AgentRwaPairing) : PairingRegistry :=
  match s.byAgent.get? p.agentAsset with
  | some q => if q.rwaAsset ≠ p.rwaAsset then s.deleteRwa q.rwaAsset else s
  | none => s

/-- The two deletes and the two sets of a successful `pair`. -/
def link (s : PairingRegistry) (p : AgentRwaPairing) : PairingRegistry :=
  ((s.displace p).vacate p).setPairing p

/-! ## Fields -/

@[simp] theorem stamp_agentAsset (s : PairingRegistry) (p : AgentRwaPairing) :
    (s.stamp p).agentAsset = p.agentAsset := by
  rw [stamp]
  split <;> rfl

@[simp] theorem stamp_rwaAsset (s : PairingRegistry) (p : AgentRwaPairing) :
    (s.stamp p).rwaAsset = p.rwaAsset := by
  rw [stamp]
  split <;> rfl

@[simp] theorem record_byRwa (s : PairingRegistry) (p : AgentRwaPairing) :
    (s.record p).byRwa = s.byRwa := by
  rw [record]
  split
  · rfl
  · split <;> rfl

@[simp] theorem record_byAgent (s : PairingRegistry) (p : AgentRwaPairing) :
    (s.record p).byAgent = s.byAgent := by
  rw [record]
  split
  · rfl
  · split <;> rfl

@[simp] theorem displace_byRwa (s : PairingRegistry) (p : AgentRwaPairing) :
    (s.displace p).byRwa = s.byRwa := by
  rw [displace]
  split
  · split <;> rfl
  · rfl

@[simp] theorem displace_boundTokens (s : PairingRegistry) (p : AgentRwaPairing) :
    (s.displace p).boundTokens = s.boundTokens := by
  rw [displace]
  split
  · split <;> rfl
  · rfl

@[simp] theorem vacate_byAgent (s : PairingRegistry) (p : AgentRwaPairing) :
    (s.vacate p).byAgent = s.byAgent := by
  rw [vacate]
  split
  · split <;> rfl
  · rfl

@[simp] theorem vacate_boundTokens (s : PairingRegistry) (p : AgentRwaPairing) :
    (s.vacate p).boundTokens = s.boundTokens := by
  rw [vacate]
  split
  · split <;> rfl
  · rfl

@[simp] theorem link_boundTokens (s : PairingRegistry) (p : AgentRwaPairing) :
    (s.link p).boundTokens = s.boundTokens := by
  rw [link, setPairing, vacate_boundTokens, displace_boundTokens]

/-! ## Closed forms -/

open EStateM

theorem checkReplace_run (s : PairingRegistry) (p : AgentRwaPairing) (options : PairOptions) :
    (checkReplace (s.byRwa.get? p.rwaAsset) p (options.replace = some true)).run s =
      match s.occupied p options with
      | some e => .error e s
      | none => .ok () s := by
  unfold checkReplace occupied
  cases s.byRwa.get? p.rwaAsset with
  | none => rfl
  | some e =>
      by_cases ha : e.agentAsset = p.agentAsset
      · simp [require, ha]
      · by_cases ho : options.replace = some true <;> simp [require, ha, ho, run_throw_any]

theorem restoreBinding_run (s : PairingRegistry) (p : AgentRwaPairing) :
    (restoreBinding p).run s =
      match s.tokenRefusal p with
      | some e => .error e s
      | none => .ok (s.stamp p) (s.record p) := by
  rw [restoreBinding, tokenRefusal, stamp, record]
  rw [run_bind, run_get]
  cases hb : s.boundTokens.get? p.agentAsset with
  | none =>
      have hhas : s.boundTokens.has p.agentAsset = false := OrderedMap.has_eq_false.mpr hb
      by_cases hp : p.agentTokenBound = true <;>
        simp only [hhas, hp, Bool.false_eq_true, if_false, if_true, run_bind, run_modify, run_pure]
  | some token =>
      have hhas : s.boundTokens.has p.agentAsset = true := OrderedMap.has_iff.mpr ⟨token, hb⟩
      by_cases hclash : truthy p.agentToken ∧ truthy token ∧ p.agentToken ≠ token
      · simp only [hb, hhas, if_true, Option.join_some, run_bind, require,
          if_neg (not_not.mpr hclash), run_throw_any, if_pos hclash]
      · simp only [hb, hhas, if_true, Option.join_some, run_bind, require, if_pos hclash, run_pure,
          if_neg hclash]

theorem dropExisting_run (s : PairingRegistry) (p : AgentRwaPairing) :
    (dropExisting (s.byRwa.get? p.rwaAsset) p).run s = .ok () (s.displace p) := by
  unfold dropExisting displace
  cases s.byRwa.get? p.rwaAsset with
  | none => rfl
  | some e => by_cases h : e.agentAsset = p.agentAsset <;> simp [h]

theorem dropPrior_run (s : PairingRegistry) (p : AgentRwaPairing) :
    (dropPrior (s.byAgent.get? p.agentAsset) p).run s = .ok () (s.vacate p) := by
  unfold dropPrior vacate
  cases s.byAgent.get? p.agentAsset with
  | none => rfl
  | some q => by_cases h : q.rwaAsset = p.rwaAsset <;> simp [h]

/-- What a call of `pair` answers and leaves behind. -/
theorem pair_run (s : PairingRegistry) (p : AgentRwaPairing) (options : PairOptions) :
    (pair p options).run s =
      match s.refusal p options with
      | some e => .error e s
      | none => .ok (s.stamp p) ((s.record p).link (s.stamp p)) := by
  simp only [pair, run_bind, run_get, checkReplace_run, refusal]
  cases s.occupied p options with
  | some e => rfl
  | none =>
      simp only [Option.none_or, restoreBinding_run]
      cases s.tokenRefusal p with
      | some e => rfl
      | none =>
          -- The holder was read before the binding was written, which is the same.
          have hdrop := dropExisting_run (s.record p) (s.stamp p)
          rw [record_byRwa, stamp_rwaAsset] at hdrop
          simp only [hdrop, dropPrior_run, run_modify, run_pure, link]

/-- With `replace` only the binding map can refuse. -/
theorem refusal_replace (s : PairingRegistry) (p : AgentRwaPairing) :
    s.refusal p { replace := some true } = s.tokenRefusal p := by
  have hoccupied : s.occupied p { replace := some true } = none := by
    rw [occupied]
    split <;> simp
  rw [refusal, hoccupied, Option.none_or]

/-- The call succeeds exactly when nothing refuses it. -/
theorem pair_ok {s s' : PairingRegistry} {p q : AgentRwaPairing} {options : PairOptions} :
    (pair p options).run s = .ok q s' ↔
      s.refusal p options = none ∧ q = s.stamp p ∧ s' = (s.record p).link (s.stamp p) := by
  rw [pair_run]
  cases s.refusal p options with
  | some e => simp
  | none => simp [eq_comm]

/-- A call that throws leaves the registry as it was. -/
theorem pair_error {s s' : PairingRegistry} {p : AgentRwaPairing} {options : PairOptions}
    {e : String} (h : (pair p options).run s = .error e s') :
    s' = s ∧ s.refusal p options = some e := by
  rw [pair_run] at h
  cases hr : s.refusal p options with
  | some e' =>
      rw [hr] at h
      cases h
      exact ⟨rfl, rfl⟩
  | none => rw [hr] at h; cases h

/-- What a call of `bindAgentToken` answers and leaves behind. -/
theorem bindAgentToken_run (s : PairingRegistry) (a m : String) :
    (bindAgentToken a m).run s =
      match s.byAgent.get? a with
      | none => .error s!"No pairing for agent {a}" s
      | some current =>
          match RwaAgents.bindAgentToken current m with
          | .error e => .error e s
          | .ok next =>
              match s.refusal next { replace := some true } with
              | some e => .error e s
              | none => .ok next ((s.record next).link (s.stamp next)) := by
  simp only [bindAgentToken, run_bind, run_get]
  cases s.byAgent.get? a with
  | none => rfl
  | some current =>
      simp only [orThrow, run_pure, run_ofExcept]
      cases RwaAgents.bindAgentToken current m with
      | error e => rfl
      | ok next =>
          simp only [pair_run]
          cases s.refusal next { replace := some true } with
          | some e => rfl
          | none => rfl

end RwaAgents.PairingRegistry
