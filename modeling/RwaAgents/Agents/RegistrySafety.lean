import RwaAgents.Agents.Launch
import RwaAgents.Agents.Registry

/-!
# Safety of the registry

Two results about every run.  The two pairing maps are the two directions of a
partial bijection, which a successful `pair` relinks and otherwise leaves alone
(`pairing_partial_bijection`).  A recorded token binding is permanent, and every
pairing value handed out for a bound agent makes the guards on the token throw
(`binding_permanent`).
-/

namespace RwaAgents

open PairingRegistry

/-! ## The partial bijection -/

namespace PairingRegistry.Paired

variable {s : PairingRegistry} (h : s.Paired)

include h

theorem getByRwa_iff (r : String) (p : AgentRwaPairing) :
    s.getByRwa r = some p ↔ p.rwaAsset = r ∧ s.getByAgent p.agentAsset = some p := by
  refine ⟨h.rwa, fun ⟨hr, hp⟩ => ?_⟩
  rw [← hr]
  exact (h.agent hp).2

theorem getByAgent_iff (a : String) (p : AgentRwaPairing) :
    s.getByAgent a = some p ↔ p.agentAsset = a ∧ s.getByRwa p.rwaAsset = some p := by
  refine ⟨h.agent, fun ⟨ha, hp⟩ => ?_⟩
  rw [← ha]
  exact (h.rwa hp).2

theorem list_rwaAsset_nodup : (s.list.map (·.rwaAsset)).Nodup := by
  rw [List.Nodup, List.pairwise_map]
  refine s.byRwa.values_pairwise_ne _ fun e he e' he' heq => ?_
  rw [← (h.rwa (OrderedMap.mem_entries.mp he)).1, heq, (h.rwa (OrderedMap.mem_entries.mp he')).1]

theorem list_agentAsset_nodup : (s.list.map (·.agentAsset)).Nodup := by
  rw [List.Nodup, List.pairwise_map]
  refine s.byRwa.values_pairwise_ne _ fun e he e' he' heq => ?_
  obtain ⟨hr, ha⟩ := h.rwa (OrderedMap.mem_entries.mp he)
  obtain ⟨hr', ha'⟩ := h.rwa (OrderedMap.mem_entries.mp he')
  rw [heq, ha'] at ha
  rw [← hr, ← hr', Option.some.inj ha]

/-- Linking leaves the entry of every RWA alone that neither is the linked one
nor was held by the linked agent. -/
theorem link_getByRwa_of_ne {p : AgentRwaPairing} {r : String} (hr : r ≠ p.rwaAsset)
    (hlinked : ¬ s.Linked p.agentAsset r) : (s.link p).getByRwa r = s.getByRwa r := by
  refine Option.ext fun q => ?_
  rw [getByRwa, getByRwa, h.get?_link_byRwa]
  refine ⟨fun hq => ?_, fun hq => .inr ⟨hr, hq, fun he => hlinked ⟨q, hq, he⟩⟩⟩
  rcases hq with ⟨he, -⟩ | ⟨-, hq, -⟩
  · exact absurd he hr
  · exact hq

/-- Linking leaves the entry of every agent alone that neither is the linked one
nor held the linked RWA. -/
theorem link_getByAgent_of_ne {p : AgentRwaPairing} {a : String} (ha : a ≠ p.agentAsset)
    (hlinked : ¬ s.Linked a p.rwaAsset) : (s.link p).getByAgent a = s.getByAgent a := by
  refine Option.ext fun q => ?_
  rw [getByAgent, getByAgent, h.get?_link_byAgent]
  refine ⟨fun hq => ?_, fun hq => .inr ⟨ha, hq, fun he => hlinked ⟨q, ?_, (h.agent hq).1⟩⟩⟩
  · rcases hq with ⟨he, -⟩ | ⟨-, hq, -⟩
    · exact absurd he ha
    · exact hq
  · rw [← he]
    exact (h.agent hq).2

end PairingRegistry.Paired

/-- In every reachable registry the pairing maps are the two directions of one
partial bijection, and a successful `pair` changes the relation by exactly the
pairs that mention its agent or its RWA. -/
theorem pairing_partial_bijection {s : PairingRegistry} (hs : registryMachine.Reachable s) :
    (∀ r p, s.getByRwa r = some p ↔ p.rwaAsset = r ∧ s.getByAgent p.agentAsset = some p) ∧
      (∀ a p, s.getByAgent a = some p ↔ p.agentAsset = a ∧ s.getByRwa p.rwaAsset = some p) ∧
      Relator.BiUnique s.Linked ∧
      (s.list.map (·.rwaAsset)).Nodup ∧ (s.list.map (·.agentAsset)).Nodup ∧
      ∀ p options q s', (pair p options).run s = .ok q s' →
        (∀ a r, s'.Linked a r ↔
          (s.Linked a r ∧ a ≠ p.agentAsset ∧ r ≠ p.rwaAsset) ∨
            (a = p.agentAsset ∧ r = p.rwaAsset)) ∧
        (∀ r, r ≠ p.rwaAsset → ¬ s.Linked p.agentAsset r → s'.getByRwa r = s.getByRwa r) ∧
        (∀ a, a ≠ p.agentAsset → ¬ s.Linked a p.rwaAsset →
          s'.getByAgent a = s.getByAgent a) ∧
        ∀ a, a ≠ p.agentAsset → s'.boundTokens.get? a = s.boundTokens.get? a := by
  have h := (valid_of_reachable hs).toPaired
  refine ⟨h.getByRwa_iff, h.getByAgent_iff, h.linked_biUnique, h.list_rwaAsset_nodup,
    h.list_agentAsset_nodup, ?_⟩
  intro p options q s' hok
  obtain ⟨-, -, rfl⟩ := pair_ok.mp hok
  have hrec := h.record p
  refine ⟨fun a r => h.linked_store p a r, fun r hr hl => ?_, fun a ha hl => ?_, fun a ha => ?_⟩
  · rw [hrec.link_getByRwa_of_ne (by rwa [stamp_rwaAsset])
      (by rwa [stamp_agentAsset, linked_record]), getByRwa, getByRwa, record_byRwa]
  · rw [hrec.link_getByAgent_of_ne (by rwa [stamp_agentAsset])
      (by rwa [stamp_rwaAsset, linked_record]), getByAgent, getByAgent, record_byAgent]
  · rw [link_boundTokens, record_boundTokens_of_ne s ha]

/-- A pairing value without flags, as `pairAgentWithRwa` would assemble it. -/
def freshPairing (agentAsset rwaAsset : String) : AgentRwaPairing where
  agentAsset
  agentIdentity := "identity-of-" ++ agentAsset
  assetSigner := "signer-of-" ++ agentAsset
  rwaAsset
  rwaAssetId := "id-of-" ++ rwaAsset
  rwaMint := none
  agentToken := none
  agentTokenBound := false

/-- Two agents are paired, then the second one takes the RWA of the first. -/
def replacedRegistry : PairingRegistry :=
  registryMachine.run .empty [
    .pair (freshPairing "agent-a" "rwa-x") {},
    .pair (freshPairing "agent-b" "rwa-y") {},
    .pair (freshPairing "agent-b" "rwa-x") { replace := some true }]

theorem replacedRegistry_reachable : registryMachine.Reachable replacedRegistry :=
  (Machine.Reachable.start rfl).run _

theorem pairing_partial_bijection_replaced :
    replacedRegistry.list.map (·.agentAsset) = ["agent-b"] ∧
      replacedRegistry.getByAgent "agent-a" = none ∧ replacedRegistry.getByRwa "rwa-y" = none ∧
      Relator.BiUnique replacedRegistry.Linked :=
  ⟨by decide, by decide, by decide,
    (pairing_partial_bijection replacedRegistry_reachable).2.2.1⟩

/-! ## The permanence of a binding -/

/-- Every guard on the canonical token throws on the pairing value. -/
structure AgentRwaPairing.RefusesToken (v : AgentRwaPairing) : Prop where
  launch : ∀ {υ : Type} (token : GenesisTokenInput) (options : ShapeLaunchOptions υ),
    options.setToken ≠ some false →
      shapeCreateAndRegisterLaunch v token options = .error alreadyBound
  setAgentToken : ∀ (umi : Umi) (genesisAccount : AssetRef) (collection : Option AssetRef),
    buildSetAgentToken umi v genesisAccount collection = .error alreadyBound
  bind : ∀ mint, bindAgentToken v mint = .error alreadyBound

theorem AgentRwaPairing.refusesToken {v : AgentRwaPairing} (hv : v.agentTokenBound = true) :
    v.RefusesToken where
  launch token options hasks :=
    shapeCreateAndRegisterLaunch_of_bound hv token (decide_eq_true hasks)
  setAgentToken umi genesisAccount collection := by
    rw [buildSetAgentToken, if_pos hv]
    rfl
  bind mint := by
    rw [bindAgentToken, if_pos hv]
    rfl

/-- A successful `pair` of a flagged value leaves its agent recorded, with the
token of the value it returns. -/
theorem PairingRegistry.pair_records {s s' : PairingRegistry} {p q : AgentRwaPairing}
    {options : PairOptions} (hok : (pair p options).run s = .ok q s')
    (hbound : p.agentTokenBound = true) :
    q.agentTokenBound = true ∧ s'.boundTokens.get? p.agentAsset = some q.agentToken ∧
      (s.boundTokens.get? p.agentAsset = none → q.agentToken = p.agentToken) := by
  obtain ⟨-, rfl, rfl⟩ := pair_ok.mp hok
  have hagrees := stamp_agrees s p
  rw [record_boundTokens_self s hbound] at hagrees
  rw [link_boundTokens, record_boundTokens_self s hbound]
  refine ⟨hagrees.1, congrArg some hagrees.2.symm, fun hfree => ?_⟩
  rw [hagrees.2, hfree, Option.getD_none]

namespace PairingRegistry.Valid

variable {s : PairingRegistry} (h : s.Valid)

include h

theorem run (ops : List RegistryOp) : (registryMachine.run s ops).Valid := by
  induction ops generalizing s with
  | nil => exact h
  | cons op ops ih => exact ih (h.step op)

/-- A recorded token survives every run. -/
theorem run_boundTokens {a : String} {token : Option String}
    (hbound : s.boundTokens.get? a = some token) (ops : List RegistryOp) :
    (registryMachine.run s ops).boundTokens.get? a = some token := by
  induction ops generalizing s with
  | nil => exact hbound
  | cons op ops ih => exact ih (h.step op) (h.step_boundTokens hbound op)

/-- A successful `bindAgentToken` records the token it was given. -/
theorem bindAgentToken_records {a m : String} {q : AgentRwaPairing} {s' : PairingRegistry}
    (hok : (PairingRegistry.bindAgentToken a m).run s = .ok q s') :
    q.agentTokenBound = true ∧ q.agentToken = some m ∧
      s'.boundTokens.get? a = some (some m) := by
  obtain ⟨current, hcurrent, hbound, rfl, rfl⟩ := h.bindAgentToken_ok.mp hok
  have hfree := h.get?_boundTokens_of_unbound hcurrent hbound
  rw [← (h.agent hcurrent).1] at hfree ⊢
  refine ⟨rfl, rfl, ?_⟩
  rw [link_boundTokens]
  refine (record_boundTokens_self s rfl).trans ?_
  rw [hfree, Option.getD_none]

/-- A stored flag has a recorded binding. -/
theorem recorded_of_bound {a : String} {p : AgentRwaPairing} (hget : s.byAgent.get? a = some p)
    (hbound : p.agentTokenBound = true) : s.boundTokens.get? a = some p.agentToken := by
  have hagrees := h.agrees hget
  cases hb : s.boundTokens.get? a with
  | none => rw [hb] at hagrees; exact absurd (hbound.symm.trans hagrees) (by decide)
  | some token => rw [hb] at hagrees; rw [hagrees.2]

/-- Every value handed out for a recorded agent carries the recorded token. -/
theorem steps_carry_token {a : String} {token : Option String}
    (hbound : s.boundTokens.get? a = some token) {ops : List RegistryOp}
    {e : Machine.Step PairingRegistry RegistryOp RegistryAnswer}
    (he : e ∈ registryMachine.steps s ops) {vs : List AgentRwaPairing} (hvs : e.output = .ok vs)
    {v : AgentRwaPairing} (hv : v ∈ vs) (ha : v.agentAsset = a) :
    v.agentTokenBound = true ∧ v.agentToken = token := by
  obtain ⟨pre, op, post, rfl, rfl⟩ := Machine.mem_steps he
  have hbefore := h.run_boundTokens hbound pre
  have hagrees := (h.run pre).answer_agrees hvs v hv
  rw [ha, (h.run pre).step_boundTokens hbefore op] at hagrees
  exact hagrees

end PairingRegistry.Valid

/-- A binding, once recorded with a token, is recorded with it at every later
point of the run, and every pairing value handed out for the agent from the
recording call on carries it. -/
theorem binding_permanent {s : PairingRegistry} (hs : registryMachine.Reachable s) :
    -- A successful `pair` of a flagged value and a successful `bindAgentToken` record.
    (∀ p options q s', (pair p options).run s = .ok q s' → p.agentTokenBound = true →
        q.agentTokenBound = true ∧ s'.boundTokens.get? p.agentAsset = some q.agentToken ∧
          (s.boundTokens.get? p.agentAsset = none → q.agentToken = p.agentToken)) ∧
      (∀ a m q s', (PairingRegistry.bindAgentToken a m).run s = .ok q s' →
        q.agentTokenBound = true ∧ q.agentToken = some m ∧
          s'.boundTokens.get? a = some (some m)) ∧
      -- A recorded token stays, and every value handed out carries it.
      (∀ a token, s.boundTokens.get? a = some token → ∀ ops,
        (registryMachine.run s ops).boundTokens.get? a = some token ∧
          ∀ e ∈ registryMachine.steps s ops, ∀ vs, e.output = .ok vs →
            ∀ v ∈ vs, v.agentAsset = a → v.agentTokenBound = true ∧ v.agentToken = token) ∧
      -- A stored flag has a recorded binding.
      (∀ a p, s.getByAgent a = some p → p.agentTokenBound = true →
        s.boundTokens.get? a = some p.agentToken) ∧
      (∀ r p, s.getByRwa r = some p → p.agentTokenBound = true →
        s.boundTokens.get? p.agentAsset = some p.agentToken) ∧
      -- On a flagged value every guard on the token throws.
      ∀ v : AgentRwaPairing, v.agentTokenBound = true → v.RefusesToken := by
  have h := valid_of_reachable hs
  refine ⟨fun p options q s' => pair_records, fun a m q s' => h.bindAgentToken_records, ?_,
    fun a p => h.recorded_of_bound, fun r p hget => h.recorded_of_bound (h.rwa hget).2,
    fun v => AgentRwaPairing.refusesToken⟩
  intro a token hbound ops
  exact ⟨h.run_boundTokens hbound ops, fun e he vs hvs v hv ha =>
    h.steps_carry_token hbound he hvs hv ha⟩

/-- The first agent is bound, loses its RWA to the second and comes back. -/
def returnedRegistry : PairingRegistry :=
  registryMachine.run .empty [
    .pair (freshPairing "agent-a" "rwa-x") {},
    .bindAgentToken "agent-a" "token-a",
    .pair (freshPairing "agent-b" "rwa-x") { replace := some true },
    .pair (freshPairing "agent-a" "rwa-y") {}]

theorem binding_permanent_returned :
    (returnedRegistry.getByAgent "agent-a").map (·.agentTokenBound) = some true ∧
      returnedRegistry.boundTokens.get? "agent-a" = some (some "token-a") ∧
      (registryMachine.run returnedRegistry [.bindAgentToken "agent-a" "token-b"]).boundTokens.get?
        "agent-a" = some (some "token-a") :=
  ⟨by decide, by decide,
    ((binding_permanent ((Machine.Reachable.start rfl).run _)).2.2.1 "agent-a" (some "token-a")
      (by decide) _).1⟩

end RwaAgents
