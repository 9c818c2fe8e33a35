import RwaAgents.Library.TwoKeys
import RwaAgents.Agents.PairCalls

/-!
# The order of two pairings

A registry is, up to the order of its entries, a set of pairings with two unique
keys and a map of bindings.  A stored pairing is put into the set
(`Paired.pairings_store`) and recorded in the map of its own agent.  So two calls
of `pair` with `replace` on different agents and different RWAs can be made in
either order, whoever they displace (`pairings_commute`).
-/

namespace RwaAgents

/-- The call of `pair` that displaces whoever holds the RWA. -/
def RegistryOp.takeOver (p : AgentRwaPairing) : RegistryOp := .pair p { replace := some true }

namespace PairingRegistry

/-- The registry after a pairing is stored. -/
def store (s : PairingRegistry) (p : AgentRwaPairing) : PairingRegistry :=
  (s.record p).link (s.stamp p)

theorem next_takeOver (s : PairingRegistry) (p : AgentRwaPairing) :
    registryMachine.next s (.takeOver p) =
      match s.tokenRefusal p with
      | some _ => s
      | none => s.store p := by
  rw [RegistryOp.takeOver, next_pair, refusal_replace]
  rfl

theorem output_takeOver (s : PairingRegistry) (p : AgentRwaPairing) :
    registryMachine.output s (.takeOver p) =
      match s.tokenRefusal p with
      | some e => .error e
      | none => .ok [s.stamp p] := by
  show (answer ((pair p { replace := some true }).run s)).2 = _
  rw [pair_run, refusal_replace]
  cases s.tokenRefusal p with
  | some e => rfl
  | none => rfl

/-! ## What a stored pairing does to the bindings -/

/-- The binding of an agent after a pairing is recorded. -/
theorem get?_record_boundTokens (s : PairingRegistry) (p : AgentRwaPairing) (a : String) :
    (s.record p).boundTokens.get? a =
      if a = p.agentAsset ∧ p.agentTokenBound = true then
        some ((s.boundTokens.get? a).getD p.agentToken)
      else s.boundTokens.get? a := by
  by_cases ha : a = p.agentAsset
  · subst ha
    by_cases hbound : p.agentTokenBound = true
    · rw [record_boundTokens_self s hbound, if_pos ⟨rfl, hbound⟩]
    · rw [if_neg fun h => hbound h.2, record]
      split
      · rfl
      · rw [if_neg hbound]
  · rw [record_boundTokens_of_ne s ha, if_neg fun h => ha h.1]

theorem get?_store_boundTokens (s : PairingRegistry) (p : AgentRwaPairing) (a : String) :
    (s.store p).boundTokens.get? a = (s.record p).boundTokens.get? a := by
  rw [store, link_boundTokens]

/-- A stored pairing leaves the binding of another agent alone. -/
theorem store_boundTokens_of_ne (s : PairingRegistry) {p : AgentRwaPairing} {a : String}
    (ha : a ≠ p.agentAsset) : (s.store p).boundTokens.get? a = s.boundTokens.get? a := by
  rw [get?_store_boundTokens, record_boundTokens_of_ne s ha]

section OtherAgent

variable (s : PairingRegistry) {p q : AgentRwaPairing} (ha : q.agentAsset ≠ p.agentAsset)

include ha

theorem tokenRefusal_store : (s.store p).tokenRefusal q = s.tokenRefusal q := by
  rw [tokenRefusal, tokenRefusal, store_boundTokens_of_ne s ha]

theorem stamp_store : (s.store p).stamp q = s.stamp q := by
  rw [stamp, stamp, store_boundTokens_of_ne s ha]

/-- A call on one agent answers the same before and after a call on another. -/
theorem output_takeOver_next :
    registryMachine.output (registryMachine.next s (.takeOver p)) (.takeOver q) =
      registryMachine.output s (.takeOver q) := by
  rw [next_takeOver]
  cases s.tokenRefusal p with
  | some e => rfl
  | none => rw [output_takeOver, output_takeOver, tokenRefusal_store s ha, stamp_store s ha]

theorem store_store_boundTokens (a : String) :
    ((s.store p).store q).boundTokens.get? a = ((s.store q).store p).boundTokens.get? a := by
  rw [get?_store_boundTokens, get?_record_boundTokens, get?_store_boundTokens,
    get?_record_boundTokens, get?_store_boundTokens, get?_record_boundTokens,
    get?_store_boundTokens, get?_record_boundTokens]
  by_cases hq : a = q.agentAsset
  · simp [hq, ha]
  · simp [hq]

end OtherAgent

/-! ## The registry as a set of pairings -/

/-- The pairings of the registry. -/
def pairings (s : PairingRegistry) : Set AgentRwaPairing :=
  {p | s.byAgent.get? p.agentAsset = some p}

/-- Two registries are the same finite maps. -/
structure SameMaps (s s' : PairingRegistry) : Prop where
  byRwa : ∀ r, s.byRwa.get? r = s'.byRwa.get? r
  byAgent : ∀ a, s.byAgent.get? a = s'.byAgent.get? a
  boundTokens : ∀ a, s.boundTokens.get? a = s'.boundTokens.get? a

theorem SameMaps.refl (s : PairingRegistry) : SameMaps s s :=
  ⟨fun _ => rfl, fun _ => rfl, fun _ => rfl⟩

namespace Paired

variable {s : PairingRegistry} (h : s.Paired)

include h

theorem byAgent_iff {a : String} {p : AgentRwaPairing} :
    s.byAgent.get? a = some p ↔ p ∈ s.pairings ∧ p.agentAsset = a := by
  constructor
  · intro hget
    obtain ⟨rfl, -⟩ := h.agent hget
    exact ⟨hget, rfl⟩
  · intro ⟨hp, ha⟩
    rw [← ha]
    exact hp

theorem byRwa_iff {r : String} {p : AgentRwaPairing} :
    s.byRwa.get? r = some p ↔ p ∈ s.pairings ∧ p.rwaAsset = r := by
  constructor
  · intro hget
    obtain ⟨rfl, hp⟩ := h.rwa hget
    exact ⟨hp, rfl⟩
  · intro ⟨hp, hr⟩
    rw [← hr]
    exact (h.agent hp).2

/-- Paired registries with the same pairings and bindings are the same maps. -/
theorem sameMaps {s' : PairingRegistry} (h' : s'.Paired) (hpairings : s.pairings = s'.pairings)
    (hbound : ∀ a, s.boundTokens.get? a = s'.boundTokens.get? a) : SameMaps s s' where
  byRwa r := Option.ext fun p => by rw [h.byRwa_iff, h'.byRwa_iff, hpairings]
  byAgent a := Option.ext fun p => by rw [h.byAgent_iff, h'.byAgent_iff, hpairings]
  boundTokens := hbound

/-- A stored pairing is put into the set. -/
theorem pairings_store (p : AgentRwaPairing) :
    (s.store p).pairings =
      TwoKeys.put AgentRwaPairing.agentAsset AgentRwaPairing.rwaAsset (s.stamp p) s.pairings := by
  ext q
  show (s.store p).byAgent.get? q.agentAsset = some q ↔ _
  rw [store, (h.record p).get?_link_byAgent, TwoKeys.mem_put, record_byAgent]
  constructor
  · intro hq
    rcases hq with ⟨-, hq⟩ | ⟨ha, hq, hr⟩
    · exact .inl hq
    · exact .inr ⟨hq, ha, hr⟩
  · intro hq
    rcases hq with rfl | ⟨hq, ha, hr⟩
    · exact .inl ⟨rfl, rfl⟩
    · exact .inr ⟨ha, hq, hr⟩

theorem store (p : AgentRwaPairing) : (s.store p).Paired := (h.record p).link _

/-- Two pairings on different agents and RWAs can be stored in either order. -/
theorem store_store {p q : AgentRwaPairing} (ha : p.agentAsset ≠ q.agentAsset)
    (hr : p.rwaAsset ≠ q.rwaAsset) : SameMaps ((s.store p).store q) ((s.store q).store p) := by
  refine ((h.store p).store q).sameMaps ((h.store q).store p) ?_
    (store_store_boundTokens s ha.symm)
  rw [(h.store p).pairings_store, (h.store q).pairings_store, h.pairings_store, h.pairings_store,
    stamp_store s ha, stamp_store s ha.symm]
  refine TwoKeys.put_comm ?_ ?_ _
  · rw [stamp_agentAsset, stamp_agentAsset]
    exact ha.symm
  · rw [stamp_rwaAsset, stamp_rwaAsset]
    exact hr.symm

end Paired

/-! ## Storing a pairing again -/

section Again

variable (s : PairingRegistry) (p : AgentRwaPairing)

/-- Nothing is recorded the second time. -/
theorem record_store : (s.store p).record p = s.store p := by
  rw [record]
  split
  · rfl
  · next hfree =>
    refine if_neg fun hbound => ?_
    rw [get?_store_boundTokens, record_boundTokens_self s hbound] at hfree
    cases hfree

/-- The pairing is stamped with what its first call recorded. -/
theorem stamp_store_self : (s.store p).stamp p = s.stamp p := by
  rw [stamp, stamp, get?_store_boundTokens, get?_record_boundTokens]
  cases hb : s.boundTokens.get? p.agentAsset with
  | some token => by_cases hbound : p.agentTokenBound = true <;> simp [hbound]
  | none =>
      by_cases hbound : p.agentTokenBound = true
      · simp only [hbound, and_self, if_true, Option.getD_none]
        rw [← hbound]
      · simp [hbound]

theorem tokenRefusal_store_self (h : s.tokenRefusal p = none) :
    (s.store p).tokenRefusal p = none := by
  rw [tokenRefusal_eq_none] at h ⊢
  intro ⟨t, u, ht, ht', hu, hu', hne⟩
  rw [get?_store_boundTokens, get?_record_boundTokens] at ht
  cases hb : s.boundTokens.get? p.agentAsset with
  | some token =>
      have htoken : token = some t := by
        rw [hb] at ht
        by_cases hbound : p.agentTokenBound = true
        · simpa [hbound] using ht
        · simpa [hbound] using ht
      exact h ⟨t, u, by rw [hb, htoken], ht', hu, hu', hne⟩
  | none =>
      -- The recorded token is the one the first call carried.
      rw [hb, hu] at ht
      by_cases hbound : p.agentTokenBound = true
      · simp only [hbound, and_self, if_true, Option.getD_none, Option.some.injEq] at ht
        exact hne ht
      · simp [hbound] at ht

/-- Both ends of a linked pairing are there, so linking it again drops nothing and
rewrites what is stored. -/
theorem link_link : (s.link p).link p = s.link p := by
  have hrwa : (s.link p).byRwa.get? p.rwaAsset = some p := by
    rw [link_byRwa, OrderedMap.get?_set_self]
  have hagent : (s.link p).byAgent.get? p.agentAsset = some p := by
    rw [link_byAgent, OrderedMap.get?_set_self]
  have hdisplace : (s.link p).displace p = s.link p := by
    rw [displace, hrwa]
    exact if_neg (not_not.mpr rfl)
  have hvacate : (s.link p).vacate p = s.link p := by
    rw [vacate, hagent]
    exact if_neg (not_not.mpr rfl)
  rw [link, hdisplace, hvacate, setPairing, OrderedMap.set_of_get? hrwa,
    OrderedMap.set_of_get? hagent]

theorem store_store_self : (s.store p).store p = s.store p := by
  rw [store, record_store, stamp_store_self, store, link_link]

/-- A second call right after a successful one succeeds and changes nothing. -/
theorem pair_again {s s' : PairingRegistry} {p q : AgentRwaPairing}
    (hok : (pair p { replace := some true }).run s = .ok q s') :
    (pair p { replace := some true }).run s' = .ok q s' := by
  obtain ⟨hrefusal, rfl, rfl⟩ := pair_ok.mp hok
  rw [refusal_replace] at hrefusal
  refine pair_ok.mpr ⟨?_, (stamp_store_self s p).symm, (store_store_self s p).symm⟩
  rw [refusal_replace]
  exact tokenRefusal_store_self s p hrefusal

end Again

end PairingRegistry

open PairingRegistry

/-- Two calls of `pair` with `replace` on different agents and RWAs, made in either
order on a reachable registry, answer the same and end in the same maps, and a
successful call made again changes nothing. -/
theorem pairings_commute {s : PairingRegistry} (hs : registryMachine.Reachable s) :
    (∀ p q : AgentRwaPairing, p.agentAsset ≠ q.agentAsset → p.rwaAsset ≠ q.rwaAsset →
      SameMaps (registryMachine.run s [.takeOver p, .takeOver q])
          (registryMachine.run s [.takeOver q, .takeOver p]) ∧
        registryMachine.output (registryMachine.next s (.takeOver q)) (.takeOver p) =
          registryMachine.output s (.takeOver p) ∧
        registryMachine.output (registryMachine.next s (.takeOver p)) (.takeOver q) =
          registryMachine.output s (.takeOver q)) ∧
      ∀ p q s', (pair p { replace := some true }).run s = .ok q s' →
        (pair p { replace := some true }).run s' = .ok q s' := by
  have h := (valid_of_reachable hs).toPaired
  refine ⟨fun p q ha hr => ?_, fun p q s' => pair_again⟩
  refine ⟨?_, output_takeOver_next s ha, output_takeOver_next s ha.symm⟩
  simp only [Machine.run_cons, Machine.run_nil, next_takeOver]
  cases hp : s.tokenRefusal p with
  | some e =>
      cases hq : s.tokenRefusal q with
      | some e' =>
          simp only [hp]
          exact .refl s
      | none =>
          simp only [tokenRefusal_store s ha, hp]
          exact .refl _
  | none =>
      cases hq : s.tokenRefusal q with
      | some e =>
          simp only [hp, tokenRefusal_store s ha.symm, hq]
          exact .refl _
      | none =>
          simp only [tokenRefusal_store s ha, tokenRefusal_store s ha.symm, hp, hq]
          exact h.store_store ha hr

/-- Two agents swap their RWAs. -/
def swapRegistry : PairingRegistry :=
  registryMachine.run .empty [
    .pair (freshPairing "agent-a" "rwa-x") {},
    .pair (freshPairing "agent-b" "rwa-y") {}]

theorem pairings_commute_swap :
    SameMaps
      (registryMachine.run swapRegistry [.takeOver (freshPairing "agent-a" "rwa-y"),
        .takeOver (freshPairing "agent-b" "rwa-x")])
      (registryMachine.run swapRegistry [.takeOver (freshPairing "agent-b" "rwa-x"),
        .takeOver (freshPairing "agent-a" "rwa-y")]) :=
  ((pairings_commute ((Machine.Reachable.start rfl).run _)).1 _ _ (by decide) (by decide)).1

end RwaAgents
