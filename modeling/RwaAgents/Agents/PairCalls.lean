import RwaAgents.Agents.RegistrySafety

/-!
# The calls of the registry

What one call of `pair` or `bindAgentToken` may do to a registry a run has
reached.

*Failure.*  A call that throws has written nothing, and `pair` throws for two
reasons only (`failed_calls_leave_no_trace`).

*Binding.*  `bindAgentToken` calls `pair` with `replace`, but it passes a
pairing that is already linked.  So the nested call relinks nothing, and an
agent that lost its RWA stays without it (`bindAgentToken_exact`).

*Tokens.*  `pair` compares the token it is given with the recorded one by
truthiness.  A token that meets an empty or missing one is overwritten with the
recorded one and the call succeeds (`token_honoured_or_refused_iff`).
-/

/-- Relinking a pair of a one-to-one relation changes nothing. -/
theorem Matching.relink_of_mem {α β : Type*} {R : α → β → Prop} (hR : Relator.BiUnique R) {a : α}
    {b : β} (hab : R a b) (x : α) (y : β) : Matching.relink R a b x y ↔ R x y := by
  constructor
  · intro h
    rcases h with ⟨hxy, -, -⟩ | ⟨rfl, rfl⟩
    · exact hxy
    · exact hab
  · intro hxy
    by_cases hx : x = a
    · rw [hx] at hxy
      exact .inr ⟨hx, hR.2 hxy hab⟩
    · exact .inl ⟨hxy, hx, fun hy => hx (hR.1 hxy (by rwa [hy]))⟩

namespace RwaAgents

open PairingRegistry

/-! ## When a call throws -/

/-- Another agent holds the RWA and the caller did not ask to replace it. -/
def PairingRegistry.Occupied (s : PairingRegistry) (p : AgentRwaPairing) (options : PairOptions) :
    Prop :=
  (∃ a, s.Linked a p.rwaAsset ∧ a ≠ p.agentAsset) ∧ options.replace ≠ some true

theorem PairingRegistry.occupied_eq_none {s : PairingRegistry} {p : AgentRwaPairing}
    {options : PairOptions} : s.occupied p options = none ↔ ¬ s.Occupied p options := by
  unfold occupied Occupied Linked
  cases s.byRwa.get? p.rwaAsset with
  | none => simp
  | some e => simp

theorem truthy_some {t : String} : truthy (some t) = true ↔ t ≠ "" := by
  simp [truthy]

theorem truthy_iff {token : Option String} :
    truthy token = true ↔ ∃ t, token = some t ∧ t ≠ "" := by
  cases token with
  | none => simp [truthy]
  | some t => simp [truthy]

/-- The agent is recorded with one non-empty token and the pairing carries
another. -/
def PairingRegistry.Clashes (s : PairingRegistry) (p : AgentRwaPairing) : Prop :=
  ∃ t u, s.boundTokens.get? p.agentAsset = some (some t) ∧ t ≠ "" ∧
    p.agentToken = some u ∧ u ≠ "" ∧ u ≠ t

theorem PairingRegistry.tokenRefusal_eq_none {s : PairingRegistry} {p : AgentRwaPairing} :
    s.tokenRefusal p = none ↔ ¬ s.Clashes p := by
  unfold tokenRefusal Clashes
  cases s.boundTokens.get? p.agentAsset with
  | none => simp
  | some token =>
      simp only [ite_eq_right_iff, reduceCtorEq, imp_false, truthy_iff, Option.some.injEq]
      refine not_congr ⟨?_, ?_⟩
      · rintro ⟨⟨u, hu, hu'⟩, ⟨t, rfl, ht'⟩, hne⟩
        refine ⟨t, u, rfl, ht', hu, hu', fun he => hne ?_⟩
        rw [hu, he]
      · rintro ⟨t, u, rfl, ht', hu, hu', hne⟩
        refine ⟨⟨u, hu, hu'⟩, ⟨t, rfl, ht'⟩, fun he => hne ?_⟩
        rw [hu] at he
        exact Option.some.inj he

theorem PairingRegistry.refusal_eq_none {s : PairingRegistry} {p : AgentRwaPairing}
    {options : PairOptions} :
    s.refusal p options = none ↔ ¬ s.Occupied p options ∧ ¬ s.Clashes p := by
  rw [refusal, Option.or_eq_none_iff, occupied_eq_none, tokenRefusal_eq_none]

/-- `pair` throws exactly if something refuses the pairing. -/
theorem PairingRegistry.pair_throws_iff {s : PairingRegistry} {p : AgentRwaPairing}
    {options : PairOptions} :
    (∃ e s', (pair p options).run s = .error e s') ↔ s.Occupied p options ∨ s.Clashes p := by
  rw [← not_iff_not, not_or, ← refusal_eq_none, pair_run]
  cases s.refusal p options with
  | none => simp
  | some e => simp

/-- A `bindAgentToken` that throws leaves the registry as it was. -/
theorem PairingRegistry.bindAgentToken_error {s s' : PairingRegistry} {a m e : String}
    (h : (PairingRegistry.bindAgentToken a m).run s = .error e s') : s' = s := by
  rw [bindAgentToken_run] at h
  split at h
  · cases h
    rfl
  · split at h
    · cases h
      rfl
    · split at h
      · cases h
        rfl
      · cases h

/-- `pair` throws exactly if another agent holds the RWA and `replace` is not set,
or the agent is recorded with another non-empty token.  A call of either method
that throws leaves the three maps as they were. -/
theorem failed_calls_leave_no_trace (s : PairingRegistry) :
    (∀ p options, (∃ e s', (pair p options).run s = .error e s') ↔
        ((∃ a, s.Linked a p.rwaAsset ∧ a ≠ p.agentAsset) ∧ options.replace ≠ some true) ∨
          ∃ t u, s.boundTokens.get? p.agentAsset = some (some t) ∧ t ≠ "" ∧
            p.agentToken = some u ∧ u ≠ "" ∧ u ≠ t) ∧
      (∀ p options e s', (pair p options).run s = .error e s' →
        s'.byRwa = s.byRwa ∧ s'.byAgent = s.byAgent ∧ s'.boundTokens = s.boundTokens) ∧
      ∀ a m e s', (PairingRegistry.bindAgentToken a m).run s = .error e s' →
        s'.byRwa = s.byRwa ∧ s'.byAgent = s.byAgent ∧ s'.boundTokens = s.boundTokens := by
  refine ⟨fun p options => pair_throws_iff, ?_, ?_⟩
  · intro p options e s' h
    obtain ⟨rfl, -⟩ := pair_error h
    exact ⟨rfl, rfl, rfl⟩
  · intro a m e s' h
    cases bindAgentToken_error h
    exact ⟨rfl, rfl, rfl⟩

/-- The third agent is refused, and so is a second binding of the first one. -/
theorem failed_calls_leave_no_trace_returned :
    (∃ e s', (pair (freshPairing "agent-c" "rwa-x") {}).run returnedRegistry = .error e s') ∧
      (∃ e s', (PairingRegistry.bindAgentToken "agent-a" "token-b").run returnedRegistry =
        .error e s' ∧ s'.byAgent = returnedRegistry.byAgent) :=
  ⟨((failed_calls_leave_no_trace returnedRegistry).1 _ _).mpr
      (.inl ⟨⟨"agent-b", ⟨_, rfl, rfl⟩, by decide⟩, by decide⟩),
    _, _, rfl,
    ((failed_calls_leave_no_trace returnedRegistry).2.2 "agent-a" "token-b" _ _ rfl).2.1⟩

/-! ## What `bindAgentToken` changes -/

namespace PairingRegistry

/-- The registry after a call of `pair`. -/
theorem next_pair (s : PairingRegistry) (p : AgentRwaPairing) (options : PairOptions) :
    registryMachine.next s (.pair p options) =
      match s.refusal p options with
      | some _ => s
      | none => (s.record p).link (s.stamp p) := by
  show (answer ((pair p options).run s)).1 = _
  rw [pair_run]
  cases s.refusal p options with
  | some e => rfl
  | none => rfl

namespace Valid

variable {s : PairingRegistry} (h : s.Valid)

include h

/-- The flag of a stored pairing says whether its agent is recorded. -/
theorem has_boundTokens {a : String} {current : AgentRwaPairing}
    (hcurrent : s.byAgent.get? a = some current) :
    s.boundTokens.has a = current.agentTokenBound := by
  have hagrees := h.agrees hcurrent
  cases hb : s.boundTokens.get? a with
  | none =>
      rw [hb] at hagrees
      rw [OrderedMap.has_eq_false.mpr hb]
      exact hagrees.symm
  | some token =>
      rw [hb] at hagrees
      rw [OrderedMap.has_iff.mpr ⟨token, hb⟩, hagrees.1]

theorem bindAgentToken_throws_iff {a m : String} :
    (∃ e s', (bindAgentToken a m).run s = .error e s') ↔
      s.getByAgent a = none ∨ s.boundTokens.has a = true := by
  rw [h.bindAgentToken_run, getByAgent]
  cases hcurrent : s.byAgent.get? a with
  | none => simp
  | some current =>
      rw [h.has_boundTokens hcurrent]
      cases hnext : RwaAgents.bindAgentToken current m with
      | error e =>
          have hbound : current.agentTokenBound = true := by
            refine Bool.of_not_eq_false fun hbound => ?_
            rw [RwaAgents.bindAgentToken_ok.mpr ⟨hbound, rfl⟩] at hnext
            cases hnext
          simp [hnext, hbound]
      | ok next => simp [hnext, (RwaAgents.bindAgentToken_ok.mp hnext).1]

/-- A call of `pair` that is not refused relinks its two ends. -/
theorem linked_next_pair (p : AgentRwaPairing) (options : PairOptions) (a r : String) :
    (registryMachine.next s (.pair p options)).Linked a r ↔
      match s.refusal p options with
      | some _ => s.Linked a r
      | none => Matching.relink s.Linked p.agentAsset p.rwaAsset a r := by
  rw [next_pair]
  cases s.refusal p options with
  | some e => exact Iff.rfl
  | none => exact h.toPaired.linked_store p a r

/-- What a successful `bindAgentToken` returned is the pairing the agent had, with
the token on it, and is what the nested `pair` stored. -/
theorem bindAgentToken_stores {a m : String} {q : AgentRwaPairing} {s' : PairingRegistry}
    (hok : (bindAgentToken a m).run s = .ok q s') :
    q.agentAsset = a ∧ s.Linked a q.rwaAsset ∧ s.stamp q = q ∧ s' = (s.record q).link q ∧
      (pair q { replace := some true }).run s = .ok q s' := by
  obtain ⟨current, hcurrent, hbound, rfl, rfl⟩ := h.bindAgentToken_ok.mp hok
  obtain ⟨rfl, hrwa⟩ := h.agent hcurrent
  have hfree := h.get?_boundTokens_of_unbound hcurrent hbound
  have hstamp : s.stamp { current with agentToken := some m, agentTokenBound := true } =
      { current with agentToken := some m, agentTokenBound := true } := by
    simp only [stamp, hfree]
  refine ⟨rfl, ⟨current, hrwa, rfl⟩, hstamp, rfl, pair_ok.mpr ⟨?_, hstamp.symm, ?_⟩⟩
  · simp only [refusal_replace, tokenRefusal, hfree]
  · rw [hstamp]

/-- The two ends of what a successful `bindAgentToken` stores are linked already, so
storing it relinks nothing. -/
theorem linked_of_bindAgentToken {a m : String} {q : AgentRwaPairing} {s' : PairingRegistry}
    (hok : (bindAgentToken a m).run s = .ok q s') (b r : String) :
    s'.Linked b r ↔ s.Linked b r := by
  obtain ⟨rfl, hlinked, hstamp, rfl, -⟩ := h.bindAgentToken_stores hok
  have hstore := h.toPaired.linked_store q b r
  rw [hstamp] at hstore
  rw [hstore]
  exact Matching.relink_of_mem h.toPaired.linked_biUnique hlinked b r

/-- No `bindAgentToken` changes which agent holds which RWA. -/
theorem linked_bindAgentToken (a m b r : String) :
    (registryMachine.next s (.bindAgentToken a m)).Linked b r ↔ s.Linked b r := by
  show (answer ((bindAgentToken a m).run s)).1.Linked b r ↔ s.Linked b r
  cases hrun : (bindAgentToken a m).run s with
  | error e s' =>
      rw [bindAgentToken_error hrun]
      rfl
  | ok q s' =>
      exact h.linked_of_bindAgentToken hrun b r

/-- Only a `pair` of the agent with the RWA links them. -/
theorem linked_of_next {a r : String} {op : RegistryOp}
    (hop : ∀ p options, op = .pair p options → ¬ (p.agentAsset = a ∧ p.rwaAsset = r))
    (hlinked : (registryMachine.next s op).Linked a r) : s.Linked a r := by
  cases op with
  | bindAgentToken b m => exact (h.linked_bindAgentToken b m a r).mp hlinked
  | pair p options =>
      rw [h.linked_next_pair] at hlinked
      split at hlinked
      · exact hlinked
      · rcases hlinked with ⟨hold, -, -⟩ | ⟨rfl, rfl⟩
        · exact hold
        · exact absurd ⟨rfl, rfl⟩ (hop p options rfl)
  | getByRwa | getByAgent | list => exact hlinked

/-- Only a `pair` of the agent or of the RWA with another partner unlinks them. -/
theorem linked_next {a r : String} {op : RegistryOp}
    (hop : ∀ p options, op = .pair p options → p.agentAsset ≠ a ∧ p.rwaAsset ≠ r)
    (hlinked : s.Linked a r) : (registryMachine.next s op).Linked a r := by
  cases op with
  | bindAgentToken b m => exact (h.linked_bindAgentToken b m a r).mpr hlinked
  | pair p options =>
      rw [h.linked_next_pair]
      obtain ⟨hagent, hrwa⟩ := hop p options rfl
      split
      · exact hlinked
      · exact .inl ⟨hlinked, hagent.symm, hrwa.symm⟩
  | getByRwa | getByAgent | list => exact hlinked

/-- An agent without an RWA stays without it unless `pair` is called on the two. -/
theorem not_linked_run {a r : String} {ops : List RegistryOp}
    (hops : ∀ p options, .pair p options ∈ ops → ¬ (p.agentAsset = a ∧ p.rwaAsset = r))
    (hfree : ¬ s.Linked a r) : ¬ (registryMachine.run s ops).Linked a r := by
  induction ops generalizing s with
  | nil => exact hfree
  | cons op ops ih =>
      refine ih (h.step op) (fun p options hp => hops p options (List.mem_cons_of_mem _ hp)) ?_
      refine fun hlinked => hfree (h.linked_of_next (fun p options he => ?_) hlinked)
      exact hops p options (he ▸ List.mem_cons_self)

/-- An agent keeps its RWA unless `pair` is called on one of the two. -/
theorem linked_run {a r : String} {ops : List RegistryOp}
    (hops : ∀ p options, .pair p options ∈ ops → p.agentAsset ≠ a ∧ p.rwaAsset ≠ r)
    (hlinked : s.Linked a r) : (registryMachine.run s ops).Linked a r := by
  induction ops generalizing s with
  | nil => exact hlinked
  | cons op ops ih =>
      refine ih (h.step op) (fun p options hp => hops p options (List.mem_cons_of_mem _ hp)) ?_
      refine h.linked_next (fun p options he => ?_) hlinked
      exact hops p options (he ▸ List.mem_cons_self)

/-- After a successful `bindAgentToken` both maps hold what it returned, and the
entries of every other agent and RWA are as they were. -/
theorem bindAgentToken_entries {a m : String} {q : AgentRwaPairing} {s' : PairingRegistry}
    (hok : (bindAgentToken a m).run s = .ok q s') :
    (s'.getByAgent a = some q ∧ s'.getByRwa q.rwaAsset = some q) ∧
      (∀ b, b ≠ a → s'.getByAgent b = s.getByAgent b ∧
        s'.boundTokens.get? b = s.boundTokens.get? b) ∧
      ∀ r, r ≠ q.rwaAsset → s'.getByRwa r = s.getByRwa r := by
  obtain ⟨rfl, hlinked, -, rfl, -⟩ := h.bindAgentToken_stores hok
  have hrec := h.toPaired.record q
  refine ⟨⟨?_, ?_⟩, fun b hb => ⟨?_, ?_⟩, fun r hr => ?_⟩
  · exact (hrec.get?_link_byAgent q).mpr (.inl ⟨rfl, rfl⟩)
  · exact (hrec.get?_link_byRwa q).mpr (.inl ⟨rfl, rfl⟩)
  · -- Only the agent itself holds its RWA.
    have hother : ¬ (s.record q).Linked b q.rwaAsset := by
      rw [linked_record]
      exact fun hb' => hb (h.toPaired.linked_biUnique.1 hb' hlinked)
    rw [hrec.link_getByAgent_of_ne hb hother, getByAgent, getByAgent, record_byAgent]
  · rw [link_boundTokens, record_boundTokens_of_ne s hb]
  · have hother : ¬ (s.record q).Linked q.agentAsset r := by
      rw [linked_record]
      exact fun hr' => hr (h.toPaired.linked_biUnique.2 hr' hlinked)
    rw [hrec.link_getByRwa_of_ne hr hother, getByRwa, getByRwa, record_byRwa]

/-- If the agent has a pairing that takes the token, the nested `pair` stores that
value and the method returns it. -/
theorem bindAgentToken_nested {a m : String} {current next : AgentRwaPairing}
    (hcurrent : s.getByAgent a = some current)
    (hnext : RwaAgents.bindAgentToken current m = .ok next) :
    ∃ s', (pair next { replace := some true }).run s = .ok next s' ∧
      (bindAgentToken a m).run s = .ok next s' := by
  obtain ⟨hbound, rfl⟩ := RwaAgents.bindAgentToken_ok.mp hnext
  have hok := (h.bindAgentToken_ok (m := m)).mpr ⟨current, hcurrent, hbound, rfl, rfl⟩
  obtain ⟨-, -, -, -, hpair⟩ := h.bindAgentToken_stores hok
  exact ⟨_, hpair, hok⟩

end Valid

end PairingRegistry

/-- On a reachable registry `bindAgentToken` throws exactly for an agent without a
pairing or with a recorded binding.  Otherwise it puts the token on the pairing of
the agent and changes nothing else, and no call of it moves an RWA. -/
theorem bindAgentToken_exact {s : PairingRegistry} (hs : registryMachine.Reachable s) :
    (∀ a m, (∃ e s', (PairingRegistry.bindAgentToken a m).run s = .error e s') ↔
        s.getByAgent a = none ∨ s.boundTokens.has a = true) ∧
      (∀ a m q s', (PairingRegistry.bindAgentToken a m).run s = .ok q s' →
        (q.agentToken = some m ∧ q.agentTokenBound = true) ∧
        (s'.getByAgent a = some q ∧ s'.getByRwa q.rwaAsset = some q) ∧
        (∀ b r, s'.Linked b r ↔ s.Linked b r) ∧
        (∀ b, b ≠ a → s'.getByAgent b = s.getByAgent b ∧
          s'.boundTokens.get? b = s.boundTokens.get? b) ∧
        ∀ r, r ≠ q.rwaAsset → s'.getByRwa r = s.getByRwa r) ∧
      -- The nested `pair` succeeds and stores the value the method returns.
      (∀ a m current next, s.getByAgent a = some current →
        RwaAgents.bindAgentToken current m = .ok next →
        ∃ s', (pair next { replace := some true }).run s = .ok next s' ∧
          (PairingRegistry.bindAgentToken a m).run s = .ok next s') ∧
      -- A displaced agent gets its RWA back from a `pair` only, and its successor keeps it.
      (∀ a r ops,
        (∀ p options, .pair p options ∈ ops → ¬ (p.agentAsset = a ∧ p.rwaAsset = r)) →
        ¬ s.Linked a r → ¬ (registryMachine.run s ops).Linked a r) ∧
      ∀ b r ops,
        (∀ p options, .pair p options ∈ ops → p.agentAsset ≠ b ∧ p.rwaAsset ≠ r) →
        s.Linked b r → (registryMachine.run s ops).Linked b r := by
  have h := valid_of_reachable hs
  refine ⟨fun a m => h.bindAgentToken_throws_iff, ?_,
    fun a m current next hcurrent hnext => h.bindAgentToken_nested hcurrent hnext,
    fun a r ops hops hfree => h.not_linked_run hops hfree,
    fun b r ops hops hlinked => h.linked_run hops hlinked⟩
  intro a m q s' hok
  obtain ⟨hbound, htoken, -⟩ := h.bindAgentToken_records hok
  obtain ⟨hget, hothers, hrwas⟩ := h.bindAgentToken_entries hok
  exact ⟨⟨htoken, hbound⟩, hget, h.linked_of_bindAgentToken hok, hothers, hrwas⟩

/-- The displaced first agent cannot bind a token, and binding the token of its
successor leaves it displaced. -/
theorem bindAgentToken_exact_replaced :
    (∃ e s', (PairingRegistry.bindAgentToken "agent-a" "token-a").run replacedRegistry =
      .error e s') ∧
      ¬ (registryMachine.run replacedRegistry [.bindAgentToken "agent-a" "token-a",
        .bindAgentToken "agent-b" "token-b"]).Linked "agent-a" "rwa-x" :=
  ⟨((bindAgentToken_exact replacedRegistry_reachable).1 _ _).mpr (.inl (by decide)),
    (bindAgentToken_exact replacedRegistry_reachable).2.2.2.1 _ _ _ (by simp)
      fun ⟨p, hp, ha⟩ => by
        cases hp
        exact absurd ha (by decide)⟩

/-! ## The token handed to `pair` -/

/-- The call throws, or it returns a pairing with the token and stores it. -/
def PairingRegistry.HonoursOrRefuses (s : PairingRegistry) (p : AgentRwaPairing)
    (options : PairOptions) (t : String) : Prop :=
  (∃ e s', (pair p options).run s = .error e s') ∨
    ∃ q s', (pair p options).run s = .ok q s' ∧ q.agentToken = some t ∧
      s'.getByAgent p.agentAsset = some q ∧ s'.getByRwa p.rwaAsset = some q

/-- The recorded token of the agent, if there is one, is the given token or can be
told from it by truthiness. -/
def PairingRegistry.Comparable (s : PairingRegistry) (a t : String) : Prop :=
  s.boundTokens.get? a = none ∨ s.boundTokens.get? a = some (some t) ∨
    t ≠ "" ∧ ∃ r, s.boundTokens.get? a = some (some r) ∧ r ≠ ""

/-- A successful `pair` stores what it returns in both maps. -/
theorem PairingRegistry.pair_stores {s s' : PairingRegistry} {p q : AgentRwaPairing}
    {options : PairOptions} (hok : (pair p options).run s = .ok q s') :
    s'.getByAgent p.agentAsset = some q ∧ s'.getByRwa p.rwaAsset = some q := by
  obtain ⟨-, rfl, rfl⟩ := pair_ok.mp hok
  rw [getByAgent, getByRwa, link_byAgent, link_byRwa, stamp_agentAsset, stamp_rwaAsset]
  exact ⟨OrderedMap.get?_set_self _ _ _, OrderedMap.get?_set_self _ _ _⟩

/-- A pairing that does not clash keeps its token exactly if the token is
comparable with the recorded one. -/
theorem PairingRegistry.stamp_agentToken_iff {s : PairingRegistry} {p : AgentRwaPairing}
    {t : String} (ht : p.agentToken = some t) (hclash : ¬ s.Clashes p) :
    (s.stamp p).agentToken = some t ↔ s.Comparable p.agentAsset t := by
  unfold stamp Comparable
  cases hb : s.boundTokens.get? p.agentAsset with
  | none => simp [ht]
  | some token =>
      simp only [Option.some.injEq, reduceCtorEq, false_or]
      refine ⟨fun he => .inl he, fun hcases => ?_⟩
      rcases hcases with he | ⟨hne, r, rfl, hr⟩
      · exact he
      · refine congrArg some (by_contra fun htr => hclash ?_)
        exact ⟨r, t, hb, hr, ht, hne, fun he => htr he.symm⟩

theorem PairingRegistry.honoursOrRefuses_iff {s : PairingRegistry} {p : AgentRwaPairing}
    {options : PairOptions} {t : String} (ht : p.agentToken = some t) :
    s.HonoursOrRefuses p options t ↔
      s.Occupied p options ∨ s.Comparable p.agentAsset t := by
  unfold HonoursOrRefuses
  rw [pair_throws_iff]
  by_cases hrefused : s.Occupied p options ∨ s.Clashes p
  · refine ⟨fun _ => ?_, fun _ => .inl hrefused⟩
    rcases hrefused with hoccupied | ⟨r, u, hb, hr, hu, hu', -⟩
    · exact .inl hoccupied
    · rw [ht] at hu
      cases hu
      exact .inr (.inr (.inr ⟨hu', r, hb, hr⟩))
  · rw [not_or] at hrefused
    have hok := pair_ok.mpr ⟨refusal_eq_none.mpr hrefused, rfl, rfl⟩
    rw [← stamp_agentToken_iff ht hrefused.2]
    constructor
    · intro h
      rcases h with h | ⟨q, s', hq, htoken, -⟩
      · exact absurd h (not_or.mpr hrefused)
      · rw [← (pair_ok.mp hq).2.1]
        exact .inr htoken
    · intro h
      rcases h with h | htoken
      · exact absurd h hrefused.1
      · exact .inr ⟨_, _, hok, htoken, pair_stores hok⟩

/-- If the operation records a binding, it records a non-empty token. -/
def RegistryOp.BindsToken : RegistryOp → Prop
  | .pair p _ => p.agentTokenBound = true → truthy p.agentToken
  | .bindAgentToken _ m => m ≠ ""
  | .getByRwa _ | .getByAgent _ | .list => True

/-- Every recorded token is a non-empty string. -/
def PairingRegistry.TokensBound (s : PairingRegistry) : Prop :=
  ∀ a token, s.boundTokens.get? a = some token → truthy token

theorem PairingRegistry.TokensBound.record {s : PairingRegistry} (h : s.TokensBound)
    {p : AgentRwaPairing} (hp : p.agentTokenBound = true → truthy p.agentToken) :
    (s.record p).TokensBound := by
  intro a token hget
  rw [PairingRegistry.record] at hget
  split at hget
  · exact h a token hget
  · split at hget
    · next hbound =>
      rw [setBoundToken, OrderedMap.get?_set] at hget
      split at hget
      · rw [← Option.some.inj hget]
        exact hp hbound
      · exact h a token hget
    · exact h a token hget

theorem PairingRegistry.TokensBound.next {s : PairingRegistry} (h : s.TokensBound)
    (hvalid : s.Valid) {op : RegistryOp} (hop : op.BindsToken) :
    (registryMachine.next s op).TokensBound := by
  cases op with
  | pair p options =>
      rw [next_pair]
      cases s.refusal p options with
      | some e => exact h
      | none =>
          intro a token hget
          rw [link_boundTokens] at hget
          exact h.record hop a token hget
  | bindAgentToken a m =>
      show (answer ((PairingRegistry.bindAgentToken a m).run s)).1.TokensBound
      cases hrun : (PairingRegistry.bindAgentToken a m).run s with
      | error e s' =>
          rw [bindAgentToken_error hrun]
          exact h
      | ok q s' =>
          obtain ⟨-, -, -, rfl, -⟩ := hvalid.bindAgentToken_stores hrun
          obtain ⟨-, htoken, -⟩ := hvalid.bindAgentToken_records hrun
          intro b token hget
          rw [answer, link_boundTokens] at hget
          refine h.record (fun _ => ?_) b token hget
          rw [htoken, truthy_some]
          exact hop
  | getByRwa | getByAgent | list => exact h

/-- A run that records non-empty tokens only has recorded non-empty tokens only. -/
theorem PairingRegistry.tokensBound_run {ops : List RegistryOp}
    (hops : ∀ op ∈ ops, op.BindsToken) : (registryMachine.run .empty ops).TokensBound := by
  have hstep (s : PairingRegistry) (op : RegistryOp) (hs : registryMachine.Reachable s)
      (h : s.TokensBound) (hop : op.BindsToken) : (registryMachine.next s op).TokensBound :=
    h.next (valid_of_reachable hs) hop
  refine Machine.Reachable.stable_of_steps (C := fun e => RegistryOp.BindsToken e.action)
    hstep (.start rfl) ?_ ?_
  · intro a token hget
    cases hget
  · intro e he
    obtain ⟨pre, op, post, rfl, rfl⟩ := Machine.mem_steps he
    exact hops op (List.mem_append_right _ List.mem_cons_self)

/-- Exactly when `pair` honours or refuses the token it is given: the call is
refused for its RWA, the agent has no recorded binding, the recorded token is the
given one, or both are non-empty.  After a run that only records non-empty tokens
no call with a non-empty token drops it. -/
theorem token_honoured_or_refused_iff {p : AgentRwaPairing} {t : String}
    (ht : p.agentToken = some t) (options : PairOptions) :
    (∀ s : PairingRegistry, s.HonoursOrRefuses p options t ↔
        ((∃ a, s.Linked a p.rwaAsset ∧ a ≠ p.agentAsset) ∧ options.replace ≠ some true) ∨
          s.boundTokens.get? p.agentAsset = none ∨
          s.boundTokens.get? p.agentAsset = some (some t) ∨
          t ≠ "" ∧ ∃ r, s.boundTokens.get? p.agentAsset = some (some r) ∧ r ≠ "") ∧
      (t ≠ "" → ∀ ops, (∀ op ∈ ops, op.BindsToken) →
        (registryMachine.run .empty ops).HonoursOrRefuses p options t) := by
  refine ⟨fun s => honoursOrRefuses_iff ht, ?_⟩
  intro hne ops hops
  refine (honoursOrRefuses_iff ht).mpr (.inr ?_)
  cases hb : (registryMachine.run .empty ops).boundTokens.get? p.agentAsset with
  | none => exact .inl hb
  | some token =>
      obtain ⟨r, rfl, hr⟩ := truthy_iff.mp (tokensBound_run hops _ _ hb)
      exact .inr (.inr ⟨hne, r, hb, hr⟩)

/-- The binding of the agent is recorded without a token. -/
def tokenlessRegistry : PairingRegistry :=
  registryMachine.run .empty [
    .pair { freshPairing "agent-a" "rwa-x" with agentTokenBound := true } {}]

/-- The pairing that is handed to `tokenlessRegistry`. -/
def tokenPairing : AgentRwaPairing :=
  { freshPairing "agent-a" "rwa-x" with agentToken := some "token-a" }

/-- The call succeeds, and returns a bound pairing without the token. -/
theorem token_dropped :
    registryMachine.Reachable tokenlessRegistry ∧ tokenPairing.agentToken = some "token-a" ∧
      ¬ tokenlessRegistry.HonoursOrRefuses tokenPairing {} "token-a" ∧
      (registryMachine.output tokenlessRegistry (.pair tokenPairing {})).toOption =
        some [{ freshPairing "agent-a" "rwa-x" with agentTokenBound := true }] := by
  refine ⟨(Machine.Reachable.start rfl).run _, rfl, ?_, by decide⟩
  rw [honoursOrRefuses_iff rfl]
  rintro (⟨⟨a, ⟨q, hq, rfl⟩, hne⟩, -⟩ | hfree | hsame | ⟨-, r, hr, -⟩)
  · cases hq
    exact hne rfl
  · exact absurd hfree (by decide)
  · exact absurd hsame (by decide)
  · have hnone : tokenlessRegistry.boundTokens.get? "agent-a" = some none := rfl
    cases hnone.symm.trans hr

/-- A bound agent that hands in its own token keeps it. -/
theorem token_honoured_returned :
    returnedRegistry.HonoursOrRefuses
      { freshPairing "agent-a" "rwa-z" with agentToken := some "token-a" } {} "token-a" :=
  ((token_honoured_or_refused_iff rfl _).1 returnedRegistry).mpr (.inr (.inr (.inl (by decide))))

end RwaAgents
