import Mathlib.Logic.Relator
import RwaAgents.Library.Machine
import RwaAgents.Agents.PairSpec

/-!
# The registry as a machine, and its invariant

A run is any list of operations from the empty registry.  An operation that
throws is a step too.

`PairingRegistry.Valid` is the invariant of a run.  It has two parts.  *Paired*
says the two pairing maps hold the same pairings, each under its own agent and
its own RWA.  *Agreeing* says the flags of every stored pairing are those the
binding map records for its agent.

Under the invariant every operation throws, stores one stamped pairing or reads
(`Valid.step_cases`).  `bindAgentToken` stores one too: its nested `pair` cannot
throw, because an agent whose stored pairing is unflagged is not recorded as
bound.
-/

/-- Pair `a` with `b` and drop every other pair that mentions either. -/
def Matching.relink {α β : Type*} (R : α → β → Prop) (a : α) (b : β) (x : α) (y : β) : Prop :=
  (R x y ∧ x ≠ a ∧ y ≠ b) ∨ (x = a ∧ y = b)

namespace RwaAgents

open PairingRegistry

/-- An operation on one registry. -/
inductive RegistryOp
  | pair (pairing : AgentRwaPairing) (options : PairOptions)
  | bindAgentToken (agentAsset mint : String)
  | getByRwa (rwaAsset : String)
  | getByAgent (agentAsset : String)
  | list

/-- The pairing values an operation answers with, or what it throws. -/
abbrev RegistryAnswer := Except String (List AgentRwaPairing)

def answer : EStateM.Result String PairingRegistry AgentRwaPairing →
    PairingRegistry × RegistryAnswer
  | .ok p s => (s, .ok [p])
  | .error e s => (s, .error e)

def registryStep (s : PairingRegistry) : RegistryOp → PairingRegistry × RegistryAnswer
  | .pair p options => answer ((PairingRegistry.pair p options).run s)
  | .bindAgentToken a m => answer ((PairingRegistry.bindAgentToken a m).run s)
  | .getByRwa r => (s, .ok (s.getByRwa r).toList)
  | .getByAgent a => (s, .ok (s.getByAgent a).toList)
  | .list => (s, .ok s.list)

/-- The runs of one registry. -/
def registryMachine : Machine PairingRegistry RegistryOp RegistryAnswer :=
  ⟨(· = .empty), registryStep⟩

/-! ## The invariant -/

/-- The flags of a pairing are those recorded for its agent. -/
def AgentRwaPairing.AgreesWith (p : AgentRwaPairing) : Option (Option String) → Prop
  | some token => p.agentTokenBound = true ∧ p.agentToken = token
  | none => p.agentTokenBound = false

namespace PairingRegistry

/-- The agent holds the RWA. -/
def Linked (s : PairingRegistry) (a r : String) : Prop :=
  ∃ p, s.byRwa.get? r = some p ∧ p.agentAsset = a

/-- The two pairing maps hold the same pairings, each under its own keys. -/
structure Paired (s : PairingRegistry) : Prop where
  rwa : ∀ {r p}, s.byRwa.get? r = some p →
    p.rwaAsset = r ∧ s.byAgent.get? p.agentAsset = some p
  agent : ∀ {a p}, s.byAgent.get? a = some p →
    p.agentAsset = a ∧ s.byRwa.get? p.rwaAsset = some p

/-- The invariant of the registry. -/
structure Valid (s : PairingRegistry) : Prop extends Paired s where
  agrees : ∀ {a p}, s.byAgent.get? a = some p → p.AgreesWith (s.boundTokens.get? a)

/-- Recording a binding links nothing. -/
theorem linked_record (s : PairingRegistry) (p : AgentRwaPairing) :
    (s.record p).Linked = s.Linked := by
  unfold Linked
  rw [record_byRwa]

theorem valid_empty : Valid .empty where
  rwa h := by cases h
  agent h := by cases h
  agrees h := by cases h

/-! ## Linking -/

theorem displace_byAgent_self (s : PairingRegistry) (p : AgentRwaPairing) :
    (s.displace p).byAgent.get? p.agentAsset = s.byAgent.get? p.agentAsset := by
  rw [displace]
  split
  · split
    · next hne => rw [deleteAgent, OrderedMap.get?_delete, if_neg (Ne.symm hne)]
    · rfl
  · rfl

theorem link_byAgent (s : PairingRegistry) (p : AgentRwaPairing) :
    (s.link p).byAgent = (s.displace p).byAgent.set p.agentAsset p := by
  rw [link, setPairing, vacate_byAgent]

theorem link_byRwa (s : PairingRegistry) (p : AgentRwaPairing) :
    (s.link p).byRwa = (s.vacate p).byRwa.set p.rwaAsset p := by
  have hvacate : ((s.displace p).vacate p).byRwa = (s.vacate p).byRwa := by
    unfold vacate
    rw [displace_byAgent_self]
    split
    · split
      · rw [deleteRwa, deleteRwa, displace_byRwa]
      · exact displace_byRwa s p
    · exact displace_byRwa s p
  rw [link, setPairing, hvacate]

theorem vacate_byRwa_eq (s : PairingRegistry) (p : AgentRwaPairing) :
    (s.vacate p).byRwa = s.byRwa.dropOther AgentRwaPairing.rwaAsset p.rwaAsset
      (s.byAgent.get? p.agentAsset) := by
  rw [vacate]
  cases s.byAgent.get? p.agentAsset with
  | none => rfl
  | some q => exact apply_ite byRwa _ _ _

theorem displace_byAgent_eq (s : PairingRegistry) (p : AgentRwaPairing) :
    (s.displace p).byAgent = s.byAgent.dropOther AgentRwaPairing.agentAsset p.agentAsset
      (s.byRwa.get? p.rwaAsset) := by
  rw [displace]
  cases s.byRwa.get? p.rwaAsset with
  | none => rfl
  | some q => exact apply_ite byAgent _ _ _

namespace Paired

variable {s : PairingRegistry} (h : s.Paired)

include h

/-- Away from its own RWA, linking drops exactly the pairing of the agent. -/
theorem vacate_byRwa {p q : AgentRwaPairing} {r : String} (hr : r ≠ p.rwaAsset) :
    (s.vacate p).byRwa.get? r = some q ↔
      s.byRwa.get? r = some q ∧ q.agentAsset ≠ p.agentAsset := by
  rw [vacate_byRwa_eq]
  refine OrderedMap.get?_dropOther (fun hq => (h.rwa hq).1) (fun w => ?_) hr
  constructor
  · intro hw
    exact ⟨(h.agent hw).2, (h.agent hw).1⟩
  · intro ⟨hw, hagent⟩
    rw [← hagent]
    exact (h.rwa hw).2

/-- Away from its own agent, linking drops exactly the pairing of the RWA. -/
theorem displace_byAgent {p q : AgentRwaPairing} {a : String} (ha : a ≠ p.agentAsset) :
    (s.displace p).byAgent.get? a = some q ↔
      s.byAgent.get? a = some q ∧ q.rwaAsset ≠ p.rwaAsset := by
  rw [displace_byAgent_eq]
  refine OrderedMap.get?_dropOther (fun hq => (h.agent hq).1) (fun w => ?_) ha
  constructor
  · intro hw
    exact ⟨(h.rwa hw).2, (h.rwa hw).1⟩
  · intro ⟨hw, hrwa⟩
    rw [← hrwa]
    exact (h.agent hw).2

/-- The pairings after linking, by RWA. -/
theorem get?_link_byRwa (p : AgentRwaPairing) {q : AgentRwaPairing} {r : String} :
    (s.link p).byRwa.get? r = some q ↔
      (r = p.rwaAsset ∧ q = p) ∨
        (r ≠ p.rwaAsset ∧ s.byRwa.get? r = some q ∧ q.agentAsset ≠ p.agentAsset) := by
  rw [link_byRwa, OrderedMap.get?_set]
  by_cases hr : r = p.rwaAsset
  · simp [hr, eq_comm]
  · rw [if_neg hr, h.vacate_byRwa hr]
    simp [hr]

/-- The pairings after linking, by agent. -/
theorem get?_link_byAgent (p : AgentRwaPairing) {q : AgentRwaPairing} {a : String} :
    (s.link p).byAgent.get? a = some q ↔
      (a = p.agentAsset ∧ q = p) ∨
        (a ≠ p.agentAsset ∧ s.byAgent.get? a = some q ∧ q.rwaAsset ≠ p.rwaAsset) := by
  rw [link_byAgent, OrderedMap.get?_set]
  by_cases ha : a = p.agentAsset
  · simp [ha, eq_comm]
  · rw [if_neg ha, h.displace_byAgent ha]
    simp [ha]

theorem link (p : AgentRwaPairing) : (s.link p).Paired where
  rwa := by
    intro r q hq
    rcases (h.get?_link_byRwa p).mp hq with ⟨rfl, rfl⟩ | ⟨hr, hq, ha⟩
    · exact ⟨rfl, (h.get?_link_byAgent _).mpr (.inl ⟨rfl, rfl⟩)⟩
    · obtain ⟨rfl, hq'⟩ := h.rwa hq
      exact ⟨rfl, (h.get?_link_byAgent _).mpr (.inr ⟨ha, hq', hr⟩)⟩
  agent := by
    intro a q hq
    rcases (h.get?_link_byAgent p).mp hq with ⟨rfl, rfl⟩ | ⟨ha, hq, hr⟩
    · exact ⟨rfl, (h.get?_link_byRwa _).mpr (.inl ⟨rfl, rfl⟩)⟩
    · obtain ⟨rfl, hq'⟩ := h.agent hq
      exact ⟨rfl, (h.get?_link_byRwa _).mpr (.inr ⟨hr, hq', ha⟩)⟩

/-- Linking a pairing relinks its two ends. -/
theorem linked_link (p : AgentRwaPairing) (a r : String) :
    (s.link p).Linked a r ↔ Matching.relink s.Linked p.agentAsset p.rwaAsset a r := by
  constructor
  · rintro ⟨q, hq, rfl⟩
    rcases (h.get?_link_byRwa p).mp hq with ⟨rfl, rfl⟩ | ⟨hr, hq, ha⟩
    · exact .inr ⟨rfl, rfl⟩
    · exact .inl ⟨⟨q, hq, rfl⟩, ha, hr⟩
  · rintro (⟨⟨q, hq, rfl⟩, ha, hr⟩ | ⟨rfl, rfl⟩)
    · exact ⟨q, (h.get?_link_byRwa p).mpr (.inr ⟨hr, hq, ha⟩), rfl⟩
    · exact ⟨p, (h.get?_link_byRwa p).mpr (.inl ⟨rfl, rfl⟩), rfl⟩

/-- Each agent holds at most one RWA and each RWA is held by at most one agent. -/
theorem linked_biUnique : Relator.BiUnique s.Linked := by
  constructor
  · rintro a b r ⟨p, hp, rfl⟩ ⟨q, hq, rfl⟩
    rw [Option.some.inj (hp.symm.trans hq)]
  · rintro a r t ⟨p, hp, rfl⟩ ⟨q, hq, he⟩
    have hp' := (h.rwa hp).2
    rw [← he, (h.rwa hq).2] at hp'
    rw [← (h.rwa hp).1, ← (h.rwa hq).1, Option.some.inj hp']

theorem record (p : AgentRwaPairing) : (s.record p).Paired where
  rwa := by rw [record_byRwa, record_byAgent]; exact h.rwa
  agent := by rw [record_byRwa, record_byAgent]; exact h.agent

/-- Storing a stamped pairing relinks its two ends. -/
theorem linked_store (p : AgentRwaPairing) (a r : String) :
    ((s.record p).link (s.stamp p)).Linked a r ↔
      Matching.relink s.Linked p.agentAsset p.rwaAsset a r := by
  rw [(h.record p).linked_link, stamp_agentAsset, stamp_rwaAsset, linked_record]

end Paired

/-! ## Stamping -/

theorem stamp_agrees (s : PairingRegistry) (p : AgentRwaPairing) :
    (s.stamp p).AgreesWith ((s.record p).boundTokens.get? p.agentAsset) := by
  rw [stamp, record]
  cases hb : s.boundTokens.get? p.agentAsset with
  | some token => rw [hb]; exact ⟨rfl, rfl⟩
  | none =>
      by_cases hp : p.agentTokenBound = true
      · simp [hp, setBoundToken, AgentRwaPairing.AgreesWith]
      · simp [hp, hb, AgentRwaPairing.AgreesWith]

theorem record_boundTokens_of_ne (s : PairingRegistry) {p : AgentRwaPairing} {a : String}
    (ha : a ≠ p.agentAsset) : (s.record p).boundTokens.get? a = s.boundTokens.get? a := by
  rw [record]
  split
  · rfl
  · split
    · exact OrderedMap.get?_set_of_ne _ _ ha
    · rfl

/-- A recorded token is never written over. -/
theorem record_boundTokens_of_some {s : PairingRegistry} {a : String} {token : Option String}
    (h : s.boundTokens.get? a = some token) (p : AgentRwaPairing) :
    (s.record p).boundTokens.get? a = some token := by
  by_cases ha : a = p.agentAsset
  · rw [record]
    rw [← ha, h]
    exact h
  · rw [record_boundTokens_of_ne s ha, h]

/-- Recording the binding of a flagged pairing makes its agent a recorded one. -/
theorem record_boundTokens_self (s : PairingRegistry) {p : AgentRwaPairing}
    (hp : p.agentTokenBound = true) :
    (s.record p).boundTokens.get? p.agentAsset =
      some ((s.boundTokens.get? p.agentAsset).getD p.agentToken) := by
  rw [record]
  cases hb : s.boundTokens.get? p.agentAsset with
  | some token => rw [Option.getD_some, hb]
  | none => rw [if_pos hp, setBoundToken, OrderedMap.get?_set_self, Option.getD_none]

namespace Valid

variable {s : PairingRegistry} (h : s.Valid)

include h

/-- Storing a stamped pairing keeps the invariant. -/
theorem link_record (p : AgentRwaPairing) : ((s.record p).link (s.stamp p)).Valid where
  toPaired := (h.toPaired.record p).link _
  agrees := by
    intro a q hq
    rw [link_boundTokens]
    rcases ((h.toPaired.record p).get?_link_byAgent _).mp hq with ⟨rfl, rfl⟩ | ⟨ha, hq, -⟩
    · rw [stamp_agentAsset]
      exact stamp_agrees s p
    · rw [stamp_agentAsset] at ha
      rw [record_byAgent] at hq
      rw [record_boundTokens_of_ne s ha]
      exact h.agrees hq

/-- An unflagged stored pairing has an agent without a recorded binding. -/
theorem get?_boundTokens_of_unbound {a : String} {current : AgentRwaPairing}
    (hcurrent : s.byAgent.get? a = some current) (hbound : current.agentTokenBound = false) :
    s.boundTokens.get? a = none := by
  have hagrees := h.agrees hcurrent
  cases hb : s.boundTokens.get? a with
  | none => rfl
  | some token =>
      rw [hb] at hagrees
      exact absurd (hagrees.1.symm.trans hbound) (by decide)

/-- Under the invariant the nested `pair` of `bindAgentToken` cannot throw and
stores the value the method returns. -/
theorem bindAgentToken_run (a m : String) :
    (bindAgentToken a m).run s =
      match s.byAgent.get? a with
      | none => .error s!"No pairing for agent {a}" s
      | some current =>
          match RwaAgents.bindAgentToken current m with
          | .error e => .error e s
          | .ok next => .ok (s.stamp next) ((s.record next).link (s.stamp next)) := by
  rw [PairingRegistry.bindAgentToken_run]
  cases hcurrent : s.byAgent.get? a with
  | none => rfl
  | some current =>
      cases hnext : RwaAgents.bindAgentToken current m with
      | error e => simp only [hnext]
      | ok next =>
          obtain ⟨hbound, rfl⟩ := bindAgentToken_ok.mp hnext
          have hfree := h.get?_boundTokens_of_unbound hcurrent hbound
          rw [← (h.agent hcurrent).1] at hfree
          simp only [hnext, refusal_replace, tokenRefusal, stamp, hfree]

/-- `bindAgentToken` succeeds on the unflagged pairing of an agent, and stores
and returns that pairing with the token on it. -/
theorem bindAgentToken_ok {a m : String} {q : AgentRwaPairing} {s' : PairingRegistry} :
    (bindAgentToken a m).run s = .ok q s' ↔
      ∃ current, s.byAgent.get? a = some current ∧ current.agentTokenBound = false ∧
        q = { current with agentToken := some m, agentTokenBound := true } ∧
        s' = (s.record q).link q := by
  rw [h.bindAgentToken_run]
  cases hcurrent : s.byAgent.get? a with
  | none => simp
  | some current =>
      cases hnext : RwaAgents.bindAgentToken current m with
      | error e =>
          have hne : ¬ current.agentTokenBound = false := fun hbound => by
            rw [RwaAgents.bindAgentToken_ok.mpr ⟨hbound, rfl⟩] at hnext
            cases hnext
          simp [hnext, hne]
      | ok next =>
          obtain ⟨hbound, rfl⟩ := RwaAgents.bindAgentToken_ok.mp hnext
          have hfree := h.get?_boundTokens_of_unbound hcurrent hbound
          rw [← (h.agent hcurrent).1] at hfree
          have hstamp : s.stamp { current with agentToken := some m, agentTokenBound := true } =
              { current with agentToken := some m, agentTokenBound := true } := by
            simp only [stamp, hfree]
          simp only [hnext, hstamp, EStateM.Result.ok.injEq]
          constructor
          · rintro ⟨rfl, rfl⟩
            exact ⟨current, rfl, hbound, rfl, rfl⟩
          · rintro ⟨_, hc, -, rfl, rfl⟩
            cases hc
            exact ⟨rfl, rfl⟩

/-- A step throws, or stores one stamped pairing and answers with it, or reads
stored pairings.  Only the second changes the registry. -/
theorem step_cases (op : RegistryOp) :
    (∃ e, registryStep s op = (s, .error e)) ∨
      (∃ p, registryStep s op = ((s.record p).link (s.stamp p), .ok [s.stamp p])) ∨
      ∃ vs, registryStep s op = (s, .ok vs) ∧
        ∀ v ∈ vs, s.byAgent.get? v.agentAsset = some v := by
  cases op with
  | pair p options =>
      simp only [registryStep, pair_run]
      cases s.refusal p options with
      | some e => exact .inl ⟨e, rfl⟩
      | none => exact .inr (.inl ⟨p, rfl⟩)
  | bindAgentToken a m =>
      simp only [registryStep, h.bindAgentToken_run]
      cases s.byAgent.get? a with
      | none => exact .inl ⟨_, rfl⟩
      | some current =>
          cases hnext : RwaAgents.bindAgentToken current m with
          | error e => exact .inl ⟨e, by simp only [hnext, answer]⟩
          | ok next => exact .inr (.inl ⟨next, by simp only [hnext, answer]⟩)
  | getByRwa r =>
      refine .inr (.inr ⟨_, rfl, fun v hv => ?_⟩)
      exact (h.rwa (Option.mem_toList.mp hv)).2
  | getByAgent a =>
      refine .inr (.inr ⟨_, rfl, fun v hv => ?_⟩)
      have hget := Option.mem_toList.mp hv
      rw [(h.agent hget).1]
      exact hget
  | list =>
      refine .inr (.inr ⟨_, rfl, fun v hv => ?_⟩)
      obtain ⟨r, hget⟩ := OrderedMap.mem_values.mp hv
      exact (h.rwa hget).2

theorem step (op : RegistryOp) : (registryStep s op).1.Valid := by
  rcases h.step_cases op with ⟨e, he⟩ | ⟨p, he⟩ | ⟨vs, he, -⟩
  · rw [he]; exact h
  · rw [he]; exact h.link_record p
  · rw [he]; exact h

/-- Every pairing value a step answers with carries the flags the registry
records for its agent after the step. -/
theorem answer_agrees {op : RegistryOp} {vs : List AgentRwaPairing}
    (hvs : (registryStep s op).2 = .ok vs) :
    ∀ v ∈ vs, v.AgreesWith ((registryStep s op).1.boundTokens.get? v.agentAsset) := by
  intro v hv
  rcases h.step_cases op with ⟨e, he⟩ | ⟨p, he⟩ | ⟨ws, he, hws⟩
  · rw [he] at hvs
    cases hvs
  · rw [he] at hvs ⊢
    cases hvs
    rw [List.mem_singleton.mp hv, link_boundTokens, stamp_agentAsset]
    exact stamp_agrees s p
  · rw [he] at hvs ⊢
    cases hvs
    exact h.agrees (hws v hv)

/-- A step never writes over a recorded token. -/
theorem step_boundTokens {a : String} {token : Option String}
    (hbound : s.boundTokens.get? a = some token) (op : RegistryOp) :
    (registryStep s op).1.boundTokens.get? a = some token := by
  rcases h.step_cases op with ⟨e, he⟩ | ⟨p, he⟩ | ⟨vs, he, -⟩
  · rw [he]; exact hbound
  · rw [he, link_boundTokens]
    exact record_boundTokens_of_some hbound p
  · rw [he]; exact hbound

end Valid

theorem valid_of_reachable {s : PairingRegistry} (hs : registryMachine.Reachable s) : s.Valid :=
  hs.invariant (fun s hs => by cases hs; exact valid_empty) fun _ op h => h.step op

end PairingRegistry

end RwaAgents
