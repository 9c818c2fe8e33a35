import Mathlib.Data.List.Induction
import RwaAgents.Agents.RegistrySafety

/-!
# How often a launch may set the token of an agent

A *session* interleaves one registry with launches shaped from the pairing
values it handed out.  A launch takes any value issued so far, fresh or stale,
by its place in `issued`.

The guard of a launch reads the flag of the value it is given.  Shaping a launch
records nothing, so two launches from one unflagged value both ask for the
token to be set (`second_launch_succeeds`).  The guard works when the launches that
ask for a token again take values issued while the agent was recorded as bound, and
only then (`launch_once_iff`).
-/

namespace RwaAgents

open PairingRegistry

/-- A pairing value a session handed out, and whether the registry recorded its
agent as bound when it did. -/
structure Issued where
  pairing : AgentRwaPairing
  recorded : Bool
deriving DecidableEq

/-- A registry and the values it has handed out, oldest first. -/
structure Session where
  registry : PairingRegistry
  issued : List Issued

def Session.empty : Session := ⟨.empty, []⟩

inductive SessionOp (υ : Type)
  | pairAgentWithRwa (input : PairAgentInput)
  | registry (op : RegistryOp)
  | launch (source : Nat) (token : GenesisTokenInput) (options : ShapeLaunchOptions υ)

/-- What an operation of a session returns. -/
inductive SessionReply (υ : Type)
  | pairings (vs : List AgentRwaPairing)
  | payload (payload : GenesisLaunchPayload υ)

abbrev SessionAnswer (υ : Type) := Except String (SessionReply υ)

/-- Keep what a registry method answered. -/
def Session.issue {υ : Type} (session : Session) (r : PairingRegistry × RegistryAnswer) :
    Session × SessionAnswer υ :=
  match r.2 with
  | .ok vs =>
      ({ registry := r.1
         issued := session.issued ++ vs.map fun v => ⟨v, r.1.boundTokens.has v.agentAsset⟩ },
        .ok (.pairings vs))
  | .error e => ({ session with registry := r.1 }, .error e)

section

variable {υ : Type} (umi : Umi)

def sessionStep (session : Session) : SessionOp υ → Session × SessionAnswer υ
  | .pairAgentWithRwa input =>
      session.issue (answer ((RwaAgents.pairAgentWithRwa umi { input with registry := true }).run
        session.registry))
  | .registry op => session.issue (registryStep session.registry op)
  | .launch source token options =>
      match session.issued[source]? with
      | some value =>
          (session, (shapeCreateAndRegisterLaunch value.pairing token options).map .payload)
      | none => (session, .error "no such pairing")

/-- The runs of a session over an empty registry. -/
def sessionMachine : Machine Session (SessionOp υ) (SessionAnswer υ) :=
  ⟨(· = .empty), sessionStep umi⟩

abbrev SessionStep (υ : Type) := Machine.Step Session (SessionOp υ) (SessionAnswer υ)

/-- The payload of a step that sets the token of the agent. -/
def SessionStep.setsToken (a : String) (e : SessionStep υ) : Option (GenesisLaunchPayload υ) :=
  match e.output with
  | .ok (.payload p) => if p.agent.mint = a ∧ p.agent.setToken = true then some p else none
  | _ => none

/-- The pairing value of a step that asks for the token of its agent to be set. -/
def SessionStep.asksToken (e : SessionStep υ) : Option Issued :=
  match e.action with
  | .launch source _ options =>
      if options.asksSetToken then e.before.issued[source]? else none
  | _ => none

/-- The payloads of a run that set the token of the agent. -/
def tokenPayloads (a : String) (es : List (SessionStep υ)) : List (GenesisLaunchPayload υ) :=
  es.filterMap (SessionStep.setsToken a)

/-- At most one launch of the run sets the token of an agent, and every later
one that asks for it throws. -/
def LaunchesOnce (es : List (SessionStep υ)) : Prop :=
  (∀ a, (tokenPayloads a es).length ≤ 1) ∧
    ∀ pre e post, es = pre ++ e :: post → ∀ value, e.asksToken = some value →
      tokenPayloads value.pairing.agentAsset pre ≠ [] → ∃ text, e.output = .error text

/-- A launch of the run asks for the token of the agent with a value issued while the
agent was not recorded as bound. -/
def AskedUnrecorded (a : String) (es : List (SessionStep υ)) : Prop :=
  ∃ e ∈ es, ∃ value ∈ e.asksToken, value.pairing.agentAsset = a ∧ value.recorded = false

/-- Once a launch has asked for the token of an agent with an unrecorded value, the
launches that ask for it take values issued while the agent was recorded as bound. -/
def LaunchesFromRecorded (es : List (SessionStep υ)) : Prop :=
  ∀ pre e post, es = pre ++ e :: post → ∀ value, e.asksToken = some value →
    AskedUnrecorded value.pairing.agentAsset pre → value.recorded = true

end

/-! ## What a step of a session does -/

theorem AgentRwaPairing.AgreesWith.bound_eq_has {p : AgentRwaPairing}
    {tokens : OrderedMap String (Option String)} {a : String}
    (h : p.AgreesWith (tokens.get? a)) : p.agentTokenBound = tokens.has a := by
  rw [OrderedMap.has]
  cases hget : tokens.get? a with
  | none => rw [hget] at h; exact h
  | some token => rw [hget] at h; exact h.1

/-- The invariant of a session: the flag of every issued value says whether its
agent was recorded when it was issued. -/
structure Session.Valid (session : Session) : Prop where
  registry : session.registry.Valid
  bound_eq : ∀ value ∈ session.issued, value.pairing.agentTokenBound = value.recorded

/-- `pairAgentWithRwa` throws before it touches the registry, or pairs. -/
theorem pairAgentWithRwa_answer (umi : Umi) (input : PairAgentInput) (s : PairingRegistry) :
    (∃ e, answer ((pairAgentWithRwa umi { input with registry := true }).run s) = (s, .error e)) ∨
      ∃ op, answer ((pairAgentWithRwa umi { input with registry := true }).run s) =
        registryStep s op := by
  rw [pairAgentWithRwa, EStateM.run_bind, EStateM.run_ofExcept]
  cases PairAgentInput.pairing umi { input with registry := true } with
  | error e => exact .inl ⟨e, rfl⟩
  | ok p => exact .inr ⟨.pair p { replace := input.replace }, rfl⟩

namespace Session.Valid

variable {υ : Type} {umi : Umi} {session : Session} (h : session.Valid)

include h

theorem issue (op : RegistryOp) :
    (session.issue (registryStep session.registry op) : Session × SessionAnswer υ).1.Valid := by
  have hregistry := h.registry.step op
  rw [Session.issue]
  split
  · next vs hvs =>
    refine ⟨hregistry, fun value hvalue => ?_⟩
    rcases List.mem_append.mp hvalue with hold | hnew
    · exact h.bound_eq value hold
    · obtain ⟨v, hv, rfl⟩ := List.mem_map.mp hnew
      exact (h.registry.answer_agrees hvs v hv).bound_eq_has
  · exact ⟨hregistry, h.bound_eq⟩

theorem step (op : SessionOp υ) : (sessionStep umi session op).1.Valid := by
  cases op with
  | pairAgentWithRwa input =>
      rw [sessionStep]
      rcases pairAgentWithRwa_answer umi input session.registry with ⟨e, he⟩ | ⟨op, hop⟩
      · rw [he]
        exact ⟨h.registry, h.bound_eq⟩
      · rw [hop]
        exact h.issue op
  | registry op => exact h.issue op
  | launch source token options =>
      rw [sessionStep]
      split <;> exact h

end Session.Valid

section

variable {υ : Type} {umi : Umi} {session : Session} {op : SessionOp υ}

theorem SessionStep.asksToken_eq_some {value : Issued} :
    SessionStep.asksToken ((sessionMachine umi).stepAt session op) = some value ↔
      ∃ source token options, op = .launch source token options ∧
        options.asksSetToken = true ∧ session.issued[source]? = some value := by
  cases op with
  | launch source token options =>
      by_cases hasks : options.asksSetToken = true <;>
        simp [asksToken, Machine.stepAt, hasks]
  | _ => simp [asksToken, Machine.stepAt]

/-- A launch that asks for the token to be set throws on a flagged value, and on
no other. -/
theorem SessionStep.output_error_iff {value : Issued}
    (h : SessionStep.asksToken ((sessionMachine umi).stepAt session op) = some value) :
    (∃ text, ((sessionMachine umi).stepAt session op).output = .error text) ↔
      value.pairing.agentTokenBound = true := by
  obtain ⟨source, token, options, rfl, hasks, hvalue⟩ := asksToken_eq_some.mp h
  simp only [Machine.stepAt, Machine.output, sessionMachine, sessionStep, hvalue]
  cases hbound : value.pairing.agentTokenBound with
  | true =>
      rw [shapeCreateAndRegisterLaunch_of_bound hbound token hasks]
      exact ⟨fun _ => rfl, fun _ => ⟨_, rfl⟩⟩
  | false =>
      obtain ⟨payload, hok, -⟩ := shapeCreateAndRegisterLaunch_of_unbound hbound token options
      rw [hok]
      exact ⟨fun ⟨_, he⟩ => (by cases he), fun hf => (by cases hf)⟩

/-- A call on the registry answers with no payload. -/
theorem Session.issue_ne_payload (r : PairingRegistry × RegistryAnswer)
    (payload : GenesisLaunchPayload υ) : (session.issue r).2 ≠ .ok (.payload payload) := by
  rw [Session.issue]
  split <;> simp

/-- The steps that set the token of an agent are the launches that ask for it
with an unflagged value of the agent. -/
theorem SessionStep.setsToken_isSome {a : String} :
    (SessionStep.setsToken a ((sessionMachine umi).stepAt session op)).isSome ↔
      ∃ value, SessionStep.asksToken ((sessionMachine umi).stepAt session op) = some value ∧
        value.pairing.agentAsset = a ∧ value.pairing.agentTokenBound = false := by
  constructor
  · intro hsets
    obtain ⟨payload, hout, hmint, htoken⟩ : ∃ payload,
        ((sessionMachine umi).stepAt session op).output = .ok (.payload payload) ∧
          payload.agent.mint = a ∧ payload.agent.setToken = true := by
      rw [setsToken] at hsets
      split at hsets
      · next p hp =>
        by_cases hc : p.agent.mint = a ∧ p.agent.setToken = true
        · exact ⟨p, hp, hc⟩
        · rw [if_neg hc] at hsets; cases hsets
      · cases hsets
    cases op with
    | pairAgentWithRwa input => exact absurd hout (session.issue_ne_payload _ payload)
    | registry op => exact absurd hout (session.issue_ne_payload _ payload)
    | launch source token options =>
        simp only [Machine.stepAt, Machine.output, sessionMachine, sessionStep] at hout
        cases hvalue : session.issued[source]? with
        | none => rw [hvalue] at hout; cases hout
        | some value =>
            simp only [hvalue] at hout
            cases hshape : shapeCreateAndRegisterLaunch value.pairing token options with
            | error e => rw [hshape] at hout; cases hout
            | ok p =>
                rw [hshape] at hout
                cases hout
                obtain ⟨hagent, hunbound⟩ := shapeCreateAndRegisterLaunch_ok hshape
                rw [hagent] at hmint htoken
                exact ⟨value, asksToken_eq_some.mpr ⟨_, _, _, rfl, htoken, hvalue⟩, hmint,
                  hunbound htoken⟩
  · rintro ⟨value, hasks, rfl, hbound⟩
    obtain ⟨source, token, options, rfl, hasks, hvalue⟩ := asksToken_eq_some.mp hasks
    obtain ⟨payload, hok, hagent⟩ :=
      shapeCreateAndRegisterLaunch_of_unbound hbound token options
    simp only [setsToken, Machine.stepAt, Machine.output, sessionMachine, sessionStep, hvalue, hok,
      Except.map, hagent, hasks, and_self, if_true, Option.isSome_some]

end

/-! ## Launching once -/

/-- The states before the steps of a run are valid. -/
theorem Session.valid_of_mem_steps {υ : Type} {umi : Umi} {ops : List (SessionOp υ)}
    {e : SessionStep υ} (he : e ∈ (sessionMachine umi).steps .empty ops) :
    e.before.Valid ∧ e = (sessionMachine umi).stepAt e.before e.action := by
  obtain ⟨hreach, heq⟩ := (Machine.Reachable.start rfl).mem_steps he
  refine ⟨hreach.invariant (fun s hs => ?_) (fun s op h => h.step op), heq⟩
  cases hs
  exact ⟨PairingRegistry.valid_empty, fun value hvalue => (by cases hvalue)⟩

section

variable {υ : Type} {umi : Umi} {ops : List (SessionOp υ)} {e : SessionStep υ}

/-- A launch that asks for the token to be set throws on a value issued while its agent
was recorded, and on no other. -/
theorem SessionStep.throws_iff (he : e ∈ (sessionMachine umi).steps .empty ops)
    {value : Issued} (hasks : e.asksToken = some value) :
    (∃ text, e.output = .error text) ↔ value.recorded = true := by
  obtain ⟨hvalid, heq⟩ := Session.valid_of_mem_steps he
  rw [heq] at hasks ⊢
  obtain ⟨source, token, options, -, -, hvalue⟩ := SessionStep.asksToken_eq_some.mp hasks
  rw [SessionStep.output_error_iff hasks, hvalid.bound_eq value (List.mem_of_getElem? hvalue)]

/-- What sets the token of an agent, in terms of what is asked for. -/
theorem SessionStep.setsToken_iff (he : e ∈ (sessionMachine umi).steps .empty ops) {a : String} :
    (e.setsToken a).isSome ↔
      ∃ value ∈ e.asksToken, value.pairing.agentAsset = a ∧ value.recorded = false := by
  obtain ⟨hvalid, heq⟩ := Session.valid_of_mem_steps he
  have hbound : ∀ value, e.asksToken = some value →
      value.pairing.agentTokenBound = value.recorded := by
    intro value hasks
    rw [heq] at hasks
    obtain ⟨source, token, options, -, -, hvalue⟩ := SessionStep.asksToken_eq_some.mp hasks
    exact hvalid.bound_eq value (List.mem_of_getElem? hvalue)
  have hsets : (e.setsToken a).isSome ↔ ∃ value, e.asksToken = some value ∧
      value.pairing.agentAsset = a ∧ value.pairing.agentTokenBound = false := by
    rw [heq]
    exact SessionStep.setsToken_isSome
  rw [hsets]
  constructor
  · rintro ⟨value, hasks, hagent, hflag⟩
    exact ⟨value, hasks, hagent, hbound value hasks ▸ hflag⟩
  · rintro ⟨value, hasks, hagent, hrecorded⟩
    exact ⟨value, hasks, hagent, (hbound value hasks).trans hrecorded⟩

/-- The token of an agent has been set if it was asked for with an unrecorded value. -/
theorem tokenPayloads_ne_nil {es : List (SessionStep υ)}
    (hes : ∀ e ∈ es, e ∈ (sessionMachine umi).steps .empty ops) {a : String} :
    tokenPayloads a es ≠ [] ↔ AskedUnrecorded a es := by
  rw [tokenPayloads, Ne, List.filterMap_eq_nil_iff, AskedUnrecorded]
  push Not
  constructor
  · rintro ⟨e, he, hsets⟩
    exact ⟨e, he, (SessionStep.setsToken_iff (hes e he)).mp (Option.isSome_iff_ne_none.mpr hsets)⟩
  · rintro ⟨e, he, hasked⟩
    exact ⟨e, he, Option.isSome_iff_ne_none.mp ((SessionStep.setsToken_iff (hes e he)).mpr hasked)⟩

/-- A selection that never selects twice has at most one element. -/
theorem length_filterMap_le_one {α β : Type*} (f : α → Option β) (l : List α)
    (h : ∀ pre e post, l = pre ++ e :: post → (f e).isSome → pre.filterMap f = []) :
    (l.filterMap f).length ≤ 1 := by
  induction l using List.reverseRecOn with
  | nil => exact Nat.zero_le 1
  | append_singleton l e ih =>
      rw [List.filterMap_append]
      cases he : f e with
      | none =>
          have hl := ih fun pre x post hpre hx =>
            h pre x (post ++ [e]) (by rw [hpre, List.append_assoc, List.cons_append]) hx
          simpa [he] using hl
      | some b =>
          rw [h l e [] rfl (by rw [he]; rfl)]
          simp [he]

/-- If later launches keep to recorded values, an agent has one launch that sets its
token. -/
theorem tokenPayloads_length_le_one
    (h : LaunchesFromRecorded ((sessionMachine umi).steps .empty ops)) (a : String) :
    (tokenPayloads a ((sessionMachine umi).steps .empty ops)).length ≤ 1 := by
  refine length_filterMap_le_one _ _ fun pre e post hsteps hsets => ?_
  have hmem : ∀ e' ∈ pre ++ e :: post, e' ∈ (sessionMachine umi).steps .empty ops :=
    fun e' he' => hsteps ▸ he'
  obtain ⟨value, hasks, rfl, hrecorded⟩ :=
    (SessionStep.setsToken_iff (hmem e (by simp))).mp hsets
  by_contra hpre
  -- The value was issued before its agent was recorded, so no launch may precede it.
  have hasked := (tokenPayloads_ne_nil fun e' he' => hmem e' (List.mem_append_left _ he')).mp hpre
  rw [h pre e post hsteps value hasks hasked] at hrecorded
  cases hrecorded

end

/-- In every run of a session, at most one launch sets the token of an agent and
every later one that asks for it throws, if and only if the later ones take
values issued while the agent was recorded as bound. -/
theorem launch_once_iff {υ : Type} (umi : Umi) (ops : List (SessionOp υ)) :
    LaunchesOnce ((sessionMachine umi).steps .empty ops) ↔
      LaunchesFromRecorded ((sessionMachine umi).steps .empty ops) := by
  have hasked : ∀ pre (e : SessionStep υ) post,
      (sessionMachine umi).steps .empty ops = pre ++ e :: post → ∀ a,
        (tokenPayloads a pre ≠ [] ↔ AskedUnrecorded a pre) :=
    fun pre e post hes a => tokenPayloads_ne_nil fun e' he' => hes ▸ List.mem_append_left _ he'
  have hthrows : ∀ pre (e : SessionStep υ) post,
      (sessionMachine umi).steps .empty ops = pre ++ e :: post → ∀ value,
        e.asksToken = some value → ((∃ text, e.output = .error text) ↔ value.recorded = true) :=
    fun pre e post hes value hasks =>
      SessionStep.throws_iff (hes ▸ List.mem_append_right pre List.mem_cons_self) hasks
  constructor
  · intro honce pre e post hes value hasks hpre
    exact (hthrows pre e post hes value hasks).mp
      (honce.2 pre e post hes value hasks ((hasked pre e post hes _).mpr hpre))
  · intro hfrom
    refine ⟨tokenPayloads_length_le_one hfrom, fun pre e post hes value hasks hpre => ?_⟩
    exact (hthrows pre e post hes value hasks).mpr
      (hfrom pre e post hes value hasks ((hasked pre e post hes _).mp hpre))

/-- An SDK that takes every string for an address. -/
def sampleUmi : Umi where
  publicKey := .ok
  publicKey_eq := publicKey_eq_of_ok
  findAgentIdentityV1Pda asset := ⟨"identity-of-" ++ asset, 255⟩
  findAssetSignerPda asset := ⟨"signer-of-" ++ asset, 254⟩

def sampleToken : GenesisTokenInput where
  name := "RWA Agent Token"
  symbol := "RWAA"
  image := "https://gateway.irys.xyz/rwa-agent-token"

/-- One pairing and two launches shaped from the value it returned. -/
def launchTwice : List (SessionOp Unit) := [
  .pairAgentWithRwa {
    agentAsset := .key "agent-a", rwaAsset := .key "rwa-x", rwaAssetId := .key "id-x" },
  .launch 0 sampleToken {},
  .launch 0 sampleToken {}]

theorem second_launch_succeeds :
    (tokenPayloads "agent-a" ((sessionMachine sampleUmi).steps .empty launchTwice)).length =
        2 ∧
      ¬ LaunchesOnce ((sessionMachine sampleUmi).steps .empty launchTwice) := by
  have htwo : (tokenPayloads "agent-a"
      ((sessionMachine sampleUmi).steps .empty launchTwice)).length = 2 := by decide
  refine ⟨htwo, fun honce => ?_⟩
  have hone := honce.1 "agent-a"
  rw [htwo] at hone
  omega

end RwaAgents
