import RwaAgents.Agents.Identity

/-!
# Shaping a Genesis launch

`shapeCreateAndRegisterLaunch` of `agents/launch.ts`.  The one irreversible
choice is `agent.setToken`.  Leaving the option out asks for it.
-/

namespace RwaAgents

structure ShapeLaunchOptions (υ : Type) where
  wallet : Option String := none
  setToken : Option Bool := none
  launch : Option (OrderedMap String υ) := none
  network : Option String := none

/-- Do the options ask for the agent's canonical token to be set? -/
def ShapeLaunchOptions.asksSetToken {υ : Type} (options : ShapeLaunchOptions υ) : Bool :=
  options.setToken ≠ some false

def shapeCreateAndRegisterLaunch {υ : Type} (pairing : AgentRwaPairing)
    (token : GenesisTokenInput) (options : ShapeLaunchOptions υ := {}) :
    Except String (GenesisLaunchPayload υ) := do
  let setToken := options.asksSetToken
  if setToken && pairing.agentTokenBound then
    throw alreadyBound
  return {
    wallet := options.wallet.getD pairing.assetSigner
    agent := { mint := pairing.agentAsset, setToken }
    launchType := "bondingCurve"
    token
    launch := options.launch.getD .empty
    network := options.network }

theorem shapeCreateAndRegisterLaunch_of_bound {υ : Type} {p : AgentRwaPairing}
    (hp : p.agentTokenBound = true) (token : GenesisTokenInput) {options : ShapeLaunchOptions υ}
    (hasks : options.asksSetToken = true) :
    shapeCreateAndRegisterLaunch p token options = .error alreadyBound := by
  rw [shapeCreateAndRegisterLaunch]
  simp only [hasks, hp, Bool.and_self, if_true]
  rfl

/-- A payload names the agent and carries the choice of the options. -/
theorem shapeCreateAndRegisterLaunch_of_unbound {υ : Type} {p : AgentRwaPairing}
    (hp : p.agentTokenBound = false) (token : GenesisTokenInput)
    (options : ShapeLaunchOptions υ) :
    ∃ payload, shapeCreateAndRegisterLaunch p token options = .ok payload ∧
      payload.agent = { mint := p.agentAsset, setToken := options.asksSetToken } := by
  rw [shapeCreateAndRegisterLaunch]
  simp only [hp, Bool.and_false, Bool.false_eq_true, if_false]
  exact ⟨_, rfl, rfl⟩

/-- A payload that sets the token comes from an unflagged pairing. -/
theorem shapeCreateAndRegisterLaunch_ok {υ : Type} {p : AgentRwaPairing}
    {token : GenesisTokenInput} {options : ShapeLaunchOptions υ}
    {payload : GenesisLaunchPayload υ}
    (h : shapeCreateAndRegisterLaunch p token options = .ok payload) :
    payload.agent = { mint := p.agentAsset, setToken := options.asksSetToken } ∧
      (options.asksSetToken = true → p.agentTokenBound = false) := by
  cases hp : p.agentTokenBound with
  | true =>
      cases hasks : options.asksSetToken with
      | true =>
          rw [shapeCreateAndRegisterLaunch_of_bound hp token hasks] at h
          cases h
      | false =>
          rw [shapeCreateAndRegisterLaunch] at h
          simp only [hasks, hp, Bool.false_and, Bool.false_eq_true, if_false] at h
          cases h
          exact ⟨rfl, fun hf => (by cases hf)⟩
  | false =>
      obtain ⟨payload', hok, hagent⟩ := shapeCreateAndRegisterLaunch_of_unbound hp token options
      rw [hok] at h
      cases h
      exact ⟨hagent, fun _ => rfl⟩

end RwaAgents
