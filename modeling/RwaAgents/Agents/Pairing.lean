import RwaAgents.Library.Effect
import RwaAgents.Agents.Identity

/-!
# The pairing registry

`agents/pairing.ts`.  The registry is three maps: the pairing of an RWA, the
pairing of an agent, and the canonical token of every agent whose binding was
recorded.  A recorded token may be `undefined`, so the third map holds
`Option String` and `has` tells a recorded agent from an unknown one.

The methods mutate the registry and may throw after a write, so they are
`EStateM` computations: a throw keeps the state reached.
-/

namespace RwaAgents

structure PairingRegistry where
  byRwa : OrderedMap String AgentRwaPairing
  byAgent : OrderedMap String AgentRwaPairing
  boundTokens : OrderedMap String (Option String)
deriving DecidableEq

/-- A method of the registry. -/
abbrev RegistryM := EStateM String PairingRegistry

/-- Bind the canonical token on a pairing value. -/
def bindAgentToken (pairing : AgentRwaPairing) (mint : String) :
    Except String AgentRwaPairing := do
  if pairing.agentTokenBound then
    throw alreadyBound
  return { pairing with agentToken := some mint, agentTokenBound := true }

theorem bindAgentToken_ok {p q : AgentRwaPairing} {m : String} :
    bindAgentToken p m = .ok q ↔
      p.agentTokenBound = false ∧ q = { p with agentToken := some m, agentTokenBound := true } := by
  cases hp : p.agentTokenBound with
  | true => simp [bindAgentToken, hp, throw, throwThe, MonadExceptOf.throw, bind, Except.bind]
  | false => simp [bindAgentToken, hp, pure, Except.pure, eq_comm]

structure PairOptions where
  replace : Option Bool := none
deriving DecidableEq, Repr

namespace PairingRegistry

/-- A new registry. -/
def empty : PairingRegistry := ⟨.empty, .empty, .empty⟩

def getByRwa (registry : PairingRegistry) (rwaAsset : String) : Option AgentRwaPairing :=
  registry.byRwa.get? rwaAsset

def getByAgent (registry : PairingRegistry) (agentAsset : String) : Option AgentRwaPairing :=
  registry.byAgent.get? agentAsset

def list (registry : PairingRegistry) : List AgentRwaPairing := registry.byRwa.values

def setBoundToken (registry : PairingRegistry) (agentAsset : String) (token : Option String) :
    PairingRegistry :=
  { registry with boundTokens := registry.boundTokens.set agentAsset token }

def deleteAgent (registry : PairingRegistry) (agentAsset : String) : PairingRegistry :=
  { registry with byAgent := registry.byAgent.delete agentAsset }

def deleteRwa (registry : PairingRegistry) (rwaAsset : String) : PairingRegistry :=
  { registry with byRwa := registry.byRwa.delete rwaAsset }

def setPairing (registry : PairingRegistry) (pairing : AgentRwaPairing) : PairingRegistry :=
  { registry with
    byRwa := registry.byRwa.set pairing.rwaAsset pairing
    byAgent := registry.byAgent.set pairing.agentAsset pairing }

/-- An RWA another agent holds is only taken with `replace`. -/
def checkReplace (existing : Option AgentRwaPairing) (pairing : AgentRwaPairing)
    (replace : Bool) : RegistryM Unit :=
  match existing with
  | some existing =>
      EStateM.require (existing.agentAsset = pairing.agentAsset ∨ replace)
        s!"RWA asset {pairing.rwaAsset} is already paired with agent {existing.agentAsset}"
  | none => pure ()

/-- Re-pairing must never clear an agent's irreversible canonical-token
binding: a recorded one is written back over the pairing, and a new one is
recorded. -/
def restoreBinding (pairing : AgentRwaPairing) : RegistryM AgentRwaPairing := do
  let boundTokens := (← get).boundTokens
  if boundTokens.has pairing.agentAsset then
    let token := (boundTokens.get? pairing.agentAsset).join
    EStateM.require (¬ (truthy pairing.agentToken ∧ truthy token ∧ pairing.agentToken ≠ token))
      "setToken is irreversible; canonical token cannot be replaced"
    return { pairing with agentTokenBound := true, agentToken := token }
  else if pairing.agentTokenBound then
    modify (·.setBoundToken pairing.agentAsset pairing.agentToken)
    return pairing
  else
    return pairing

/-- The agent that held the RWA loses its pairing. -/
def dropExisting (existing : Option AgentRwaPairing) (pairing : AgentRwaPairing) :
    RegistryM Unit :=
  match existing with
  | some existing =>
      if existing.agentAsset ≠ pairing.agentAsset then modify (·.deleteAgent existing.agentAsset)
      else pure ()
  | none => pure ()

/-- The RWA the agent held before becomes free. -/
def dropPrior (prior : Option AgentRwaPairing) (pairing : AgentRwaPairing) : RegistryM Unit :=
  match prior with
  | some prior =>
      if prior.rwaAsset ≠ pairing.rwaAsset then modify (·.deleteRwa prior.rwaAsset) else pure ()
  | none => pure ()

def pair (pairing : AgentRwaPairing) (options : PairOptions := {}) :
    RegistryM AgentRwaPairing := do
  let replace := options.replace = some true
  let existing := (← get).byRwa.get? pairing.rwaAsset
  checkReplace existing pairing replace
  let pairing ← restoreBinding pairing
  dropExisting existing pairing
  let prior := (← get).byAgent.get? pairing.agentAsset
  dropPrior prior pairing
  modify (·.setPairing pairing)
  return pairing

/-- The method answers with its own `next`, not with what `pair` stored. -/
def bindAgentToken (agentAsset mint : String) : RegistryM AgentRwaPairing := do
  let current ← EStateM.orThrow ((← get).byAgent.get? agentAsset)
    s!"No pairing for agent {agentAsset}"
  let next ← MonadExcept.ofExcept (RwaAgents.bindAgentToken current mint)
  let _ ← pair next { replace := some true }
  return next

end PairingRegistry

structure PairAgentInput where
  agentAsset : AssetRef
  rwaAsset : AssetRef
  rwaAssetId : AssetRef
  rwaMint : Option AssetRef := none
  /-- Was a registry passed?  It is the one the computation runs on. -/
  registry : Bool := true
  replace : Option Bool := none

/-- The fresh pairing value `pairAgentWithRwa` assembles from its input. -/
def PairAgentInput.pairing (umi : Umi) (input : PairAgentInput) :
    Except String AgentRwaPairing := do
  let agentAsset ← asPublicKey umi input.agentAsset
  let identity ← deriveAgentIdentityPda umi (.key agentAsset)
  let signer ← deriveAssetSignerPda umi (.key agentAsset)
  let rwaAsset ← asPublicKey umi input.rwaAsset
  let rwaAssetId ← asPublicKey umi input.rwaAssetId
  let rwaMint ←
    if AssetRef.truthy input.rwaMint then input.rwaMint.mapM (asPublicKey umi) else pure none
  return {
    agentAsset
    agentIdentity := pdaAddress identity
    assetSigner := pdaAddress signer
    rwaAsset
    rwaAssetId
    rwaMint
    agentToken := none
    agentTokenBound := false }

def pairAgentWithRwa (umi : Umi) (input : PairAgentInput) : RegistryM AgentRwaPairing := do
  let pairing ← MonadExcept.ofExcept (input.pairing umi)
  if input.registry then
    PairingRegistry.pair pairing { replace := input.replace }
  else
    return pairing

end RwaAgents
