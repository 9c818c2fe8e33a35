import RwaAgents.Library.Effect
import RwaAgents.Agents.Identity

/-!
# The catalog and the agent registry

The catalog of `agents/catalog.ts`, and the builders of `agents/identity.ts` for the
agent registry.  An agent is registered, and executives are allowed to act for it.  Each
permission is a delegate record on the chain.

`buildDelegateExecution` names the agent and the profile of the executive, and leaves the
address of the record to the SDK.  `buildRevokeExecution` derives that address itself.
The address is the same, the one of the pair (`buildDelegateExecution_ok`,
`buildRevokeExecution_ok`).
-/

namespace RwaAgents

/-! ## The catalog -/

/-- The agents of `AGENT_IDS`. -/
inductive AgentId
  | rwaTrader
deriving DecidableEq, Repr

def AgentId.text : AgentId → String
  | rwaTrader => "rwa-trader"

structure AgentService where
  name : String
  endpoint : String
  version : Option String := none
  skills : List String := []
  domains : List String := []

structure AgentRegistrationLink where
  agentId : String
  agentRegistry : String

structure Erc8004Registration where
  type : String
  name : String
  description : String
  image : String
  services : List AgentService
  active : Bool
  registrations : List AgentRegistrationLink
  supportedTrust : List String

structure RwaAgent where
  id : AgentId
  name : String
  description : String
  image : String
  coreUri : String
  registration : Erc8004Registration

def erc8004RegistrationV1 : String := "https://eips.ethereum.org/EIPS/eip-8004#registration-v1"

def metaplexAgentRegistry : String := "solana:101:metaplex"

def agentHost : String := "https://rwa.local/agents"

/-- Where the agent is found: a page, a card and a tool server. -/
def discoveryServices (id : AgentId) : List AgentService := [
  { name := "web", endpoint := s!"{agentHost}/{id.text}" },
  { name := "A2A", endpoint := s!"{agentHost}/{id.text}/agent-card.json", version := some "0.3.0" },
  { name := "MCP"
    endpoint := s!"{agentHost}/{id.text}/mcp"
    version := some "2025-06-18"
    skills := ["rwa-pair", "rwa-trade", "genesis-launch"]
    domains := ["rwa", "solana"] }]

/-- The one agent of the catalog. -/
def rwaTraderAgent : RwaAgent :=
  let id := AgentId.rwaTrader
  let name := "RWA Pairing Trader"
  let description := "Pairs a Metaplex-registered AI agent with a tokenized real-world asset, " ++
    "launches a Genesis bonding-curve agent token, and trades fractional RWA ownership from " ++
    "the agent Asset Signer PDA."
  let image := "https://api.metaplex.com/static/agents/rwa-trader.png"
  { id, name, description, image
    coreUri := "https://api.metaplex.com/v1/agents/metadata/rwa-trader.json"
    registration := {
      type := erc8004RegistrationV1
      name, description, image
      services := discoveryServices id
      active := true
      registrations := [{ agentId := id.text, agentRegistry := metaplexAgentRegistry }]
      supportedTrust := ["reputation", "crypto-economic"] } }

def listAgents : List RwaAgent := [rwaTraderAgent]

def getAgent (id : AgentId) : Except String RwaAgent :=
  match listAgents.find? (·.id = id) with
  | some found => .ok found
  | none => .error s!"Unknown agent \"{id.text}\""

/-- The catalog knows every agent, under its own id only. -/
theorem getAgent_ok {id : AgentId} {agent : RwaAgent} :
    getAgent id = .ok agent ↔ agent ∈ listAgents ∧ agent.id = id := by
  cases id
  constructor
  · intro h
    cases h
    exact ⟨List.mem_cons_self, rfl⟩
  · rintro ⟨hmem, -⟩
    rw [List.mem_singleton.mp hmem]
    rfl

/-! ## The builders -/

/-- The SDK with the addresses of the agent registry and the wallet that pays. -/
structure RegistryUmi extends Umi where
  payer : String
  findExecutiveProfileV1Pda : (authority : String) → Pda
  findExecutionDelegateRecordV1Pda : (executiveProfile agentAsset : String) → Pda

/-- The instructions of the agent registry.  An executive is registered with whatever the
SDK takes. -/
inductive RegistryCall (Executive : Type)
  | registerIdentityV1 (asset : String) (collection : Option String)
      (agentRegistrationUri : String)
  | registerExecutiveV1 (input : Executive)
  | delegateExecutionV1 (agentAsset : String) (agentIdentity executiveProfile : Pda)
  | revokeExecutionV1 (executionDelegateRecord : Pda) (agentAsset destination : String)

structure RegisterIdentityInput where
  asset : AssetRef
  collection : Option AssetRef := none
  agentRegistrationUri : String

structure DelegateExecutionInput where
  agentAsset : AssetRef
  executiveAuthority : AssetRef

structure RevokeExecutionInput where
  agentAsset : AssetRef
  executiveAuthority : AssetRef
  destination : Option AssetRef := none

structure DelegateExecution (Executive : Type) where
  builder : List (RegistryCall Executive)
  agentIdentity : Pda
  executiveProfile : Pda

structure RevokeExecution (Executive : Type) where
  builder : List (RegistryCall Executive)
  executionDelegateRecord : Pda
  executiveProfile : Pda

section

variable {Executive : Type} (umi : RegistryUmi)

def deriveExecutiveProfilePda (authority : AssetRef) : Except String Pda := do
  return umi.findExecutiveProfileV1Pda (← asPublicKey umi.toUmi authority)

def deriveExecutionDelegateRecordPda (executiveProfile agentAsset : AssetRef) :
    Except String Pda := do
  let executiveProfile ← asPublicKey umi.toUmi executiveProfile
  let agentAsset ← asPublicKey umi.toUmi agentAsset
  return umi.findExecutionDelegateRecordV1Pda executiveProfile agentAsset

def buildRegisterIdentity (input : RegisterIdentityInput) :
    Except String (List (RegistryCall Executive)) := do
  let asset ← asPublicKey umi.toUmi input.asset
  let collection ← optionalPublicKey umi.toUmi input.collection
  return [.registerIdentityV1 asset collection input.agentRegistrationUri]

/-- The identity of an agent of the catalog points to its metadata. -/
def buildRegisterIdentityForAgent (agent : RwaAgent) (asset : AssetRef)
    (collection : Option AssetRef := none) : Except String (List (RegistryCall Executive)) :=
  buildRegisterIdentity umi { asset, collection, agentRegistrationUri := agent.coreUri }

def buildRegisterExecutive (input : Executive) : List (RegistryCall Executive) :=
  [.registerExecutiveV1 input]

/-- The executive may act for the agent.  The SDK derives the record. -/
def buildDelegateExecution (input : DelegateExecutionInput) :
    Except String (DelegateExecution Executive) := do
  let agentAsset ← asPublicKey umi.toUmi input.agentAsset
  let agentIdentity ← deriveAgentIdentityPda umi.toUmi (.key agentAsset)
  let executiveProfile ← deriveExecutiveProfilePda umi input.executiveAuthority
  return {
    builder := [.delegateExecutionV1 agentAsset agentIdentity executiveProfile]
    agentIdentity, executiveProfile }

/-- The record is derived here.  Its rent goes to the destination, or to the payer. -/
def buildRevokeExecution (input : RevokeExecutionInput) :
    Except String (RevokeExecution Executive) := do
  let agentAsset ← asPublicKey umi.toUmi input.agentAsset
  let executiveProfile ← deriveExecutiveProfilePda umi input.executiveAuthority
  let executionDelegateRecord ←
    deriveExecutionDelegateRecordPda umi (.pda executiveProfile) (.key agentAsset)
  let destination ← optionalPublicKey umi.toUmi input.destination
  return {
    builder := [.revokeExecutionV1 executionDelegateRecord agentAsset
      (destination.getD umi.payer)]
    executionDelegateRecord, executiveProfile }

end

/-! ## Sending -/

/-- What `sendBuilderIfExecute` answers. -/
structure SendResult (Call : Type) where
  execute : Bool
  instructions : List Call

def sendBuilderIfExecute {Call σ : Type} (sendAndConfirm : List Call → EStateM String σ Unit)
    (builder : List Call) (executeFlag : Bool := false) : EStateM String σ (SendResult Call) := do
  if executeFlag then
    sendAndConfirm builder
  return { execute := executeFlag, instructions := builder }

/-! ## The address of a record -/

/-- The address a reference stands for. -/
def AssetRef.address : AssetRef → String
  | key address => address
  | pda derived => derived.address

/-- What is accepted is the address a reference stands for. -/
theorem asPublicKey_address {umi : Umi} {ref : AssetRef} {address : String}
    (h : asPublicKey umi ref = .ok address) : address = ref.address := by
  cases ref with
  | key a => rw [asPublicKey] at h; exact umi.publicKey_eq h
  | pda a => rw [asPublicKey] at h; exact umi.publicKey_eq h

/-- The executive may act for the agent. -/
structure Delegation where
  agentAsset : String
  executiveAuthority : String
deriving DecidableEq

/-- The address of the record of a delegation. -/
def RegistryUmi.delegateRecord (umi : RegistryUmi) (delegation : Delegation) : String :=
  (umi.findExecutionDelegateRecordV1Pda
    (umi.findExecutiveProfileV1Pda delegation.executiveAuthority).address
    delegation.agentAsset).address

section

variable {Executive : Type} {umi : RegistryUmi}

/-- A delegation that is built names the profile of the executive. -/
theorem buildDelegateExecution_ok {input : DelegateExecutionInput}
    {built : DelegateExecution Executive} (h : buildDelegateExecution umi input = .ok built) :
    built.builder = [.delegateExecutionV1 input.agentAsset.address
      (umi.findAgentIdentityV1Pda input.agentAsset.address)
      (umi.findExecutiveProfileV1Pda input.executiveAuthority.address)] := by
  simp only [buildDelegateExecution, deriveAgentIdentityPda, deriveExecutiveProfilePda,
    Except.bind_eq_ok, Except.pure_eq_ok] at h
  obtain ⟨agent, hagent, _, ⟨agent', hagent', rfl⟩, _, ⟨authority, hauthority, rfl⟩, rfl⟩ := h
  cases asPublicKey_address hagent
  cases asPublicKey_address hagent'
  cases asPublicKey_address hauthority
  rfl

/-- A revocation that is built names the record of the agent and the executive. -/
theorem buildRevokeExecution_ok {input : RevokeExecutionInput}
    {built : RevokeExecution Executive} (h : buildRevokeExecution umi input = .ok built) :
    built.executionDelegateRecord.address =
        umi.delegateRecord ⟨input.agentAsset.address, input.executiveAuthority.address⟩ ∧
      ∃ destination, built.builder = [.revokeExecutionV1 built.executionDelegateRecord
        input.agentAsset.address destination] := by
  simp only [buildRevokeExecution, deriveExecutiveProfilePda, deriveExecutionDelegateRecordPda,
    Except.bind_eq_ok, Except.pure_eq_ok] at h
  obtain ⟨agent, hagent, _, ⟨authority, hauthority, rfl⟩, _,
    ⟨profile, hprofile, agent', hagent', rfl⟩, _, -, rfl⟩ := h
  cases asPublicKey_address hagent
  cases asPublicKey_address hauthority
  cases asPublicKey_address hprofile
  cases asPublicKey_address hagent'
  exact ⟨rfl, _, rfl⟩

end

end RwaAgents
