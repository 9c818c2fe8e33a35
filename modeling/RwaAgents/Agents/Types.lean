import RwaAgents.Library.JsValue

/-!
# Pairings and launch payloads

The data types of `agents/types.ts`.  A pairing is a plain value: the client
copies it, hands it out and rewrites copies of it.  An optional field is an
`Option`, and `undefined` is `none`.

The values of a `Record<string, unknown>` are never looked at.  Their type is
the parameter `υ` of a launch payload.
-/

namespace RwaAgents

/-- One agent paired with one RWA. -/
structure AgentRwaPairing where
  agentAsset : String
  agentIdentity : String
  assetSigner : String
  rwaAsset : String
  rwaAssetId : String
  rwaMint : Option String
  agentToken : Option String
  agentTokenBound : Bool
deriving DecidableEq, Repr

structure GenesisTokenLinks where
  website : Option String
  twitter : Option String
  telegram : Option String
deriving DecidableEq, Repr

structure GenesisTokenInput where
  name : String
  symbol : String
  image : String
  description : Option String := none
  externalLinks : Option GenesisTokenLinks := none
deriving DecidableEq, Repr

/-- The `agent` part of a launch payload. -/
structure GenesisLaunchAgent where
  mint : String
  setToken : Bool
deriving DecidableEq, Repr

/-- What the launch endpoint is asked for. -/
structure GenesisLaunchPayload (υ : Type) where
  wallet : String
  agent : GenesisLaunchAgent
  launchType : String
  token : GenesisTokenInput
  launch : OrderedMap String υ
  network : Option String

/-- An amount of units, `number | bigint`. -/
inductive Amount
  | number (value : JsNumber)
  | bigint (value : ℤ)
deriving DecidableEq, Repr

/-- The accounts a transfer plan names, in the order of the instruction. -/
structure RwaTransferOwnershipAccounts where
  asset : String
  «from» : String
  fromTokenAccount : String
  toTokenAccount : String
  mint : String
  tokenProgram : String
  clock : String
deriving DecidableEq, Repr

structure RwaTransferOwnershipPlan where
  programId : String
  «instruction» : String
  accounts : RwaTransferOwnershipAccounts
  amount : Amount
deriving DecidableEq, Repr

def rwaProgramId : String := "RWA1111111111111111111111111111111111111111"

def tokenProgramId : String := "TokenkegQfeZyiNwAJbNbGKPFXCWuBvf9Ss623VQ5DA"

def sysvarClock : String := "SysvarC1ock11111111111111111111111111111111"

/-- The truth value of an optional string: `undefined` and `''` are false. -/
def truthy (s : Option String) : Bool := s ≠ none ∧ s ≠ some ""

end RwaAgents
