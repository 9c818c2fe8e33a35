import RwaAgents.Agents.Types

/-!
# Addresses, derived addresses and the bind instruction

What `agents/identity.ts` adds to the Umi SDK.  The SDK is a parameter: `Umi`
collects the three functions the client calls.  The builders of the SDK only
assemble an instruction from their arguments, so a `TransactionBuilder` is the
list of the calls with what the client passed to them.
-/

namespace RwaAgents

/-- A program derived address: the address and its bump. -/
structure Pda where
  address : String
  bump : Nat
deriving DecidableEq, Repr

/-- An address as callers write it.  A `PublicKey` is a string at run time. -/
inductive AssetRef
  | key (address : String)
  | pda (pda : Pda)
deriving DecidableEq, Repr

/-- The functions of the SDK the client derives addresses with.  `publicKey`
throws on a string that is no address and returns every other one as it is. -/
structure Umi where
  publicKey : String → Except String String
  publicKey_eq : ∀ {s t : String}, publicKey s = .ok t → t = s
  findAgentIdentityV1Pda : String → Pda
  findAssetSignerPda : String → Pda

/-- What an SDK that takes every string has to show. -/
theorem publicKey_eq_of_ok {s t : String} (h : (.ok s : Except String String) = .ok t) : t = s :=
  (Except.ok.inj h).symm

/-- The fields of a metadata update. -/
structure MetadataUpdate where
  name : String
  symbol : String
  uri : String
  sellerFeeBasisPoints : ℕ
  creators : Option (List String)
deriving Repr

/-- The SDK calls a transaction is built from. -/
inductive SdkCall
  | setAgentTokenV1 (asset genesisAccount authority : String)
  | createTokenIfMissing (mint owner : String)
  | transferTokens (source destination : Pda) (amount : Amount) (authority : String)
  | updateV1 (mint authority : String) (data : MetadataUpdate)
  | execute (asset : String) (collection : Option String) (instructions : List SdkCall)
deriving Repr

abbrev TransactionBuilder := List SdkCall

def asPublicKey (umi : Umi) : AssetRef → Except String String
  | .key address => umi.publicKey address
  | .pda pda => umi.publicKey pda.address

def pdaAddress (pda : Pda) : String := pda.address

def deriveAgentIdentityPda (umi : Umi) (asset : AssetRef) : Except String Pda := do
  return umi.findAgentIdentityV1Pda (← asPublicKey umi asset)

def deriveAssetSignerPda (umi : Umi) (asset : AssetRef) : Except String Pda := do
  return umi.findAssetSignerPda (← asPublicKey umi asset)

/-- The truth value of an optional address.  An array is true. -/
def AssetRef.truthy : Option AssetRef → Bool
  | none => false
  | some (.key address) => address ≠ ""
  | some (.pda _) => true

/-- An address that may be missing or empty. -/
def optionalPublicKey (umi : Umi) (value : Option AssetRef) : Except String (Option String) :=
  if AssetRef.truthy value then value.mapM (asPublicKey umi) else return none

/-- The text every guard on the canonical token throws. -/
def alreadyBound : String := "setToken is irreversible; this agent already has a bound token"

structure SetAgentToken where
  builder : TransactionBuilder
  assetSigner : String
  agentIdentity : Pda

def buildSetAgentToken (umi : Umi) (pairing : AgentRwaPairing) (genesisAccount : AssetRef)
    (collection : Option AssetRef := none) : Except String SetAgentToken := do
  if pairing.agentTokenBound then
    throw alreadyBound
  let asset ← asPublicKey umi (.key pairing.agentAsset)
  let assetSigner ← asPublicKey umi (.key pairing.assetSigner)
  let agentIdentity ← deriveAgentIdentityPda umi (.key asset)
  let inner := [SdkCall.setAgentTokenV1 asset (← asPublicKey umi genesisAccount) assetSigner]
  let collection ←
    if AssetRef.truthy collection then collection.mapM (asPublicKey umi) else pure none
  let builder := [SdkCall.execute asset collection inner]
  return { builder, assetSigner, agentIdentity }

end RwaAgents
