import RwaAgents.Library.JsValue
import RwaAgents.Agents.Authority

/-!
# Tokens issued for a pairing

`buildCreateFungibleAndMint` and `buildMintMore` of `agents/trade.ts`.  Neither
names an authority, so the SDK takes the identity it runs under: the created token
records it twice, and more is minted in its name.  `buildUpdateMetadata` signs as
the Asset Signer.

So a token that is created for a pairing can be minted by it, but its metadata is
out of reach of the pairing that it was created for, unless the identity is the
Asset Signer itself (`managed_iff`).
-/

namespace RwaAgents

/-- A signer of the SDK.  Its key is an address. -/
structure UmiSigner (umi : Umi) where
  publicKey : String
  publicKey_ok : umi.publicKey publicKey = .ok publicKey

/-- The SDK with the identity it runs under. -/
structure IdentityUmi extends TokenUmi where
  identity : UmiSigner toUmi
  /-- The signer that is generated next. -/
  generateSigner : UmiSigner toUmi

/-- A percentage in hundredths of a percent. -/
def percentAmount (percent : ℕ) : ℕ := percent * 100

/-- The arguments of `createFungible`.  The two authorities are optional. -/
structure CreateFungible where
  mint : String
  name : String
  symbol : String
  uri : String
  sellerFeeBasisPoints : ℕ
  decimals : Option JsNumber
  authority : Option String := none
  updateAuthority : Option String := none

/-- The arguments of `mintTokensTo`. -/
structure MintTokensTo where
  mint : String
  token : Pda
  amount : Amount
  mintAuthority : Option String := none

/-- The SDK calls that issue a token. -/
inductive IssueCall
  | createFungible (args : CreateFungible)
  | createTokenIfMissing (mint owner : String)
  | mintTokensTo (args : MintTokensTo)

structure CreateFungibleInput (umi : Umi) where
  name : String
  symbol : String
  uri : String
  decimals : Option JsNumber := none
  amount : Amount
  mint : Option (UmiSigner umi) := none

structure CreateFungibleAndMint (umi : Umi) where
  builder : List IssueCall
  mint : UmiSigner umi
  token : Pda
  owner : String

def buildCreateFungibleAndMint (umi : IdentityUmi) (pairing : AgentRwaPairing)
    (input : CreateFungibleInput umi.toUmi) :
    Except String (CreateFungibleAndMint umi.toUmi) := do
  let mint := input.mint.getD umi.generateSigner
  let owner ← assetSignerKey umi.toUmi pairing
  let token := umi.findAssociatedTokenPda mint.publicKey owner
  let builder := [
    IssueCall.createFungible {
      mint := mint.publicKey
      name := input.name
      symbol := input.symbol
      uri := input.uri
      sellerFeeBasisPoints := percentAmount 0
      decimals := some (input.decimals.getD (.ofNat 9)) },
    IssueCall.createTokenIfMissing mint.publicKey owner,
    IssueCall.mintTokensTo { mint := mint.publicKey, token, amount := input.amount }]
  return { builder, mint, token, owner }

structure MintMoreInput where
  mint : AssetRef
  destinationOwner : Option AssetRef := none
  amount : Amount

structure MintMore where
  builder : List IssueCall
  token : Pda
  mint : String

/-- The owner the caller names, or else the Asset Signer. -/
def chosenOwner (umi : Umi) (pairing : AgentRwaPairing) (destinationOwner : Option AssetRef) :
    Except String String :=
  match AssetRef.truthy destinationOwner, destinationOwner with
  | true, some owner => asPublicKey umi owner
  | _, _ => assetSignerKey umi pairing

def buildMintMore (umi : TokenUmi) (pairing : AgentRwaPairing) (input : MintMoreInput) :
    Except String MintMore := do
  let mint ← asPublicKey umi.toUmi input.mint
  let owner ← chosenOwner umi.toUmi pairing input.destinationOwner
  let token := umi.findAssociatedTokenPda mint owner
  let builder := [
    IssueCall.createTokenIfMissing mint owner,
    IssueCall.mintTokensTo { mint, token, amount := input.amount }]
  return { builder, token, mint }

/-! ## Who may manage a token -/

/-- What the SDK makes of the authorities.  One that is not named is the identity. -/
structure IssueRules (umi : IdentityUmi) where
  /-- The mint authority a created token records. -/
  mintAuthority : CreateFungible → String
  /-- The update authority its metadata records. -/
  updateAuthority : CreateFungible → String
  /-- Who signs for minted tokens. -/
  mintSigner : MintTokensTo → String
  mintAuthority_default : ∀ {args : CreateFungible}, args.authority = none →
    args.updateAuthority = none → mintAuthority args = umi.identity.publicKey
  updateAuthority_default : ∀ {args : CreateFungible}, args.authority = none →
    args.updateAuthority = none → updateAuthority args = umi.identity.publicKey
  mintSigner_default : ∀ {args : MintTokensTo}, args.mintAuthority = none →
    mintSigner args = umi.identity.publicKey

/-- The builders of the pairing sign for the created token with the authorities it
records. -/
structure ManagedBy {umi : IdentityUmi} (rules : IssueRules umi) (pairing : AgentRwaPairing)
    (created : CreateFungibleAndMint umi.toUmi) : Prop where
  mint : ∀ {args input more call}, .createFungible args ∈ created.builder →
    input.mint = .key created.mint.publicKey →
    buildMintMore umi.toTokenUmi pairing input = .ok more → .mintTokensTo call ∈ more.builder →
      rules.mintSigner call = rules.mintAuthority args
  update : ∀ {args input update}, .createFungible args ∈ created.builder →
    input.mint = some (.key created.mint.publicKey) →
    buildUpdateMetadata umi.toUmi pairing input = .ok update →
      authorities update.builder = [rules.updateAuthority args]

section

variable {umi : IdentityUmi} {pairing : AgentRwaPairing}

theorem buildCreateFungibleAndMint_ok {input : CreateFungibleInput umi.toUmi}
    {created : CreateFungibleAndMint umi.toUmi} :
    buildCreateFungibleAndMint umi pairing input = .ok created ↔
      ∃ mint owner, mint = input.mint.getD umi.generateSigner ∧
        assetSignerKey umi.toUmi pairing = .ok owner ∧
        created = {
          builder := [
            .createFungible {
              mint := mint.publicKey
              name := input.name
              symbol := input.symbol
              uri := input.uri
              sellerFeeBasisPoints := 0
              decimals := some (input.decimals.getD (.ofNat 9)) },
            .createTokenIfMissing mint.publicKey owner,
            .mintTokensTo {
              mint := mint.publicKey
              token := umi.findAssociatedTokenPda mint.publicKey owner
              amount := input.amount }]
          mint
          token := umi.findAssociatedTokenPda mint.publicKey owner
          owner } := by
  simp only [buildCreateFungibleAndMint, Except.bind_eq_ok, Except.pure_eq_ok]
  constructor
  · intro ⟨owner, howner, hcreated⟩
    exact ⟨_, owner, rfl, howner, hcreated.symm⟩
  · intro ⟨mint, owner, hmint, howner, hcreated⟩
    subst hmint
    exact ⟨owner, howner, hcreated.symm⟩

theorem buildMintMore_ok {umi : TokenUmi} {input : MintMoreInput} {more : MintMore} :
    buildMintMore umi pairing input = .ok more ↔
      ∃ mint owner, asPublicKey umi.toUmi input.mint = .ok mint ∧
        chosenOwner umi.toUmi pairing input.destinationOwner = .ok owner ∧
        more = {
          builder := [
            .createTokenIfMissing mint owner,
            .mintTokensTo {
              mint
              token := umi.findAssociatedTokenPda mint owner
              amount := input.amount }]
          token := umi.findAssociatedTokenPda mint owner
          mint } := by
  simp only [buildMintMore, Except.bind_eq_ok, Except.pure_eq_ok]
  constructor
  · intro ⟨mint, hmint, owner, howner, hmore⟩
    exact ⟨mint, owner, hmint, howner, hmore.symm⟩
  · intro ⟨mint, owner, hmint, howner, hmore⟩
    exact ⟨mint, hmint, owner, howner, hmore.symm⟩

/-- No call that issues tokens names an authority. -/
def IssueCall.Unnamed : IssueCall → Prop
  | createFungible args => args.authority = none ∧ args.updateAuthority = none
  | createTokenIfMissing _ _ => True
  | mintTokensTo args => args.mintAuthority = none

theorem buildCreateFungibleAndMint_unnamed {input : CreateFungibleInput umi.toUmi}
    {created : CreateFungibleAndMint umi.toUmi}
    (h : buildCreateFungibleAndMint umi pairing input = .ok created) :
    ∀ call ∈ created.builder, call.Unnamed := by
  obtain ⟨mint, owner, -, -, rfl⟩ := buildCreateFungibleAndMint_ok.mp h
  simp [IssueCall.Unnamed]

theorem buildMintMore_unnamed {umi : TokenUmi} {input : MintMoreInput} {more : MintMore}
    (h : buildMintMore umi pairing input = .ok more) : ∀ call ∈ more.builder, call.Unnamed := by
  obtain ⟨mint, owner, -, -, rfl⟩ := buildMintMore_ok.mp h
  simp [IssueCall.Unnamed]

variable {rules : IssueRules umi} {input : CreateFungibleInput umi.toUmi}
  {created : CreateFungibleAndMint umi.toUmi}

/-- Both authorities a created token records are the identity. -/
theorem recorded_authorities (h : buildCreateFungibleAndMint umi pairing input = .ok created)
    {args : CreateFungible} (hargs : .createFungible args ∈ created.builder) :
    rules.mintAuthority args = umi.identity.publicKey ∧
      rules.updateAuthority args = umi.identity.publicKey := by
  obtain ⟨hauthority, hupdate⟩ := buildCreateFungibleAndMint_unnamed h _ hargs
  exact ⟨rules.mintAuthority_default hauthority hupdate,
    rules.updateAuthority_default hauthority hupdate⟩

/-- A metadata update is signed for by the Asset Signer. -/
theorem authorities_buildUpdateMetadata {input : UpdateMetadataInput} {update : UpdateMetadata}
    (h : buildUpdateMetadata umi.toUmi pairing input = .ok update) :
    authorities update.builder = [pairing.assetSigner] := by
  obtain ⟨mint, authority, -, hauthority, rfl⟩ := buildUpdateMetadata_ok.mp h
  rw [assetSignerKey_eq hauthority]
  rfl

/-- The builders of the pairing manage the token it creates exactly if the identity of
the SDK is the Asset Signer. -/
theorem managed_iff (h : buildCreateFungibleAndMint umi pairing input = .ok created) :
    ManagedBy rules pairing created ↔ pairing.assetSigner = umi.identity.publicKey := by
  constructor
  · intro hmanaged
    obtain ⟨mint, owner, -, howner, rfl⟩ := buildCreateFungibleAndMint_ok.mp h
    let input : UpdateMetadataInput := ⟨some (.key mint.publicKey), "", "", ""⟩
    have hmint : chosenMint umi.toUmi pairing input.mint = .ok mint.publicKey :=
      mint.publicKey_ok
    have hupdate := buildUpdateMetadata_ok.mpr ⟨_, _, hmint, howner, rfl⟩
    have hsigner := hmanaged.update List.mem_cons_self rfl hupdate
    rw [authorities_buildUpdateMetadata hupdate,
      (recorded_authorities h List.mem_cons_self).2] at hsigner
    exact List.head_eq_of_cons_eq hsigner
  · intro hidentity
    constructor
    · intro args input more call hargs _ hmore hcall
      rw [(recorded_authorities h hargs).1]
      exact rules.mintSigner_default (buildMintMore_unnamed hmore _ hcall)
    · intro args input update hargs _ hupdate
      rw [authorities_buildUpdateMetadata hupdate, (recorded_authorities h hargs).2, hidentity]

end

/-- A token created for a pairing whose Asset Signer is not the identity of the SDK is
never managed by the builders of that pairing. -/
theorem created_token_unmanaged {umi : IdentityUmi} (rules : IssueRules umi)
    {pairing : AgentRwaPairing} (hsigner : pairing.assetSigner ≠ umi.identity.publicKey)
    {input : CreateFungibleInput umi.toUmi} {created : CreateFungibleAndMint umi.toUmi}
    (hcreated : buildCreateFungibleAndMint umi pairing input = .ok created) :
    ¬ ManagedBy rules pairing created :=
  fun hmanaged => hsigner ((managed_iff hcreated).mp hmanaged)

/-! ## A wallet that creates a token for an agent -/

/-- The SDK of the samples, run by a wallet. -/
def sampleIdentityUmi : IdentityUmi where
  toTokenUmi := sampleTokenUmi
  identity := ⟨"wallet", rfl⟩
  generateSigner := ⟨"new-mint", rfl⟩

/-- An authority that is not named is the wallet. -/
def sampleRules : IssueRules sampleIdentityUmi where
  mintAuthority args := args.authority.getD "wallet"
  updateAuthority args := (args.updateAuthority.or args.authority).getD "wallet"
  mintSigner args := args.mintAuthority.getD "wallet"
  mintAuthority_default hauthority _ := by rw [hauthority]; rfl
  updateAuthority_default hauthority hupdate := by rw [hauthority, hupdate]; rfl
  mintSigner_default hmint := by rw [hmint]; rfl

/-- What the wallet creates for the pairing that was moved. -/
def sampleFungible : CreateFungibleInput sampleUmi where
  name := "RWA Fraction"
  symbol := "RWAF"
  uri := "https://example.com/rwa.json"
  amount := .number (.ofNat 1000000000)

theorem sampleFungible_unmanaged :
    ∃ created, buildCreateFungibleAndMint sampleIdentityUmi movedPairing sampleFungible =
      .ok created ∧ ¬ ManagedBy sampleRules movedPairing created :=
  ⟨_, rfl, created_token_unmanaged sampleRules (by decide) rfl⟩

/-- The token records the wallet and the update is signed as the Asset Signer. -/
theorem sampleFungible_authorities :
    ∃ created update args,
      buildCreateFungibleAndMint sampleIdentityUmi movedPairing sampleFungible = .ok created ∧
      .createFungible args ∈ created.builder ∧
      buildUpdateMetadata sampleUmi movedPairing
        { mint := some (.key created.mint.publicKey), name := "", symbol := "", uri := "" } =
        .ok update ∧
      sampleRules.updateAuthority args = "wallet" ∧
      authorities update.builder = ["signer-of-agent-a"] ∧
      ¬ ManagedBy sampleRules movedPairing created := by
  refine ⟨_, _, _, rfl, List.mem_cons_self, rfl, rfl, rfl, fun hmanaged => ?_⟩
  have hupdate : ["signer-of-agent-a"] = ["wallet"] :=
    hmanaged.update List.mem_cons_self rfl
      (rfl : buildUpdateMetadata sampleUmi movedPairing
        ⟨some (.key "new-mint"), "", "", ""⟩ = .ok _)
  exact absurd hupdate (by decide)

end RwaAgents
