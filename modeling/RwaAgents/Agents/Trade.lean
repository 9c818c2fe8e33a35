import RwaAgents.Agents.Pairing

/-!
# Trading from a pairing

`agents/trade.ts` and `agents/execute.ts`.  Every builder spends from the Asset
Signer of the pairing, the address `pairing.assetSigner`.  Nobody holds a key for
it, so the instructions are sent inside a Core `execute` on the agent
(`buildAgentExecution`).

The token plugin of the SDK adds one derivation, `findAssociatedTokenPda`.  The
client never passes it a token program.
-/

namespace RwaAgents

/-- The SDK with its token plugin. -/
structure TokenUmi extends Umi where
  /-- The associated token account, under the token program the plugin defaults to. -/
  findAssociatedTokenPda : (mint owner : String) → Pda

/-- A pairing without a mint cannot trade. -/
def requirePairingMint (pairing : AgentRwaPairing) : Except String String :=
  match pairing.rwaMint with
  | none => throw "Pairing has no RWA mint; tokenize the asset before trading"
  | some mint =>
      if mint = "" then throw "Pairing has no RWA mint; tokenize the asset before trading"
      else return mint

/-- The address everything is spent from. -/
def assetSignerKey (umi : Umi) (pairing : AgentRwaPairing) : Except String String :=
  asPublicKey umi (.key pairing.assetSigner)

/-- The token account of the Asset Signer. -/
def pairingMintAta (umi : TokenUmi) (pairing : AgentRwaPairing) (mint : AssetRef) :
    Except String Pda := do
  let mint ← asPublicKey umi.toUmi mint
  return umi.findAssociatedTokenPda mint (← assetSignerKey umi.toUmi pairing)

/-- The mint the caller names, or else the mint of the pairing. -/
def chosenMint (umi : Umi) (pairing : AgentRwaPairing) : Option AssetRef → Except String String
  | some mint => asPublicKey umi mint
  | none => do asPublicKey umi (.key (← requirePairingMint pairing))

structure TransferInput where
  mint : Option AssetRef := none
  destinationOwner : AssetRef
  amount : Amount

structure TransferTokens where
  builder : TransactionBuilder
  source : Pda
  destination : Pda
  mint : String

/-- The account of the recipient is opened where it is missing. -/
def buildTransferTokens (umi : TokenUmi) (pairing : AgentRwaPairing) (input : TransferInput) :
    Except String TransferTokens := do
  let mint ← chosenMint umi.toUmi pairing input.mint
  let sourceOwner ← assetSignerKey umi.toUmi pairing
  let destOwner ← asPublicKey umi.toUmi input.destinationOwner
  let source := umi.findAssociatedTokenPda mint sourceOwner
  let destination := umi.findAssociatedTokenPda mint destOwner
  let builder := [
    SdkCall.createTokenIfMissing mint destOwner,
    SdkCall.transferTokens source destination input.amount sourceOwner]
  return { builder, source, destination, mint }

structure UpdateMetadataInput where
  mint : Option AssetRef := none
  name : String
  symbol : String
  uri : String

structure UpdateMetadata where
  builder : TransactionBuilder
  mint : String

/-- The update is signed for by the Asset Signer, which need not be the update authority. -/
def buildUpdateMetadata (umi : Umi) (pairing : AgentRwaPairing) (input : UpdateMetadataInput) :
    Except String UpdateMetadata := do
  let mint ← chosenMint umi pairing input.mint
  let authority ← assetSignerKey umi pairing
  let data := {
    name := input.name
    symbol := input.symbol
    uri := input.uri
    sellerFeeBasisPoints := 0
    creators := none }
  return { builder := [SdkCall.updateV1 mint authority data], mint }

/-- The plan of a `transfer_ownership`.  It names the SPL Token program. -/
def buildRwaTransferOwnership (umi : TokenUmi) (pairing : AgentRwaPairing)
    (input : TransferInput) : Except String RwaTransferOwnershipPlan := do
  let mint ← chosenMint umi.toUmi pairing input.mint
  let «to» ← asPublicKey umi.toUmi input.destinationOwner
  let fromTokenAccount ← pairingMintAta umi pairing (.key mint)
  let toTokenAccount := umi.findAssociatedTokenPda mint «to»
  return {
    programId := rwaProgramId
    «instruction» := "transfer_ownership"
    accounts := {
      asset := pairing.rwaAsset
      «from» := pairing.assetSigner
      fromTokenAccount := pdaAddress fromTokenAccount
      toTokenAccount := pdaAddress toTokenAccount
      mint
      tokenProgram := tokenProgramId
      clock := sysvarClock }
    amount := input.amount }

/-! ## Execution through Core -/

/-- Wrap instructions so that the Asset Signer of the agent signs for them. -/
def buildAgentExecution (umi : Umi) (pairing : AgentRwaPairing)
    (instructions : TransactionBuilder) (collection : Option String := none) :
    Except String TransactionBuilder := do
  let asset ← asPublicKey umi (.key pairing.agentAsset)
  let collection ←
    if truthy collection then collection.mapM fun address => asPublicKey umi (.key address)
    else pure none
  return [SdkCall.execute asset collection instructions]

def buildExecuteTransferTokens (umi : TokenUmi) (pairing : AgentRwaPairing)
    (input : TransferInput) (collection : Option String := none) :
    Except String TransferTokens := do
  let inner ← buildTransferTokens umi pairing input
  return { inner with
    builder := ← buildAgentExecution umi.toUmi pairing inner.builder collection }

def buildExecuteUpdateMetadata (umi : Umi) (pairing : AgentRwaPairing)
    (input : UpdateMetadataInput) (collection : Option String := none) :
    Except String UpdateMetadata := do
  let inner ← buildUpdateMetadata umi pairing input
  return { inner with builder := ← buildAgentExecution umi pairing inner.builder collection }

/-! ## What the builders return -/

section

variable {umi : Umi} {pairing : AgentRwaPairing}

/-- An accepted address is the text it was given as. -/
theorem publicKey_idem {s k : String} (h : umi.publicKey s = .ok k) : umi.publicKey k = .ok k := by
  have hk := umi.publicKey_eq h
  rwa [← hk] at h

theorem asPublicKey_idem {ref : AssetRef} {k : String} (h : asPublicKey umi ref = .ok k) :
    umi.publicKey k = .ok k := by
  cases ref with
  | key address => exact publicKey_idem h
  | pda pda => exact publicKey_idem h

/-- A reference that is there is read. -/
theorem mapM_some_ok {f : AssetRef → Except String String} {ref : AssetRef} {key : Option String} :
    (some ref).mapM f = .ok key ↔ ∃ k, f ref = .ok k ∧ key = some k := by
  change some <$> f ref = .ok key ↔ _
  cases f ref with
  | error e => exact ⟨fun h => (nomatch h), fun ⟨_, h, _⟩ => (nomatch h)⟩
  | ok k =>
      constructor
      · intro h
        cases h
        exact ⟨k, rfl, rfl⟩
      · rintro ⟨_, h, rfl⟩
        cases h
        rfl

theorem assetSignerKey_eq {k : String} (h : assetSignerKey umi pairing = .ok k) :
    k = pairing.assetSigner :=
  umi.publicKey_eq h

theorem chosenMint_idem {mint : Option AssetRef} {k : String}
    (h : chosenMint umi pairing mint = .ok k) : umi.publicKey k = .ok k := by
  cases mint with
  | some mint => exact asPublicKey_idem h
  | none =>
      obtain ⟨text, -, htext⟩ := Except.bind_eq_ok.mp h
      exact asPublicKey_idem htext

/-- An update is built if the mint and the Asset Signer are addresses. -/
theorem buildUpdateMetadata_ok {input : UpdateMetadataInput} {update : UpdateMetadata} :
    buildUpdateMetadata umi pairing input = .ok update ↔
      ∃ mint authority, chosenMint umi pairing input.mint = .ok mint ∧
        assetSignerKey umi pairing = .ok authority ∧
        update = {
          builder := [.updateV1 mint authority ⟨input.name, input.symbol, input.uri, 0, none⟩]
          mint } := by
  simp only [buildUpdateMetadata, Except.bind_eq_ok, Except.pure_eq_ok]
  constructor
  · rintro ⟨mint, hmint, authority, hauthority, rfl⟩
    exact ⟨mint, authority, hmint, hauthority, rfl⟩
  · rintro ⟨mint, authority, hmint, hauthority, rfl⟩
    exact ⟨mint, hmint, authority, hauthority, rfl⟩

/-- A missing or empty text is left out. -/
theorem optionalPublicKey_key {text key : Option String} :
    optionalPublicKey umi (text.map .key) = .ok key ↔
      (∀ address ∈ text.filter (· ≠ ""), umi.publicKey address = .ok address) ∧
        key = text.filter (· ≠ "") := by
  rw [optionalPublicKey]
  cases text with
  | none => simp [AssetRef.truthy, Except.pure_eq_ok, eq_comm (a := key)]
  | some address =>
      by_cases hempty : address = ""
      · simp [AssetRef.truthy, hempty, Option.filter, Except.pure_eq_ok, eq_comm (a := key)]
      · have htruthy : AssetRef.truthy (some (.key address)) = true := by
          simpa [AssetRef.truthy] using hempty
        have hfilter : (some address).filter (· ≠ "") = some address := by
          simp [Option.filter, hempty]
        rw [Option.map_some, if_pos htruthy, hfilter, mapM_some_ok]
        constructor
        · rintro ⟨k, hk, rfl⟩
          cases umi.publicKey_eq hk
          exact ⟨fun _ hmem => Option.mem_some_iff.mp hmem ▸ hk, rfl⟩
        · rintro ⟨haddress, rfl⟩
          exact ⟨address, haddress address rfl, rfl⟩

theorem buildAgentExecution_eq (instructions : TransactionBuilder) (collection : Option String) :
    buildAgentExecution umi pairing instructions collection = (do
      let asset ← asPublicKey umi (.key pairing.agentAsset)
      let key ← optionalPublicKey umi (collection.map .key)
      return [SdkCall.execute asset key instructions]) := by
  rw [buildAgentExecution, optionalPublicKey]
  cases collection with
  | none => rfl
  | some address => by_cases hempty : address = "" <;> simp [truthy, AssetRef.truthy, hempty]

/-- What is wrapped is executed on the agent of the pairing. -/
theorem buildAgentExecution_ok {instructions builder : TransactionBuilder}
    {collection : Option String} :
    buildAgentExecution umi pairing instructions collection = .ok builder ↔
      umi.publicKey pairing.agentAsset = .ok pairing.agentAsset ∧
        (∀ address ∈ collection.filter (· ≠ ""), umi.publicKey address = .ok address) ∧
        builder = [.execute pairing.agentAsset (collection.filter (· ≠ "")) instructions] := by
  simp only [buildAgentExecution_eq, Except.bind_eq_ok, Except.pure_eq_ok, optionalPublicKey_key]
  constructor
  · rintro ⟨asset, hasset, _, ⟨hcollection, rfl⟩, rfl⟩
    cases umi.publicKey_eq hasset
    exact ⟨hasset, hcollection, rfl⟩
  · rintro ⟨hasset, hcollection, rfl⟩
    exact ⟨_, hasset, _, ⟨hcollection, rfl⟩, rfl⟩

/-- The bind is built for an unbound pairing, and executed on its agent. -/
theorem buildSetAgentToken_ok {genesisAccount : AssetRef} {collection : Option AssetRef}
    {set : SetAgentToken} :
    buildSetAgentToken umi pairing genesisAccount collection = .ok set ↔
      pairing.agentTokenBound = false ∧
        umi.publicKey pairing.agentAsset = .ok pairing.agentAsset ∧
        umi.publicKey pairing.assetSigner = .ok pairing.assetSigner ∧
        ∃ genesis collection', asPublicKey umi genesisAccount = .ok genesis ∧
          optionalPublicKey umi collection = .ok collection' ∧
          set = {
            builder := [.execute pairing.agentAsset collection'
              [.setAgentTokenV1 pairing.agentAsset genesis pairing.assetSigner]]
            assetSigner := pairing.assetSigner
            agentIdentity := umi.findAgentIdentityV1Pda pairing.agentAsset } := by
  have heq : buildSetAgentToken umi pairing genesisAccount collection = (do
      if pairing.agentTokenBound then throw alreadyBound
      let asset ← asPublicKey umi (.key pairing.agentAsset)
      let assetSigner ← asPublicKey umi (.key pairing.assetSigner)
      let agentIdentity ← deriveAgentIdentityPda umi (.key asset)
      let genesis ← asPublicKey umi genesisAccount
      let key ← optionalPublicKey umi collection
      return {
        builder := [.execute asset key [.setAgentTokenV1 asset genesis assetSigner]]
        assetSigner, agentIdentity }) := by
    rw [buildSetAgentToken, optionalPublicKey]
    cases AssetRef.truthy collection <;> rfl
  rw [heq]
  cases hbound : pairing.agentTokenBound with
  | true =>
      constructor
      · intro h
        cases h
      · rintro ⟨h, -⟩
        cases h
  | false =>
      simp only [Bool.false_eq_true, if_false, true_and, asPublicKey, deriveAgentIdentityPda,
        Except.bind_eq_ok, Except.pure_eq_ok]
      constructor
      · rintro ⟨asset, hasset, signer, hsigner, _, ⟨_, hasset', rfl⟩, genesis, hgenesis,
          collection', hcollection, rfl⟩
        cases umi.publicKey_eq hasset
        cases umi.publicKey_eq hsigner
        cases umi.publicKey_eq hasset'
        exact ⟨hasset, hsigner, genesis, collection', hgenesis, hcollection, rfl⟩
      · rintro ⟨hasset, hsigner, genesis, collection', hgenesis, hcollection, rfl⟩
        exact ⟨_, hasset, _, hsigner, _, ⟨_, hasset, rfl⟩, genesis, hgenesis, collection',
          hcollection, rfl⟩

/-- A wrapped update is an update whose calls the agent executes. -/
theorem buildExecuteUpdateMetadata_ok {input : UpdateMetadataInput} {collection : Option String}
    {update : UpdateMetadata} :
    buildExecuteUpdateMetadata umi pairing input collection = .ok update ↔
      ∃ inner builder, buildUpdateMetadata umi pairing input = .ok inner ∧
        buildAgentExecution umi pairing inner.builder collection = .ok builder ∧
        update = { inner with builder } := by
  simp only [buildExecuteUpdateMetadata, Except.bind_eq_ok, Except.pure_eq_ok]
  constructor
  · rintro ⟨inner, hinner, builder, hbuilder, rfl⟩
    exact ⟨inner, builder, hinner, hbuilder, rfl⟩
  · rintro ⟨inner, builder, hinner, hbuilder, rfl⟩
    exact ⟨inner, hinner, builder, hbuilder, rfl⟩

end

section

variable {umi : TokenUmi} {pairing : AgentRwaPairing} {input : TransferInput}

/-- A transfer is built if the mint, the Asset Signer and the recipient are addresses. -/
theorem buildTransferTokens_ok {transfer : TransferTokens} :
    buildTransferTokens umi pairing input = .ok transfer ↔
      ∃ mint sourceOwner destOwner, chosenMint umi.toUmi pairing input.mint = .ok mint ∧
        assetSignerKey umi.toUmi pairing = .ok sourceOwner ∧
        asPublicKey umi.toUmi input.destinationOwner = .ok destOwner ∧
        transfer = {
          builder := [.createTokenIfMissing mint destOwner,
            .transferTokens (umi.findAssociatedTokenPda mint sourceOwner)
              (umi.findAssociatedTokenPda mint destOwner) input.amount sourceOwner]
          source := umi.findAssociatedTokenPda mint sourceOwner
          destination := umi.findAssociatedTokenPda mint destOwner
          mint } := by
  simp only [buildTransferTokens, Except.bind_eq_ok, Except.pure_eq_ok]
  constructor
  · rintro ⟨mint, hmint, sourceOwner, hsource, destOwner, hdest, rfl⟩
    exact ⟨mint, sourceOwner, destOwner, hmint, hsource, hdest, rfl⟩
  · rintro ⟨mint, sourceOwner, destOwner, hmint, hsource, hdest, rfl⟩
    exact ⟨mint, hmint, sourceOwner, hsource, destOwner, hdest, rfl⟩

/-- A wrapped transfer is a transfer whose calls the agent executes. -/
theorem buildExecuteTransferTokens_ok {collection : Option String} {transfer : TransferTokens} :
    buildExecuteTransferTokens umi pairing input collection = .ok transfer ↔
      ∃ inner builder, buildTransferTokens umi pairing input = .ok inner ∧
        buildAgentExecution umi.toUmi pairing inner.builder collection = .ok builder ∧
        transfer = { inner with builder } := by
  simp only [buildExecuteTransferTokens, Except.bind_eq_ok, Except.pure_eq_ok]
  constructor
  · rintro ⟨inner, hinner, builder, hbuilder, rfl⟩
    exact ⟨inner, builder, hinner, hbuilder, rfl⟩
  · rintro ⟨inner, builder, hinner, hbuilder, rfl⟩
    exact ⟨inner, hinner, builder, hbuilder, rfl⟩

/-- The account of the Asset Signer, for a mint that was accepted. -/
theorem pairingMintAta_ok {mint : String} (hmint : umi.publicKey mint = .ok mint) {pda : Pda} :
    pairingMintAta umi pairing (.key mint) = .ok pda ↔
      ∃ owner, assetSignerKey umi.toUmi pairing = .ok owner ∧
        pda = umi.findAssociatedTokenPda mint owner := by
  simp only [pairingMintAta, asPublicKey, Except.bind_eq_ok, Except.pure_eq_ok, hmint,
    Except.ok.injEq]
  constructor
  · rintro ⟨_, rfl, owner, howner, rfl⟩
    exact ⟨owner, howner, rfl⟩
  · rintro ⟨owner, howner, rfl⟩
    exact ⟨mint, rfl, owner, howner, rfl⟩

/-- The plan transfers between the accounts `buildTransferTokens` uses. -/
theorem buildRwaTransferOwnership_ok {plan : RwaTransferOwnershipPlan} :
    buildRwaTransferOwnership umi pairing input = .ok plan ↔
      ∃ mint sourceOwner destOwner, chosenMint umi.toUmi pairing input.mint = .ok mint ∧
        assetSignerKey umi.toUmi pairing = .ok sourceOwner ∧
        asPublicKey umi.toUmi input.destinationOwner = .ok destOwner ∧
        plan = {
          programId := rwaProgramId
          «instruction» := "transfer_ownership"
          accounts := {
            asset := pairing.rwaAsset
            «from» := pairing.assetSigner
            fromTokenAccount := (umi.findAssociatedTokenPda mint sourceOwner).address
            toTokenAccount := (umi.findAssociatedTokenPda mint destOwner).address
            mint
            tokenProgram := tokenProgramId
            clock := sysvarClock }
          amount := input.amount } := by
  simp only [buildRwaTransferOwnership, Except.bind_eq_ok, Except.pure_eq_ok]
  constructor
  · rintro ⟨mint, hmint, destOwner, hdest, pda, hpda, rfl⟩
    obtain ⟨sourceOwner, hsource, rfl⟩ := (pairingMintAta_ok (chosenMint_idem hmint)).mp hpda
    exact ⟨mint, sourceOwner, destOwner, hmint, hsource, hdest, rfl⟩
  · rintro ⟨mint, sourceOwner, destOwner, hmint, hsource, hdest, rfl⟩
    exact ⟨mint, hmint, destOwner, hdest, _,
      (pairingMintAta_ok (chosenMint_idem hmint)).mpr ⟨sourceOwner, hsource, rfl⟩, rfl⟩

end

end RwaAgents
