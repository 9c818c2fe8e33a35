import RwaAgents.Program.TokenProgram

/-!
# The eight instructions

`instructions/*.rs` and `events/events.rs`.  An instruction is given its
accounts by address.  `tryAccounts` is what the framework generates from the
account constraints: accounts that exist are deserialized in order, new ones
are created in order, and then the remaining constraints are checked.
`process` is the body of the source.

An instruction emits at most one event, which is what it returns.
-/

namespace RwaTokenization

open EStateM

variable {Pubkey : Type}

/-- What the program emits.  The first field of an event is the address of the asset
account, although the source calls it the id. -/
inductive Event (Pubkey : Type)
  | assetRegistered (assetId owner : Pubkey) (assetType : AssetType) (name : String)
      (registeredAt : ℤ)
  | assetTokenized (assetId mint : Pubkey) (totalSupply : ℕ) (tokenizedAt : ℤ)
  | ownershipTransferred (assetId «from» «to» : Pubkey) (amount : ℕ)
  | assetMetadataUpdated (assetId : Pubkey) (updatedAt : ℤ)
  | assetStatusChanged (assetId : Pubkey) (oldStatus newStatus : AssetStatus)
  | assetRedeemed (assetId mint : Pubkey) (amount : ℕ) (redeemedAt : ℤ)
  | ownershipVerified (assetId owner : Pubkey) (balance : ℕ) (verifiedAt : ℤ)
deriving DecidableEq, Repr

/-! ## Derived addresses -/

section

variable [Runtime Pubkey]

/-- The one configuration. -/
def globalConfigPda : Pubkey := Runtime.findProgramAddress ⟨globalConfigSeed, none⟩

/-- The account of the asset with this id. -/
def assetPda (assetId : Pubkey) : Pubkey := Runtime.findProgramAddress ⟨assetSeed, some assetId⟩

/-- The tokenization of an asset.  It is the mint authority as well. -/
def tokenizationPda (asset : Pubkey) : Pubkey :=
  Runtime.findProgramAddress ⟨tokenizationSeed, some asset⟩

theorem tokenizationSeed_short : tokenizationSeed.utf8ByteSize < 32 := by decide

/-- No two assets share a tokenization. -/
theorem tokenizationPda_inj {a b : Pubkey} : tokenizationPda a = tokenizationPda b ↔ a = b := by
  refine ⟨fun h => ?_, fun h => by rw [h]⟩
  have hseeds := Runtime.findProgramAddress_injective tokenizationSeed_short
    tokenizationSeed_short h
  rw [Seeds.mk.injEq] at hseeds
  exact Option.some.inj hseeds.2

end

variable [DecidableEq Pubkey] [Runtime Pubkey] (ctx : Context Pubkey)

/-! ## Initialize -/

structure InitializeParams where
  registrationFee : ℕ
  tokenizationFee : ℕ
  platformFeeBps : ℕ
deriving DecidableEq, Repr

structure Initialize (Pubkey : Type) where
  globalConfig : Pubkey
  authority : Pubkey

namespace Initialize

variable (accs : Initialize Pubkey)

/-- The authority pays for the configuration, which must not exist yet. -/
def tryAccounts : ProgramM Pubkey Unit := do
  require (accs.authority ∈ ctx.signers) (.anchor .accountNotSigner)
  require (accs.globalConfig = globalConfigPda) (.anchor .constraintSeeds)
  createAccount ctx.signers accs.authority accs.globalConfig GlobalConfig.size
    (.globalConfig (.zeroed Runtime.zero))

/-- Whoever comes first chooses the fees. -/
def process (params : InitializeParams) : ProgramM Pubkey (Option (Event Pubkey)) := do
  require (params.platformFeeBps ≤ 10000) (.custom .invalidConfiguration)
  onGlobalConfig accs.globalConfig (GlobalConfig.init accs.authority params.registrationFee
    params.tokenizationFee params.platformFeeBps)
  return none

end Initialize

/-! ## Register an asset -/

structure RegisterAssetArgs where
  assetType : AssetType
  name : String
  symbol : String
  description : String
  uri : String
  valuation : ℕ
deriving DecidableEq, Repr

structure RegisterAsset (Pubkey : Type) where
  globalConfig : Pubkey
  /-- Any key.  It is only a seed. -/
  assetId : Pubkey
  asset : Pubkey
  owner : Pubkey

namespace RegisterAsset

variable (accs : RegisterAsset Pubkey)

/-- The owner pays for the account of the asset, at the address of its id. -/
def tryAccounts : ProgramM Pubkey Unit := do
  let _ ← loadGlobalConfig accs.globalConfig
  require (accs.owner ∈ ctx.signers) (.anchor .accountNotSigner)
  require (accs.asset = assetPda accs.assetId) (.anchor .constraintSeeds)
  createAccount ctx.signers accs.owner accs.asset RwaAsset.space
    (.rwaAsset (.zeroed Runtime.zero))
  require (accs.globalConfig = globalConfigPda) (.anchor .constraintSeeds)

/-- The texts are checked, the fee is paid and the record is written, in that order. -/
def process (args : RegisterAssetArgs) : ProgramM Pubkey (Option (Event Pubkey)) := do
  validateName args.name
  validateSymbol args.symbol
  validateDescription args.description
  validateUri args.uri
  validateValuation args.valuation
  let config ← loadGlobalConfig accs.globalConfig
  require ((← get).lamports accs.owner ≥ config.registrationFee)
    (.custom .registrationFeeNotPaid)
  systemTransfer ctx.signers accs.owner accs.globalConfig config.registrationFee
  onRwaAsset accs.asset (RwaAsset.init accs.assetId accs.owner args.assetType args.name args.symbol
    args.description args.uri args.valuation ctx.unixTimestamp)
  onGlobalConfig accs.globalConfig GlobalConfig.incrementTotalAssets
  return some (.assetRegistered accs.asset accs.owner args.assetType args.name ctx.unixTimestamp)

end RegisterAsset

/-! ## Tokenize an asset -/

structure TokenizeAsset (Pubkey : Type) where
  globalConfig : Pubkey
  asset : Pubkey
  mint : Pubkey
  tokenization : Pubkey
  ownerTokenAccount : Pubkey
  owner : Pubkey
  tokenProgram : TokenProgram

namespace TokenizeAsset

variable (accs : TokenizeAsset Pubkey)

/-- The mint has no freeze authority. -/
def initMint : ProgramM Pubkey Unit :=
  accs.tokenProgram.initializeMint ctx.signers accs.owner accs.mint defaultDecimals
    accs.tokenization none

def initTokenization : ProgramM Pubkey Unit := do
  require (accs.tokenization = tokenizationPda accs.asset) (.anchor .constraintSeeds)
  createAccount ctx.signers accs.owner accs.tokenization Tokenization.size
    (.tokenization (.zeroed Runtime.zero))

/-- The account that takes the whole supply. -/
def initOwnerTokenAccount : ProgramM Pubkey Unit := do
  require (accs.ownerTokenAccount =
    Runtime.associatedTokenAddress accs.owner accs.tokenProgram accs.mint)
    (.anchor .constraintAssociated)
  accs.tokenProgram.createAssociated ctx.signers accs.owner accs.owner accs.mint

/-- The three new accounts are made before the asset is checked. -/
def tryAccounts : ProgramM Pubkey Unit := do
  let _ ← loadGlobalConfig accs.globalConfig
  let asset ← loadRwaAsset accs.asset
  require (accs.owner ∈ ctx.signers) (.anchor .accountNotSigner)
  accs.initMint ctx
  accs.initTokenization ctx
  accs.initOwnerTokenAccount ctx
  require (accs.globalConfig = globalConfigPda) (.anchor .constraintSeeds)
  require (accs.asset = assetPda asset.assetId) (.anchor .constraintSeeds)
  require (asset.owner = accs.owner) (.custom .unauthorized)
  require (asset.isTokenized = false) (.custom .assetAlreadyTokenized)

/-- The program signs for the mint authority with the seeds of its address. -/
def mintToOwner (totalSupply : ℕ) : ProgramM Pubkey Unit :=
  accs.tokenProgram.mintTo (tokenizationPda accs.asset :: ctx.signers) accs.mint
    accs.ownerTokenAccount accs.tokenization totalSupply

/-- The units are minted before the record of the asset refuses a status that is not
`registered`. -/
def process (totalSupply : ℕ) : ProgramM Pubkey (Option (Event Pubkey)) := do
  require (totalSupply > 0) (.custom .invalidTotalSupply)
  let config ← loadGlobalConfig accs.globalConfig
  require ((← get).lamports accs.owner ≥ config.tokenizationFee)
    (.custom .registrationFeeNotPaid)
  systemTransfer ctx.signers accs.owner accs.globalConfig config.tokenizationFee
  onTokenization accs.tokenization
    (Tokenization.init accs.asset accs.mint totalSupply accs.owner ctx.unixTimestamp)
  accs.mintToOwner ctx totalSupply
  onRwaAsset accs.asset (RwaAsset.tokenize accs.mint ctx.unixTimestamp)
  onGlobalConfig accs.globalConfig GlobalConfig.incrementTotalTokenizedAssets
  return some (.assetTokenized accs.asset accs.mint totalSupply ctx.unixTimestamp)

end TokenizeAsset

/-! ## Transfer ownership -/

structure TransferOwnership (Pubkey : Type) where
  asset : Pubkey
  «from» : Pubkey
  fromTokenAccount : Pubkey
  toTokenAccount : Pubkey
  mint : Pubkey
  tokenProgram : TokenProgram

namespace TransferOwnership

variable (accs : TransferOwnership Pubkey)

/-- Two checks look at the status, and the second never fails behind the first. -/
def tryAccounts : ProgramM Pubkey Unit := do
  let asset ← loadRwaAsset accs.asset
  require (accs.from ∈ ctx.signers) (.anchor .accountNotSigner)
  let fromTokenAccount ← loadTokenAccount accs.fromTokenAccount
  let toTokenAccount ← loadTokenAccount accs.toTokenAccount
  let _ ← loadMint accs.mint
  require (accs.asset = assetPda asset.assetId) (.anchor .constraintSeeds)
  require (asset.isTokenized = true) (.custom .assetNotTokenized)
  require (asset.status = .active) (.custom .invalidAssetStatus)
  require (asset.status ≠ .frozen) (.custom .assetFrozen)
  require (fromTokenAccount.owner = accs.from) (.anchor .constraintRaw)
  require (fromTokenAccount.mint = accs.mint) (.anchor .constraintRaw)
  require (toTokenAccount.mint = accs.mint) (.anchor .constraintRaw)
  require (asset.mint = some accs.mint) (.anchor .constraintRaw)

/-- The event names the token account of the recipient. -/
def process (amount : ℕ) : ProgramM Pubkey (Option (Event Pubkey)) := do
  require (amount > 0) (.custom .insufficientBalance)
  let mint ← loadMint accs.mint
  accs.tokenProgram.transfer ctx.signers accs.fromTokenAccount accs.toTokenAccount accs.from amount
    (some (accs.mint, mint.decimals))
  return some (.ownershipTransferred accs.asset accs.from accs.toTokenAccount amount)

end TransferOwnership

/-! ## Update the metadata of an asset -/

structure UpdateAssetMetadataArgs where
  name : Option String
  description : Option String
  uri : Option String
deriving DecidableEq, Repr

structure UpdateAssetMetadata (Pubkey : Type) where
  asset : Pubkey
  owner : Pubkey

/-- Validate new metadata if provided. -/
def validateIfProvided {σ : Type} (validate : String → EStateM ProgramError σ Unit) :
    Option String → EStateM ProgramError σ Unit
  | some text => validate text
  | none => pure ()

namespace UpdateAssetMetadata

variable (accs : UpdateAssetMetadata Pubkey)

def tryAccounts : ProgramM Pubkey Unit := do
  let asset ← loadRwaAsset accs.asset
  require (accs.owner ∈ ctx.signers) (.anchor .accountNotSigner)
  require (accs.asset = assetPda asset.assetId) (.anchor .constraintSeeds)
  require (asset.owner = accs.owner) (.custom .unauthorized)

/-- Every text is checked before the first one is written. -/
def process (args : UpdateAssetMetadataArgs) : ProgramM Pubkey (Option (Event Pubkey)) := do
  validateIfProvided validateName args.name
  validateIfProvided validateDescription args.description
  validateIfProvided validateUri args.uri
  onRwaAsset accs.asset (RwaAsset.updateMetadata args.name args.description args.uri)
  return some (.assetMetadataUpdated accs.asset ctx.unixTimestamp)

end UpdateAssetMetadata

/-! ## Verify ownership -/

structure VerifyOwnership (Pubkey : Type) where
  asset : Pubkey
  /-- Any account. -/
  tokenAccount : Pubkey
  /-- Any key. -/
  owner : Pubkey
  tokenProgram : TokenProgram

namespace VerifyOwnership

variable (accs : VerifyOwnership Pubkey)

/-- The token account and the owner are not looked at. -/
def tryAccounts : ProgramM Pubkey Unit := do
  let asset ← loadRwaAsset accs.asset
  require (accs.asset = assetPda asset.assetId) (.anchor .constraintSeeds)
  require (asset.isTokenized = true) (.custom .assetNotTokenized)

/-- The balance of the source is a placeholder. -/
def process : ProgramM Pubkey (Option (Event Pubkey)) := do
  let balance := 0
  return some (.ownershipVerified accs.asset accs.owner balance ctx.unixTimestamp)

end VerifyOwnership

/-! ## Redeem an asset -/

structure RedeemAsset (Pubkey : Type) where
  asset : Pubkey
  tokenization : Pubkey
  owner : Pubkey
  ownerTokenAccount : Pubkey
  mint : Pubkey
  tokenProgram : TokenProgram

namespace RedeemAsset

variable (accs : RedeemAsset Pubkey)

/-- The status of the asset is not looked at. -/
def tryAccounts : ProgramM Pubkey Unit := do
  let asset ← loadRwaAsset accs.asset
  let tokenization ← loadTokenization accs.tokenization
  require (accs.owner ∈ ctx.signers) (.anchor .accountNotSigner)
  let ownerTokenAccount ← loadTokenAccount accs.ownerTokenAccount
  let _ ← loadMint accs.mint
  require (accs.asset = assetPda asset.assetId) (.anchor .constraintSeeds)
  require (asset.isTokenized = true) (.custom .assetNotTokenized)
  require (accs.tokenization = tokenizationPda accs.asset) (.anchor .constraintSeeds)
  require (ownerTokenAccount.owner = accs.owner) (.anchor .constraintRaw)
  require (ownerTokenAccount.mint = accs.mint) (.anchor .constraintRaw)
  require (asset.mint = some accs.mint) (.anchor .constraintRaw)
  require (tokenization.mint = accs.mint) (.anchor .constraintRaw)

/-- Units are burnt.  The record of the asset stays as it is. -/
def process (amount : ℕ) : ProgramM Pubkey (Option (Event Pubkey)) := do
  require (amount > 0) (.custom .insufficientBalance)
  accs.tokenProgram.burn ctx.signers accs.ownerTokenAccount accs.mint accs.owner amount
  return some (.assetRedeemed accs.asset accs.mint amount ctx.unixTimestamp)

end RedeemAsset

/-! ## Set the status of an asset -/

structure SetAssetStatus (Pubkey : Type) where
  asset : Pubkey
  owner : Pubkey

namespace SetAssetStatus

variable (accs : SetAssetStatus Pubkey)

def tryAccounts : ProgramM Pubkey Unit := do
  let asset ← loadRwaAsset accs.asset
  require (accs.owner ∈ ctx.signers) (.anchor .accountNotSigner)
  require (accs.asset = assetPda asset.assetId) (.anchor .constraintSeeds)
  require (asset.owner = accs.owner) (.custom .unauthorized)

/-- The transition is judged by the old status alone. -/
def validateTransition (oldStatus _status : AssetStatus) : ProgramM Pubkey Unit :=
  match oldStatus with
  | .liquidated => throw (.custom .invalidAssetStatus)
  | .redeemed => throw (.custom .invalidAssetStatus)
  | _ => pure ()

def process (status : AssetStatus) : ProgramM Pubkey (Option (Event Pubkey)) := do
  let oldStatus := (← loadRwaAsset accs.asset).status
  validateTransition oldStatus status
  onRwaAsset accs.asset (RwaAsset.updateStatus status)
  return some (.assetStatusChanged accs.asset oldStatus status)

end SetAssetStatus

end RwaTokenization
