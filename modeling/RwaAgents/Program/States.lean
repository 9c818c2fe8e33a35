import Mathlib.Data.Int.Notation
import RwaAgents.Program.Consts

/-!
# The records of the program and their methods

`states/*.rs` and `utils/validation.rs`.  A method mutates the record it is
called on and may fail after a write, so it is an `EStateM` computation over
the record.

The framework hands a method of a new account the record all of whose bytes are
zero.  `zeroed` is that record.  It needs the key whose bytes are zero, which is
the parameter `zero`.
-/

namespace RwaTokenization

variable {Pubkey : Type}

open EStateM

/-! ## Validation -/

/-- At most `limit` bytes, and not empty. -/
def validateText {σ : Type} (limit : ℕ) (text : String) : EStateM ProgramError σ Unit := do
  require (text.utf8ByteSize ≤ limit) (.custom .invalidMetadata)
  require (text.isEmpty = false) (.custom .invalidMetadata)

/-- What `validateText` admits. -/
def TextWithin (limit : ℕ) (text : String) : Prop :=
  text.utf8ByteSize ≤ limit ∧ text.isEmpty = false

/-- A text passes exactly if it is within the limit, and nothing is written. -/
theorem validateText_ok {σ : Type} {limit : ℕ} {text : String} {u : Unit} {s s' : σ} :
    (validateText limit text).run s = .ok u s' ↔ TextWithin limit text ∧ s = s' := by
  simp only [validateText, require_bind_ok, require_ok, TextWithin, and_assoc]

theorem validateText_bind_ok {σ α : Type} {limit : ℕ} {text : String}
    {f : Unit → EStateM ProgramError σ α} {a : α} {s s' : σ} :
    (validateText limit text >>= f).run s = .ok a s' ↔
      TextWithin limit text ∧ (f ()).run s = .ok a s' := by
  simp only [validateText, bind_assoc, require_bind_ok, TextWithin, and_assoc]

def validateUri {σ : Type} (uri : String) : EStateM ProgramError σ Unit :=
  validateText maxUriLength uri

def validateName {σ : Type} (name : String) : EStateM ProgramError σ Unit :=
  validateText maxNameLength name

def validateSymbol {σ : Type} (symbol : String) : EStateM ProgramError σ Unit :=
  validateText maxSymbolLength symbol

/-- A description may be empty. -/
def validateDescription {σ : Type} (description : String) : EStateM ProgramError σ Unit :=
  require (description.utf8ByteSize ≤ maxDescriptionLength) (.custom .invalidMetadata)

/-- An asset is worth something. -/
def validateValuation {σ : Type} (valuation : ℕ) : EStateM ProgramError σ Unit :=
  require (valuation > 0) (.custom .invalidConfiguration)

/-! ## The global configuration -/

structure GlobalConfig (Pubkey : Type) where
  authority : Pubkey
  registrationFee : ℕ
  tokenizationFee : ℕ
  /-- Basis points, 10000 is all of it. -/
  platformFeeBps : ℕ
  isInitialized : Bool
  totalAssets : ℕ
  totalTokenizedAssets : ℕ
deriving DecidableEq, Repr

namespace GlobalConfig

def size : ℕ := 8 + 32 + 8 + 8 + 2 + 1 + 8 + 8

/-- What a new account holds, all of whose bytes are zero. -/
def zeroed (zero : Pubkey) : GlobalConfig Pubkey := ⟨zero, 0, 0, 0, false, 0, 0⟩

def init (authority : Pubkey) (registrationFee tokenizationFee platformFeeBps : ℕ) :
    EStateM ProgramError (GlobalConfig Pubkey) Unit := do
  require ((← get).isInitialized = false) (.custom .alreadyInitialized)
  require (platformFeeBps ≤ 10000) (.custom .invalidConfiguration)
  set ({
    authority
    registrationFee
    tokenizationFee
    platformFeeBps
    isInitialized := true
    totalAssets := 0
    totalTokenizedAssets := 0 } : GlobalConfig Pubkey)

theorem init_ok {authority : Pubkey} {registrationFee tokenizationFee platformFeeBps : ℕ} {u : Unit}
    {config config' : GlobalConfig Pubkey} :
    (init authority registrationFee tokenizationFee platformFeeBps).run config = .ok u config' ↔
      config.isInitialized = false ∧ platformFeeBps ≤ 10000 ∧
        config' = ⟨authority, registrationFee, tokenizationFee, platformFeeBps, true, 0, 0⟩ := by
  simp only [init, get_bind_ok, require_bind_ok, set_ok]

/-- The counter panics at its bound. -/
def incrementTotalAssets : EStateM ProgramError (GlobalConfig Pubkey) Unit := do
  let totalAssets ← checkedAdd (← get).totalAssets 1
  modify fun config => { config with totalAssets }

theorem incrementTotalAssets_ok {u : Unit} {config config' : GlobalConfig Pubkey} :
    incrementTotalAssets.run config = .ok u config' ↔
      config.totalAssets + 1 < u64Bound ∧
        config' = { config with totalAssets := config.totalAssets + 1 } := by
  simp only [incrementTotalAssets, get_bind_ok, checkedAdd_bind_ok, modify_ok]

def incrementTotalTokenizedAssets : EStateM ProgramError (GlobalConfig Pubkey) Unit := do
  let totalTokenizedAssets ← checkedAdd (← get).totalTokenizedAssets 1
  modify fun config => { config with totalTokenizedAssets }

theorem incrementTotalTokenizedAssets_ok {u : Unit} {config config' : GlobalConfig Pubkey} :
    incrementTotalTokenizedAssets.run config = .ok u config' ↔
      config.totalTokenizedAssets + 1 < u64Bound ∧
        config' = { config with totalTokenizedAssets := config.totalTokenizedAssets + 1 } := by
  simp only [incrementTotalTokenizedAssets, get_bind_ok, checkedAdd_bind_ok, modify_ok]

end GlobalConfig

/-! ## The asset record -/

structure RwaAsset (Pubkey : Type) where
  assetId : Pubkey
  owner : Pubkey
  assetType : AssetType
  status : AssetStatus
  name : String
  symbol : String
  description : String
  uri : String
  /-- In lamports. -/
  valuation : ℕ
  registeredAt : ℤ
  tokenizedAt : Option ℤ
  /-- Token mint address if tokenized. -/
  mint : Option Pubkey
  isTokenized : Bool
deriving DecidableEq, Repr

namespace RwaAsset

def baseSize : ℕ := 8 + 32 + 32 + 1 + 1 + 4 + 4 + 4 + 4 + 8 + 8 + 9 + 33 + 1

/-- The space the registration allocates. -/
def space : ℕ := 8 + baseSize + 4 + 100 + 4 + 10 + 4 + 500 + 4 + 200

def zeroed (zero : Pubkey) : RwaAsset Pubkey :=
  ⟨zero, zero, .realEstate, .registered, "", "", "", "", 0, 0, none, none, false⟩

def init (assetId owner : Pubkey) (assetType : AssetType) (name symbol description uri : String)
    (valuation : ℕ) (now : ℤ) : EStateM ProgramError (RwaAsset Pubkey) Unit := do
  require (name.utf8ByteSize ≤ maxNameLength) (.custom .invalidMetadata)
  require (symbol.utf8ByteSize ≤ maxSymbolLength) (.custom .invalidMetadata)
  require (description.utf8ByteSize ≤ maxDescriptionLength) (.custom .invalidMetadata)
  require (uri.utf8ByteSize ≤ maxUriLength) (.custom .invalidMetadata)
  set ({
    assetId
    owner
    assetType
    status := .registered
    name
    symbol
    description
    uri
    valuation
    registeredAt := now
    tokenizedAt := none
    mint := none
    isTokenized := false } : RwaAsset Pubkey)

theorem init_ok {assetId owner : Pubkey} {assetType : AssetType}
    {name symbol description uri : String} {valuation : ℕ} {now : ℤ} {u : Unit}
    {asset asset' : RwaAsset Pubkey} :
    (init assetId owner assetType name symbol description uri valuation now).run asset =
        .ok u asset' ↔
      name.utf8ByteSize ≤ maxNameLength ∧ symbol.utf8ByteSize ≤ maxSymbolLength ∧
        description.utf8ByteSize ≤ maxDescriptionLength ∧ uri.utf8ByteSize ≤ maxUriLength ∧
        asset' = ⟨assetId, owner, assetType, .registered, name, symbol, description, uri, valuation,
          now, none, none, false⟩ := by
  simp only [init, require_bind_ok, set_ok]

/-- An asset is tokenized once, while it is registered, and becomes active. -/
def tokenize (mint : Pubkey) (now : ℤ) : EStateM ProgramError (RwaAsset Pubkey) Unit := do
  require ((← get).isTokenized = false) (.custom .assetAlreadyTokenized)
  require ((← get).status = .registered) (.custom .invalidAssetStatus)
  modify fun asset => { asset with
    isTokenized := true
    mint := some mint
    tokenizedAt := some now
    status := .active }

/-- The record of the asset once tokenized. -/
def tokenized (asset : RwaAsset Pubkey) (mint : Pubkey) (now : ℤ) : RwaAsset Pubkey :=
  { asset with isTokenized := true, mint := some mint, tokenizedAt := some now, status := .active }

theorem tokenize_ok {mint : Pubkey} {now : ℤ} {u : Unit} {asset asset' : RwaAsset Pubkey} :
    (tokenize mint now).run asset = .ok u asset' ↔
      asset.isTokenized = false ∧ asset.status = .registered ∧
        asset' = asset.tokenized mint now := by
  simp only [tokenize, get_bind_ok, require_bind_ok, modify_ok, tokenized]

/-- Any status is written.  Which ones are allowed is for the instruction to say. -/
def updateStatus (status : AssetStatus) : EStateM ProgramError (RwaAsset Pubkey) Unit :=
  modify fun asset => { asset with status }

theorem updateStatus_ok {status : AssetStatus} {u : Unit} {asset asset' : RwaAsset Pubkey} :
    (updateStatus status).run asset = .ok u asset' ↔ asset' = { asset with status } := by
  rw [updateStatus, modify_ok]

/-- One of the three replacements of `update_metadata`. -/
def replaceText (limit : ℕ) (write : RwaAsset Pubkey → String → RwaAsset Pubkey) :
    Option String → EStateM ProgramError (RwaAsset Pubkey) Unit
  | some text => do
      require (text.utf8ByteSize ≤ limit) (.custom .invalidMetadata)
      modify fun asset => write asset text
  | none => pure ()

/-- The texts are replaced one after the other, and one that is too long ends it. -/
def updateMetadata (name description uri : Option String) :
    EStateM ProgramError (RwaAsset Pubkey) Unit := do
  replaceText maxNameLength (fun asset name => { asset with name }) name
  replaceText maxDescriptionLength (fun asset description => { asset with description })
    description
  replaceText maxUriLength (fun asset uri => { asset with uri }) uri

/-- A replacement succeeds if the text is missing or within its limit. -/
theorem replaceText_ok {limit : ℕ} {write : RwaAsset Pubkey → String → RwaAsset Pubkey}
    {text : Option String} {u : Unit} {asset asset' : RwaAsset Pubkey} :
    (replaceText limit write text).run asset = .ok u asset' ↔
      (∀ t ∈ text, t.utf8ByteSize ≤ limit) ∧ asset' = text.elim asset (write asset) := by
  cases text with
  | none =>
      rw [replaceText, pure_ok]
      exact ⟨fun h => ⟨fun _ ht => (nomatch ht), h.2.symm⟩, fun h => ⟨rfl, h.2.symm⟩⟩
  | some t =>
      rw [replaceText, require_bind_ok, modify_ok]
      simp only [Option.mem_some_iff, forall_eq', Option.elim_some]

theorem replaceText_bind_ok {α : Type} {limit : ℕ}
    {write : RwaAsset Pubkey → String → RwaAsset Pubkey} {text : Option String}
    {f : Unit → EStateM ProgramError (RwaAsset Pubkey) α} {a : α} {asset asset' : RwaAsset Pubkey} :
    (replaceText limit write text >>= f).run asset = .ok a asset' ↔
      (∀ t ∈ text, t.utf8ByteSize ≤ limit) ∧
        (f ()).run (text.elim asset (write asset)) = .ok a asset' := by
  rw [bind_ok]
  constructor
  · rintro ⟨_, _, hrun, h⟩
    obtain ⟨htext, rfl⟩ := replaceText_ok.mp hrun
    exact ⟨htext, h⟩
  · rintro ⟨htext, h⟩
    exact ⟨(), _, replaceText_ok.mpr ⟨htext, rfl⟩, h⟩

/-- The record with the provided texts replaced. -/
def withMetadata (asset : RwaAsset Pubkey) (name description uri : Option String) :
    RwaAsset Pubkey :=
  { asset with
    name := name.getD asset.name
    description := description.getD asset.description
    uri := uri.getD asset.uri }

/-- An update succeeds exactly if every text that is given is within its limit. -/
theorem updateMetadata_ok {name description uri : Option String} {u : Unit}
    {asset asset' : RwaAsset Pubkey} :
    (updateMetadata name description uri).run asset = .ok u asset' ↔
      (∀ t ∈ name, t.utf8ByteSize ≤ maxNameLength) ∧
        (∀ t ∈ description, t.utf8ByteSize ≤ maxDescriptionLength) ∧
        (∀ t ∈ uri, t.utf8ByteSize ≤ maxUriLength) ∧
        asset' = asset.withMetadata name description uri := by
  rw [updateMetadata, replaceText_bind_ok, replaceText_bind_ok, replaceText_ok]
  cases name <;> cases description <;> cases uri <;> rfl

end RwaAsset

/-! ## The tokenization record -/

structure Tokenization (Pubkey : Type) where
  assetId : Pubkey
  mint : Pubkey
  totalSupply : ℕ
  tokenizedAt : ℤ
  tokenizationAuthority : Pubkey
deriving DecidableEq, Repr

namespace Tokenization

def size : ℕ := 8 + 32 + 32 + 8 + 8 + 32

def zeroed (zero : Pubkey) : Tokenization Pubkey := ⟨zero, zero, 0, 0, zero⟩

def init (assetId mint : Pubkey) (totalSupply : ℕ) (tokenizationAuthority : Pubkey) (now : ℤ) :
    EStateM ProgramError (Tokenization Pubkey) Unit := do
  require (totalSupply > 0) (.custom .invalidTotalSupply)
  set (⟨assetId, mint, totalSupply, now, tokenizationAuthority⟩ : Tokenization Pubkey)

theorem init_ok {assetId mint : Pubkey} {totalSupply : ℕ} {tokenizationAuthority : Pubkey}
    {now : ℤ} {u : Unit} {tokenization tokenization' : Tokenization Pubkey} :
    (init assetId mint totalSupply tokenizationAuthority now).run tokenization =
        .ok u tokenization' ↔
      totalSupply > 0 ∧
        tokenization' = ⟨assetId, mint, totalSupply, now, tokenizationAuthority⟩ := by
  simp only [init, require_bind_ok, set_ok]

end Tokenization

end RwaTokenization
