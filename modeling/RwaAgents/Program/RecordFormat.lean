import RwaAgents.Library.Codec
import RwaAgents.Program.Kinds
import RwaAgents.Program.Space

/-!
# The format of the records

The codecs of the three records, put together from the fields in the order of the
source.  They write what `serialize` writes.  An account of the program begins with a
discriminator that tells which record is behind it (`recordCodec`).

A key is a value of its own here, so a `KeyFormat` says which bytes it has.
-/

namespace RwaTokenization

variable {Pubkey : Type}

/-! ## The formats of the records -/

/-- How keys are written.  Those in use have different bytes. -/
structure KeyFormat (Pubkey : Type) where
  bytes : Pubkey → Vector UInt8 32
  used : List Pubkey
  injective : ∀ a ∈ used, ∀ b ∈ used, bytes a = bytes b → a = b

/-- A key is its 32 bytes. -/
def KeyFormat.key (K : KeyFormat Pubkey) : Codec Pubkey := .table K.bytes K.used K.injective

/-- The variants in the order of the source. -/
def AssetType.ofIndex : ℕ → Option AssetType
  | 0 => some realEstate
  | 1 => some commodity
  | 2 => some artwork
  | 3 => some intellectualProperty
  | 4 => some businessEquity
  | 5 => some other
  | _ => none

def AssetType.index : AssetType → ℕ
  | realEstate => 0
  | commodity => 1
  | artwork => 2
  | intellectualProperty => 3
  | businessEquity => 4
  | other => 5

def AssetType.codec : Codec AssetType :=
  .enum ofIndex index (fun a => by cases a <;> decide) fun n a => by
    constructor
    · intro h
      unfold ofIndex at h
      split at h <;> cases h <;> rfl
    · rintro rfl
      cases a <;> rfl

def AssetStatus.ofIndex : ℕ → Option AssetStatus
  | 0 => some registered
  | 1 => some active
  | 2 => some frozen
  | 3 => some liquidated
  | 4 => some redeemed
  | _ => none

def AssetStatus.index : AssetStatus → ℕ
  | registered => 0
  | active => 1
  | frozen => 2
  | liquidated => 3
  | redeemed => 4

def AssetStatus.codec : Codec AssetStatus :=
  .enum ofIndex index (fun a => by cases a <;> decide) fun n a => by
    constructor
    · intro h
      unfold ofIndex at h
      split at h <;> cases h <;> rfl
    · rintro rfl
      cases a <;> rfl

@[simp] theorem AssetType.codec_encode (a : AssetType) : codec.encode a = a.serialize := by
  cases a <;> rfl

@[simp] theorem AssetStatus.codec_encode (a : AssetStatus) : codec.encode a = a.serialize := by
  cases a <;> rfl

@[simp] theorem AssetType.codec_fits (a : AssetType) : codec.Fits a := trivial

@[simp] theorem AssetStatus.codec_fits (a : AssetStatus) : codec.Fits a := trivial

namespace KeyFormat

variable (K : KeyFormat Pubkey)

/-- The fields of the configuration, in the order of the source. -/
def globalConfig : Codec (GlobalConfig Pubkey) :=
  (K.key.pair <| (Codec.uint 8).pair <| (Codec.uint 8).pair <| (Codec.uint 2).pair <|
    Codec.bool.pair <| (Codec.uint 8).pair <| Codec.uint 8).iso
    (fun (a, b, c, d, e, f, g) => ⟨a, b, c, d, e, f, g⟩)
    (fun r => (r.authority, r.registrationFee, r.tokenizationFee, r.platformFeeBps,
      r.isInitialized, r.totalAssets, r.totalTokenizedAssets)) (fun _ => rfl) fun _ => rfl

/-- The fields of an asset, in the order of the source. -/
def rwaAsset : Codec (RwaAsset Pubkey) :=
  (K.key.pair <| K.key.pair <| AssetType.codec.pair <| AssetStatus.codec.pair <|
    Codec.string.pair <| Codec.string.pair <| Codec.string.pair <| Codec.string.pair <|
    (Codec.uint 8).pair <| Codec.int64.pair <| Codec.int64.option.pair <|
    K.key.option.pair <| Codec.bool).iso
    (fun (a, b, c, d, e, f, g, h, i, j, k, l, m) => ⟨a, b, c, d, e, f, g, h, i, j, k, l, m⟩)
    (fun r => (r.assetId, r.owner, r.assetType, r.status, r.name, r.symbol, r.description, r.uri,
      r.valuation, r.registeredAt, r.tokenizedAt, r.mint, r.isTokenized))
    (fun _ => rfl) fun _ => rfl

/-- The fields of a tokenization, in the order of the source. -/
def tokenization : Codec (Tokenization Pubkey) :=
  (K.key.pair <| K.key.pair <| (Codec.uint 8).pair <| Codec.int64.pair K.key).iso
    (fun (a, b, c, d, e) => ⟨a, b, c, d, e⟩)
    (fun r => (r.assetId, r.mint, r.totalSupply, r.tokenizedAt, r.tokenizationAuthority))
    (fun _ => rfl) fun _ => rfl

theorem key_encode : K.key.encode = serializeKey K.bytes := rfl

@[simp] theorem key_fits {key : Pubkey} : K.key.Fits key ↔ key ∈ K.used := Iff.rfl

theorem globalConfig_encode (config : GlobalConfig Pubkey) :
    K.globalConfig.encode config = config.serialize K.bytes := by
  simp [globalConfig, GlobalConfig.serialize, key_encode, Borsh.u64, Borsh.u16]

/-- The codec of an asset writes what the record serializes to, and so do the other two. -/
theorem rwaAsset_encode (asset : RwaAsset Pubkey) :
    K.rwaAsset.encode asset = asset.serialize K.bytes := by
  simp [rwaAsset, RwaAsset.serialize, key_encode, Borsh.u64]

theorem tokenization_encode (record : Tokenization Pubkey) :
    K.tokenization.encode record = record.serialize K.bytes := by
  simp [tokenization, Tokenization.serialize, key_encode, Borsh.u64]

/-! ### What fits -/

variable {K}

/-- A configuration fits if its numbers are in the range of their types. -/
theorem globalConfig_fits {config : GlobalConfig Pubkey} :
    K.globalConfig.Fits config ↔ config.authority ∈ K.used ∧ config.registrationFee < u64Bound ∧
      config.tokenizationFee < u64Bound ∧ config.platformFeeBps < 2 ^ 16 ∧
      config.totalAssets < u64Bound ∧ config.totalTokenizedAssets < u64Bound := by
  simp [globalConfig, u64Bound]

variable (K) in
/-- What holds of an asset that fits, apart from its texts. -/
structure AssetFits (asset : RwaAsset Pubkey) : Prop where
  assetId : asset.assetId ∈ K.used
  owner : asset.owner ∈ K.used
  valuation : asset.valuation < u64Bound
  registeredAt : Codec.int64.Fits asset.registeredAt
  tokenizedAt : ∀ time ∈ asset.tokenizedAt, Codec.int64.Fits time
  mint : ∀ key ∈ asset.mint, key ∈ K.used

/-- Valid texts are short enough for their length prefix. -/
theorem rwaAsset_fits {asset : RwaAsset Pubkey} (h : K.AssetFits asset)
    (hvalid : asset.MetadataValid) : K.rwaAsset.Fits asset := by
  have hname : asset.name.utf8ByteSize ≤ 100 := hvalid.name.1
  have hsymbol : asset.symbol.utf8ByteSize ≤ 10 := hvalid.symbol.1
  have hdescription : asset.description.utf8ByteSize ≤ 500 := hvalid.description
  have huri : asset.uri.utf8ByteSize ≤ 200 := hvalid.uri.1
  refine ⟨h.assetId, h.owner, trivial, trivial, ?_, ?_, ?_, ?_, h.valuation, h.registeredAt,
    Codec.option_fits.mpr h.tokenizedAt, Codec.option_fits.mpr h.mint, trivial⟩ <;>
    rw [Codec.string_fits] <;> dsimp only <;> omega

theorem tokenization_fits {record : Tokenization Pubkey} :
    K.tokenization.Fits record ↔ record.assetId ∈ K.used ∧ record.mint ∈ K.used ∧
      record.totalSupply < u64Bound ∧ Codec.int64.Fits record.tokenizedAt ∧
      record.tokenizationAuthority ∈ K.used := Iff.rfl

end KeyFormat

/-! ## Accounts of the program -/

inductive RecordKind
  | globalConfig
  | rwaAsset
  | tokenization
deriving DecidableEq, Repr

/-- The first eight bytes of an account, which tell its type. -/
structure Discriminators where
  of : RecordKind → Vector UInt8 8
  injective : ∀ a b, of a = of b → a = b

def Discriminators.kind (D : Discriminators) : Codec RecordKind :=
  .table D.of [.globalConfig, .rwaAsset, .tokenization] fun a _ b _ => D.injective a b

theorem Discriminators.kind_fits (D : Discriminators) (k : RecordKind) : D.kind.Fits k := by
  cases k <;> simp [kind]

/-- A record of the program. -/
inductive Record (Pubkey : Type)
  | globalConfig (config : GlobalConfig Pubkey)
  | rwaAsset (asset : RwaAsset Pubkey)
  | tokenization (record : Tokenization Pubkey)

namespace Record

def kind : Record Pubkey → RecordKind
  | globalConfig _ => .globalConfig
  | rwaAsset _ => .rwaAsset
  | tokenization _ => .tokenization

def data : Record Pubkey → AccountData Pubkey
  | globalConfig config => .globalConfig config
  | rwaAsset asset => .rwaAsset asset
  | tokenization record => .tokenization record

/-- The space the account of a record is created with. -/
def space : Record Pubkey → ℕ
  | globalConfig _ => GlobalConfig.size
  | rwaAsset _ => RwaAsset.space
  | tokenization _ => Tokenization.size

def serialize (keyBytes : Pubkey → Vector UInt8 32) : Record Pubkey → List UInt8
  | globalConfig config => config.serialize keyBytes
  | rwaAsset asset => asset.serialize keyBytes
  | tokenization record => record.serialize keyBytes

/-- What is behind a discriminator. -/
abbrev Body (Pubkey : Type) : RecordKind → Type
  | .globalConfig => GlobalConfig Pubkey
  | .rwaAsset => RwaAsset Pubkey
  | .tokenization => Tokenization Pubkey

def ofBody : (Σ kind, Body Pubkey kind) → Record Pubkey
  | ⟨.globalConfig, config⟩ => globalConfig config
  | ⟨.rwaAsset, asset⟩ => rwaAsset asset
  | ⟨.tokenization, record⟩ => tokenization record

def body : Record Pubkey → Σ kind, Body Pubkey kind
  | globalConfig config => ⟨.globalConfig, config⟩
  | rwaAsset asset => ⟨.rwaAsset, asset⟩
  | tokenization record => ⟨.tokenization, record⟩

end Record

section

variable (D : Discriminators) (K : KeyFormat Pubkey)

def KeyFormat.body : (kind : RecordKind) → Codec (Record.Body Pubkey kind)
  | .globalConfig => K.globalConfig
  | .rwaAsset => K.rwaAsset
  | .tokenization => K.tokenization

/-- The bytes of an account of the program. -/
def recordCodec : Codec (Record Pubkey) :=
  (D.kind.sigma K.body).iso Record.ofBody Record.body
    (fun p => by obtain ⟨_ | _ | _, r⟩ := p <;> rfl) fun r => by cases r <;> rfl

/-- An account begins with the discriminator of its record. -/
theorem recordCodec_encode (r : Record Pubkey) :
    (recordCodec D K).encode r = (D.of r.kind).toList ++ r.serialize K.bytes := by
  cases r with
  | globalConfig config => exact congrArg _ (K.globalConfig_encode config)
  | rwaAsset asset => exact congrArg _ (K.rwaAsset_encode asset)
  | tokenization record => exact congrArg _ (K.tokenization_encode record)

end

/-- The record fits its format and its texts are valid. -/
def Record.Fits (K : KeyFormat Pubkey) : Record Pubkey → Prop
  | globalConfig config => K.globalConfig.Fits config
  | rwaAsset asset => K.AssetFits asset ∧ asset.MetadataValid
  | tokenization record => K.tokenization.Fits record

theorem Record.Fits.codec {D : Discriminators} {K : KeyFormat Pubkey} {r : Record Pubkey}
    (h : r.Fits K) : (recordCodec D K).Fits r := by
  cases r with
  | globalConfig config => exact ⟨D.kind_fits _, h⟩
  | rwaAsset asset => exact ⟨D.kind_fits _, KeyFormat.rwaAsset_fits h.1 h.2⟩
  | tokenization record => exact ⟨D.kind_fits _, h⟩

/-- A record that fits does not outgrow its account. -/
theorem Record.Fits.length_le {D : Discriminators} {K : KeyFormat Pubkey} {r : Record Pubkey}
    (h : r.Fits K) : ((recordCodec D K).encode r).length ≤ r.space := by
  rw [recordCodec_encode, List.length_append, Vector.length_toList]
  cases r with
  | globalConfig config => exact (config.serialize_length K.bytes).le
  | rwaAsset asset => exact RwaAsset.serialize_length_le K.bytes h.2
  | tokenization record => exact (record.serialize_length K.bytes).le

/-! ## New accounts -/

/-- The record of a new account, all of whose bytes are zero. -/
def Record.zeroed (zero : Pubkey) : RecordKind → Record Pubkey
  | .globalConfig => .globalConfig (.zeroed zero)
  | .rwaAsset => .rwaAsset (.zeroed zero)
  | .tokenization => .tokenization (.zeroed zero)

/-- Behind the eight bytes of the discriminator, the zeros of a new account are the bytes
of the record that `init` is run on. -/
theorem Record.zeroed_serialize {keyBytes : Pubkey → Vector UInt8 32} {zero : Pubkey}
    (hzero : keyBytes zero = Vector.replicate 32 0) (kind : RecordKind) :
    ∃ n, List.replicate ((zeroed zero kind).space - 8) 0 =
      (zeroed zero kind).serialize keyBytes ++ List.replicate n 0 := by
  have hkey : serializeKey keyBytes zero = List.replicate 32 0 := by
    rw [serializeKey, hzero]
    rfl
  cases kind with
  | globalConfig =>
      refine ⟨0, ?_⟩
      simp only [zeroed, serialize, GlobalConfig.serialize, GlobalConfig.zeroed, hkey]
      rfl
  | rwaAsset =>
      have hbytes : (RwaAsset.zeroed zero).serialize keyBytes = List.replicate 101 0 := by
        simp only [RwaAsset.serialize, RwaAsset.zeroed, hkey]
        rfl
      refine ⟨874, ?_⟩
      rw [zeroed, serialize, hbytes, List.replicate_append_replicate]
      rfl
  | tokenization =>
      refine ⟨0, ?_⟩
      simp only [zeroed, serialize, Tokenization.serialize, Tokenization.zeroed, hkey]
      rfl

end RwaTokenization
