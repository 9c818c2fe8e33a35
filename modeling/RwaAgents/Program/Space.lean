import RwaAgents.Library.Borsh
import RwaAgents.Program.Metadata

/-!
# The space of the records

A record is kept in an account whose size was fixed when it was created: eight bytes
of a discriminator and the record in the Borsh format.  An asset grows when it is
tokenized and when its texts are replaced.

Every record fits the space its account was created with (`records_fit`).
-/

namespace RwaTokenization

variable {Pubkey : Type} (keyBytes : Pubkey → Vector UInt8 32)

/-! ## The bytes of the records -/

def serializeKey (key : Pubkey) : List UInt8 := (keyBytes key).toList

def AssetType.serialize : AssetType → List UInt8
  | realEstate => Borsh.variant 0
  | commodity => Borsh.variant 1
  | artwork => Borsh.variant 2
  | intellectualProperty => Borsh.variant 3
  | businessEquity => Borsh.variant 4
  | other => Borsh.variant 5

def AssetStatus.serialize : AssetStatus → List UInt8
  | registered => Borsh.variant 0
  | active => Borsh.variant 1
  | frozen => Borsh.variant 2
  | liquidated => Borsh.variant 3
  | redeemed => Borsh.variant 4

/-- The fields in the order of the source, here and below. -/
def GlobalConfig.serialize (config : GlobalConfig Pubkey) : List UInt8 :=
  serializeKey keyBytes config.authority ++ Borsh.u64 config.registrationFee ++
    Borsh.u64 config.tokenizationFee ++ Borsh.u16 config.platformFeeBps ++
    Borsh.bool config.isInitialized ++ Borsh.u64 config.totalAssets ++
    Borsh.u64 config.totalTokenizedAssets

def RwaAsset.serialize (asset : RwaAsset Pubkey) : List UInt8 :=
  serializeKey keyBytes asset.assetId ++ serializeKey keyBytes asset.owner ++
    asset.assetType.serialize ++ asset.status.serialize ++ Borsh.string asset.name ++
    Borsh.string asset.symbol ++ Borsh.string asset.description ++ Borsh.string asset.uri ++
    Borsh.u64 asset.valuation ++ Borsh.i64 asset.registeredAt ++
    Borsh.option Borsh.i64 asset.tokenizedAt ++
    Borsh.option (serializeKey keyBytes) asset.mint ++ Borsh.bool asset.isTokenized

def Tokenization.serialize (tokenization : Tokenization Pubkey) : List UInt8 :=
  serializeKey keyBytes tokenization.assetId ++ serializeKey keyBytes tokenization.mint ++
    Borsh.u64 tokenization.totalSupply ++ Borsh.i64 tokenization.tokenizedAt ++
    serializeKey keyBytes tokenization.tokenizationAuthority

/-- The bytes of a record, and the space its account was created with. -/
def AccountData.record? : AccountData Pubkey → Option (List UInt8 × ℕ)
  | globalConfig config => some (config.serialize keyBytes, GlobalConfig.size)
  | rwaAsset asset => some (asset.serialize keyBytes, RwaAsset.space)
  | tokenization record => some (record.serialize keyBytes, Tokenization.size)
  | _ => none

/-- Write a record back to its account. -/
def writeBack (buffer : List UInt8) (discriminator : Vector UInt8 8) (record : List UInt8) :
    Option (List UInt8) :=
  Borsh.write buffer (discriminator.toList ++ record)

/-! ## Their lengths -/

@[simp] theorem serializeKey_length (key : Pubkey) : (serializeKey keyBytes key).length = 32 :=
  Vector.length_toList

@[simp] theorem AssetType.serialize_length (assetType : AssetType) :
    assetType.serialize.length = 1 := by
  cases assetType <;> rfl

@[simp] theorem AssetStatus.serialize_length (status : AssetStatus) :
    status.serialize.length = 1 := by
  cases status <;> rfl

/-- A configuration has a fixed length, which fills its account. -/
theorem GlobalConfig.serialize_length (config : GlobalConfig Pubkey) :
    8 + (config.serialize keyBytes).length = GlobalConfig.size := by
  simp [serialize, size]

/-- A tokenization has a fixed length, which fills its account. -/
theorem Tokenization.serialize_length (tokenization : Tokenization Pubkey) :
    8 + (tokenization.serialize keyBytes).length = Tokenization.size := by
  simp [serialize, size]

/-- An asset with texts within their limits is not longer than its account. -/
theorem RwaAsset.serialize_length_le {asset : RwaAsset Pubkey} (h : asset.MetadataValid) :
    8 + (asset.serialize keyBytes).length ≤ RwaAsset.space := by
  have htime := Borsh.option_length_le (fun n => (Borsh.i64_length n).le) asset.tokenizedAt
  have hmint :=
    Borsh.option_length_le (fun key => (serializeKey_length keyBytes key).le) asset.mint
  have hname : asset.name.utf8ByteSize ≤ 100 := h.name.1
  have hsymbol : asset.symbol.utf8ByteSize ≤ 10 := h.symbol.1
  have hdescription : asset.description.utf8ByteSize ≤ 500 := h.description
  have huri : asset.uri.utf8ByteSize ≤ 200 := h.uri.1
  simp only [serialize, List.length_append, serializeKey_length, AssetType.serialize_length,
    AssetStatus.serialize_length, Borsh.string_length, Borsh.u64_length, Borsh.i64_length,
    Borsh.bool_length]
  have hspace : space = 983 := rfl
  omega

/-! ## Records fit -/

variable [DecidableEq Pubkey] [Runtime Pubkey] {l : Ledger Pubkey}

/-- In every reachable ledger, every record with its discriminator fits the space of
its account, so writing it back succeeds. -/
theorem records_fit (h : Reachable l) {key : Pubkey} {data : AccountData Pubkey}
    {record : List UInt8} {space : ℕ} (hdata : l.data? key = some data)
    (hrecord : data.record? keyBytes = some (record, space)) :
    8 + record.length ≤ space ∧
      ∀ buffer discriminator, buffer.length = space →
        writeBack buffer discriminator record ≠ none := by
  have hfits : 8 + record.length ≤ space := by
    cases data with
    | globalConfig config =>
        cases hrecord
        exact (GlobalConfig.serialize_length keyBytes config).le
    | rwaAsset asset =>
        cases hrecord
        have hread := Ledger.rwaAsset?_eq_some.mpr hdata
        exact RwaAsset.serialize_length_le keyBytes (metadataValid_of_reachable h key asset hread)
    | tokenization tokenization =>
        cases hrecord
        exact (Tokenization.serialize_length keyBytes tokenization).le
    | mint _ => cases hrecord
    | tokenAccount _ => cases hrecord
  refine ⟨hfits, fun buffer discriminator hbuffer => Borsh.write_ne_none.mpr ?_⟩
  rw [List.length_append, Vector.length_toList, hbuffer]
  exact hfits

namespace Address

/-- Bytes for the keys of the sample asset. -/
def bytes : Address → Vector UInt8 32
  | key n => Vector.replicate 32 (UInt8.ofNat n)
  | _ => Vector.replicate 32 255

end Address

/-- The sample asset fits after it was renamed. -/
theorem records_fit_house :
    ∃ asset, Address.renamedHouse.data? Address.house = some (.rwaAsset asset) ∧
      asset.name = "Old house" ∧
      8 + (asset.serialize Address.bytes).length ≤ RwaAsset.space := by
  have hdata : Address.renamedHouse.data? Address.house =
      some (.rwaAsset { Address.houseAsset with name := "Old house", uri := "uri2" }) := by decide
  exact ⟨_, hdata, rfl,
    (records_fit Address.bytes (Address.reachable_run_genesis _) hdata rfl).1⟩

end RwaTokenization
