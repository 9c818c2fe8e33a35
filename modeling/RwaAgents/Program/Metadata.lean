import RwaAgents.Program.RecordStep

/-!
# The metadata of an asset

The limits on the metadata are checked by the instructions and again by the methods
of the record.  Only the instructions look for empty texts, and both of them that
write a text do.

So the metadata of an asset is valid from its registration on, whatever is edited
(`metadata_valid`).
-/

namespace RwaTokenization

variable {Pubkey : Type}

/-- What holds of the metadata of every asset. -/
structure RwaAsset.MetadataValid (asset : RwaAsset Pubkey) : Prop where
  name : TextWithin maxNameLength asset.name
  symbol : TextWithin maxSymbolLength asset.symbol
  description : asset.description.utf8ByteSize ≤ maxDescriptionLength
  uri : TextWithin maxUriLength asset.uri
  valuation : 0 < asset.valuation

/-- A text that is not empty has a byte. -/
theorem TextWithin.bytes {limit : ℕ} {text : String} (h : TextWithin limit text) :
    1 ≤ text.utf8ByteSize ∧ text.utf8ByteSize ≤ limit := by
  obtain ⟨hlimit, hempty⟩ := h
  rw [String.isEmpty, beq_eq_false_iff_ne] at hempty
  exact ⟨Nat.pos_of_ne_zero hempty, hlimit⟩

/-- A replacement that is valid, if there is one, keeps a text valid. -/
theorem getD_of_forall {α : Type} {P : α → Prop} {replacement : Option α} {old : α}
    (hreplacement : ∀ t ∈ replacement, P t) (hold : P old) : P (replacement.getD old) := by
  cases replacement with
  | none => exact hold
  | some t => exact hreplacement t rfl

theorem RwaAsset.MetadataValid.withMetadata {asset : RwaAsset Pubkey} (h : asset.MetadataValid)
    {args : UpdateAssetMetadataArgs} (hargs : args.Valid) :
    (asset.withMetadata args.name args.description args.uri).MetadataValid where
  name := getD_of_forall hargs.name h.name
  symbol := h.symbol
  description := getD_of_forall hargs.description h.description
  uri := getD_of_forall hargs.uri h.uri
  valuation := h.valuation

variable [DecidableEq Pubkey] {l l' : Ledger Pubkey}

/-- The metadata of all assets is valid. -/
def Ledger.MetadataValid (l : Ledger Pubkey) : Prop :=
  ∀ key asset, l.rwaAsset? key = some asset → asset.MetadataValid

/-- Writing an asset keeps the metadata valid if its own is. -/
theorem Ledger.MetadataValid.update (h : l.MetadataValid) {key : Pubkey} {asset : RwaAsset Pubkey}
    (hassets : l'.rwaAsset? = Function.update l.rwaAsset? key (some asset))
    (hvalid : asset.MetadataValid) : l'.MetadataValid := by
  intro k a hread
  rw [hassets, Function.update_apply] at hread
  split at hread
  · cases hread
    exact hvalid
  · exact h k a hread

variable [Runtime Pubkey] {ctx : Context Pubkey} {action : Action Pubkey}
  {event : Option (Event Pubkey)}

theorem RecordStep.metadataValid (hstep : RecordStep ctx l l' action event)
    (h : l.MetadataValid) : l'.MetadataValid := by
  cases hstep with
  | idle same _ =>
      rw [Ledger.MetadataValid, same.assets]
      exact h
  | initializeConfig effect =>
      rw [Ledger.MetadataValid, effect.rwaAsset?]
      exact h
  | register effect =>
      have hargs := effect.valid
      exact h.update effect.rwaAsset?
        ⟨hargs.name, hargs.symbol, hargs.description, hargs.uri, hargs.valuation⟩
  | tokenize effect =>
      have hasset := h _ _ effect.asset_read
      exact h.update effect.rwaAsset?
        ⟨hasset.name, hasset.symbol, hasset.description, hasset.uri, hasset.valuation⟩
  | edit accepted after =>
      rw [after]
      exact h.update (Ledger.putAsset_rwaAsset? _ _ _)
        ((h _ _ accepted.asset_read).withMetadata accepted.valid)
  | setStatus accepted after =>
      have hasset := h _ _ accepted.asset_read
      rw [after]
      exact h.update (Ledger.putAsset_rwaAsset? _ _ _)
        ⟨hasset.name, hasset.symbol, hasset.description, hasset.uri, hasset.valuation⟩

theorem metadataValid_of_reachable (h : Reachable l) : l.MetadataValid := by
  refine h.invariant (fun l hstart key asset hread => ?_) fun l tx hvalid => ?_
  · cases (Ledger.read_of_empty hstart AccountData.rwaAsset? key).symm.trans hread
  · rcases transact_recordStep l tx with ⟨event, -, hstep⟩ | ⟨err, herr⟩
    · exact hstep.metadataValid hvalid
    · rw [next_of_error herr]
      exact hvalid

/-- In every reachable ledger, the texts of every asset are within their limits, only
its description may be empty, and its valuation is positive. -/
theorem metadata_valid (h : Reachable l) {key : Pubkey} {asset : RwaAsset Pubkey}
    (hread : l.rwaAsset? key = some asset) :
    (1 ≤ asset.name.utf8ByteSize ∧ asset.name.utf8ByteSize ≤ 100) ∧
      (1 ≤ asset.symbol.utf8ByteSize ∧ asset.symbol.utf8ByteSize ≤ 10) ∧
      asset.description.utf8ByteSize ≤ 500 ∧
      (1 ≤ asset.uri.utf8ByteSize ∧ asset.uri.utf8ByteSize ≤ 200) ∧ 0 < asset.valuation := by
  have hvalid := metadataValid_of_reachable h key asset hread
  exact ⟨hvalid.name.bytes, hvalid.symbol.bytes, hvalid.description, hvalid.uri.bytes,
    hvalid.valuation⟩

namespace Address

/-- The owner of the sample asset renames it. -/
def renameHouse : Transaction Address :=
  program [10] (.updateAssetMetadata ⟨house, key 10⟩ ⟨some "Old house", none, some "uri2"⟩)

def renamedHouse : Ledger Address :=
  programMachine.run genesis (registerHouse ++ [tokenizeHouse, renameHouse])

end Address

/-- The sample asset after it was renamed. -/
theorem metadata_valid_house :
    ∃ asset, Address.renamedHouse.rwaAsset? Address.house = some asset ∧
      asset.name = "Old house" ∧ 1 ≤ asset.name.utf8ByteSize := by
  have hread : Address.renamedHouse.rwaAsset? Address.house =
      some { Address.houseAsset with name := "Old house", uri := "uri2" } := by decide
  exact ⟨_, hread, rfl, (metadata_valid (Address.reachable_run_genesis _) hread).1.1⟩

end RwaTokenization
