import RwaAgents.Program.InstructionSpec
import RwaAgents.Program.RecordMethods

/-!
# A metadata update is all or nothing

`UpdateAssetMetadata::process` checks the texts it is given, and then
`RwaAsset::update_metadata` checks each text again right before it writes it.  A
failure of the second layer could leave an asset with some texts replaced.  It never
fails there: the validators ask for more than the method does (`Valid.updateMetadata_run`).
They write nothing (`OnlyChecks`), so the update is atomic without the rollback of the
transaction (`update_asset_metadata_atomic`).
-/

namespace RwaTokenization

open EStateM

/-! ## The validators write nothing -/

section

variable {σ : Type} {limit : ℕ} {text : String}

theorem validateText_onlyChecks :
    (validateText limit text : EStateM ProgramError σ Unit).OnlyChecks :=
  .bind .require .require

theorem validateIfProvided_onlyChecks {validate : String → EStateM ProgramError σ Unit}
    (h : ∀ t, (validate t).OnlyChecks) (provided : Option String) :
    (validateIfProvided validate provided).OnlyChecks := by
  cases provided with
  | none => exact .pure
  | some t => exact h t

/-- A text that was provided and passed its validator is valid. -/
theorem validateIfProvided_ok {validate : String → EStateM ProgramError σ Unit}
    {valid : String → Prop}
    (hvalidate : ∀ t s s', (validate t).run s = .ok () s' ↔ valid t ∧ s = s')
    {provided : Option String} {s s' : σ}
    (h : (validateIfProvided validate provided).run s = .ok () s') : ∀ t ∈ provided, valid t := by
  intro t ht
  rw [Option.mem_def.mp ht] at h
  exact ((hvalidate t s s').mp h).1

end

variable {Pubkey : Type}

/-- Behind the validators the method of the record cannot fail. -/
theorem UpdateAssetMetadataArgs.Valid.updateMetadata_run {args : UpdateAssetMetadataArgs}
    (h : args.Valid) (asset : RwaAsset Pubkey) :
    (RwaAsset.updateMetadata args.name args.description args.uri).run asset =
      .ok () (asset.withMetadata args.name args.description args.uri) :=
  RwaAsset.updateMetadata_ok.mpr
    ⟨fun t ht => (h.name t ht).1, h.description, fun t ht => (h.uri t ht).1, rfl⟩

/-- The validators leave the method no text to refuse. -/
theorem UpdateAssetMetadataArgs.Valid.heldBeforeRefusal {args : UpdateAssetMetadataArgs}
    (h : args.Valid) (asset : RwaAsset Pubkey) :
    asset.HeldBeforeRefusal args.name args.description args.uri where
  at_description _ hdescription := absurd h.description hdescription
  at_uri _ _ huri := absurd (fun t ht => (h.uri t ht).1) huri

variable [DecidableEq Pubkey] [Runtime Pubkey] (ctx : Context Pubkey)
  (accs : UpdateAssetMetadata Pubkey) (args : UpdateAssetMetadataArgs) {l : Ledger Pubkey}
  {asset : RwaAsset Pubkey}

/-- Either a validator refuses a text, or every text is valid and the record is
replaced. -/
theorem UpdateAssetMetadata.process_cases (hasset : l.rwaAsset? accs.asset = some asset) :
    (∃ e, (accs.process ctx args).run l = .error e l) ∨
      args.Valid ∧ (accs.process ctx args).run l =
        .ok (some (.assetMetadataUpdated accs.asset ctx.unixTimestamp))
          (l.put accs.asset
            (.rwaAsset (asset.withMetadata args.name args.description args.uri))) := by
  have hnameChecks : (validateIfProvided validateName args.name :
      ProgramM Pubkey Unit).OnlyChecks :=
    validateIfProvided_onlyChecks (fun _ => validateText_onlyChecks) _
  have hdescriptionChecks : (validateIfProvided validateDescription args.description :
      ProgramM Pubkey Unit).OnlyChecks :=
    validateIfProvided_onlyChecks (fun _ => .require) _
  have huriChecks : (validateIfProvided validateUri args.uri :
      ProgramM Pubkey Unit).OnlyChecks :=
    validateIfProvided_onlyChecks (fun _ => validateText_onlyChecks) _
  rw [process]
  rcases hnameChecks.bind_cases _ l with ⟨hname, hrun⟩ | hrefused
  · rw [hrun]
    rcases hdescriptionChecks.bind_cases _ l with ⟨hdescription, hrun⟩ | hrefused
    · rw [hrun]
      rcases huriChecks.bind_cases _ l with ⟨huri, hrun⟩ | hrefused
      · have hvalid : args.Valid := ⟨
          validateIfProvided_ok (fun _ _ _ => validateText_ok) hname,
          validateIfProvided_ok (fun _ _ _ => require_ok) hdescription,
          validateIfProvided_ok (fun _ _ _ => validateText_ok) huri⟩
        rw [hrun]
        refine .inr ⟨hvalid, onRecord_bind_ok.mpr ?_⟩
        exact ⟨(), asset, _, hasset, hvalid.updateMetadata_run asset, rfl⟩
      · exact .inl hrefused
    · exact .inl hrefused
  · exact .inl hrefused

/-- `UpdateAssetMetadata::process` fails and leaves the ledger as it was, or it
succeeds and has replaced exactly the texts that were given.  Once the validators have
passed, `RwaAsset::update_metadata` succeeds on every record. -/
theorem update_asset_metadata_atomic (hasset : l.rwaAsset? accs.asset = some asset) :
    ((∃ e, (accs.process ctx args).run l = .error e l) ∨
      ∃ event l', (accs.process ctx args).run l = .ok event l' ∧
        l'.rwaAsset? accs.asset = some { asset with
          name := args.name.getD asset.name
          description := args.description.getD asset.description
          uri := args.uri.getD asset.uri } ∧
        ∀ key, key ≠ accs.asset → l'.data? key = l.data? key) ∧
      (args.Valid → ∀ record : RwaAsset Pubkey, ∃ record',
        (RwaAsset.updateMetadata args.name args.description args.uri).run record =
          .ok () record') := by
  refine ⟨?_, fun hvalid record => ⟨_, hvalid.updateMetadata_run record⟩⟩
  rcases accs.process_cases ctx args hasset with hrefused | ⟨-, hrun⟩
  · exact .inl hrefused
  · refine .inr ⟨_, _, hrun, ?_, fun key hkey => ?_⟩
    · rw [Ledger.rwaAsset?, Ledger.put_read, Function.update_self]
      rfl
    · rw [Ledger.put_data?, Function.update_of_ne hkey]

/-- The owner of the sample asset gives it another name. -/
theorem update_asset_metadata_atomic_house : ∃ event l',
    (UpdateAssetMetadata.process (Address.signedBy [10]) ⟨Address.house, Address.key 10⟩
      ⟨some "Villa", none, none⟩).run Address.tokenizedHouse = .ok event l' ∧
      l'.rwaAsset? Address.house = some { Address.houseAsset with name := "Villa" } := by
  rcases (update_asset_metadata_atomic (Address.signedBy [10]) ⟨Address.house, Address.key 10⟩
      ⟨some "Villa", none, none⟩ Address.tokenizedHouse_rwaAsset?).1 with
    ⟨e, hrefused⟩ | ⟨event, l', hrun, hread, -⟩
  · cases hrefused
  · exact ⟨event, l', hrun, hread⟩

end RwaTokenization
