import RwaAgents.Program.Execution

/-!
# What a failing method leaves behind

The methods of the records ask before they write: where one of them fails, the record
is as it was (`Intact`).  `RwaAsset::update_metadata` is the exception.  It takes the
three texts one by one and writes each of them before it looks at the next, so a text
that is too long is refused when those before it are already in the record.

The record survives the refusal exactly if the texts before it were not given, or
were the ones that it held (`update_metadata_intact_iff`).
-/

namespace RwaTokenization

variable {Pubkey : Type}

open EStateM

/-! ## The methods that ask first -/

theorem checkedAdd_onlyReads {σ : Type} {a b : ℕ} :
    (checkedAdd a b : EStateM ProgramError σ ℕ).OnlyReads := by
  rw [checkedAdd]
  split
  · exact .pure
  · exact .throw

theorem GlobalConfig.init_intact {authority : Pubkey}
    {registrationFee tokenizationFee platformFeeBps : ℕ} :
    (init authority registrationFee tokenizationFee platformFeeBps).Intact :=
  .bind .get fun _ => .bind .require fun _ => .bind .require fun _ => .set

theorem GlobalConfig.incrementTotalAssets_intact :
    (incrementTotalAssets : EStateM ProgramError (GlobalConfig Pubkey) Unit).Intact :=
  .bind .get fun _ => .bind checkedAdd_onlyReads fun _ => .modify

theorem GlobalConfig.incrementTotalTokenizedAssets_intact :
    (incrementTotalTokenizedAssets : EStateM ProgramError (GlobalConfig Pubkey) Unit).Intact :=
  .bind .get fun _ => .bind checkedAdd_onlyReads fun _ => .modify

theorem RwaAsset.init_intact {assetId owner : Pubkey} {assetType : AssetType}
    {name symbol description uri : String} {valuation : ℕ} {now : ℤ} :
    (init assetId owner assetType name symbol description uri valuation now).Intact :=
  .bind .require fun _ => .bind .require fun _ => .bind .require fun _ =>
    .bind .require fun _ => .set

theorem RwaAsset.tokenize_intact {mint : Pubkey} {now : ℤ} : (tokenize mint now).Intact :=
  .bind .get fun _ => .bind .require fun _ => .bind .get fun _ => .bind .require fun _ => .modify

theorem RwaAsset.updateStatus_intact {status : AssetStatus} :
    (updateStatus status : EStateM ProgramError (RwaAsset Pubkey) Unit).Intact := .modify

theorem Tokenization.init_intact {assetId mint : Pubkey} {totalSupply : ℕ}
    {tokenizationAuthority : Pubkey} {now : ℤ} :
    (init assetId mint totalSupply tokenizationAuthority now).Intact :=
  .bind .require fun _ => .set

/-! ## The method that asks in between -/

/-- A text is at most `limit` bytes long if it is given. -/
def Fits (limit : ℕ) (text : Option String) : Prop := ∀ t ∈ text, t.utf8ByteSize ≤ limit

namespace RwaAsset

variable {asset : RwaAsset Pubkey} {name description uri : Option String}

theorem replaceText_onError {limit : ℕ} {write : RwaAsset Pubkey → String → RwaAsset Pubkey}
    {text : Option String} {P : RwaAsset Pubkey → Prop} :
    (replaceText limit write text).OnError asset P ↔ (¬ Fits limit text → P asset) := by
  cases text with
  | none =>
      have hfits : Fits limit none := by
        intro t ht
        cases ht
      rw [replaceText]
      exact ⟨fun _ h => absurd hfits h, fun _ => onError_pure⟩
  | some t =>
      rw [replaceText, onError_bind, onError_require]
      simp [Fits, onError_modify]

/-- A replacement in front of others fails, or the others run on what it has written. -/
theorem replaceText_bind_onError {limit : ℕ}
    {write : RwaAsset Pubkey → String → RwaAsset Pubkey} {text : Option String}
    {rest : EStateM ProgramError (RwaAsset Pubkey) Unit} {P : RwaAsset Pubkey → Prop} :
    (replaceText limit write text >>= fun _ => rest).OnError asset P ↔
      (¬ Fits limit text → P asset) ∧
        (Fits limit text → rest.OnError (text.elim asset (write asset)) P) := by
  rw [onError_bind, replaceText_onError]
  refine and_congr_right fun _ => ?_
  constructor
  · intro h hfits
    exact h () _ (replaceText_ok.mpr ⟨hfits, rfl⟩)
  · intro h _ _ hrun
    obtain ⟨hfits, rfl⟩ := replaceText_ok.mp hrun
    exact h hfits

/-- Which record `update_metadata` leaves at each of the three texts it may refuse. -/
theorem updateMetadata_onError {P : RwaAsset Pubkey → Prop} :
    (updateMetadata name description uri).OnError asset P ↔
      (¬ Fits maxNameLength name → P asset) ∧
        (Fits maxNameLength name →
          (¬ Fits maxDescriptionLength description → P (asset.withMetadata name none none)) ∧
            (Fits maxDescriptionLength description → ¬ Fits maxUriLength uri →
              P (asset.withMetadata name description none))) := by
  rw [updateMetadata, replaceText_bind_onError, replaceText_bind_onError, replaceText_onError]
  cases name <;> cases description <;> rfl

theorem withMetadata_eq_self : asset.withMetadata name description uri = asset ↔
    (∀ t ∈ name, t = asset.name) ∧ (∀ t ∈ description, t = asset.description) ∧
      ∀ t ∈ uri, t = asset.uri := by
  cases asset
  cases name <;> cases description <;> cases uri <;> simp [withMetadata]

/-- What `update_metadata` has written by the time it refuses a text is what the record
held before. -/
structure HeldBeforeRefusal (asset : RwaAsset Pubkey) (name description uri : Option String) :
    Prop where
  at_description : Fits maxNameLength name → ¬ Fits maxDescriptionLength description →
    ∀ t ∈ name, t = asset.name
  at_uri : Fits maxNameLength name → Fits maxDescriptionLength description →
    ¬ Fits maxUriLength uri →
      (∀ t ∈ name, t = asset.name) ∧ ∀ t ∈ description, t = asset.description

end RwaAsset

/-- Every error of `RwaAsset::update_metadata` leaves all fields of the record as they
were if and only if whatever it has written by then is what the record held. -/
theorem update_metadata_intact_iff (asset : RwaAsset Pubkey)
    (name description uri : Option String) :
    (∀ e asset', (RwaAsset.updateMetadata name description uri).run asset = .error e asset' →
        asset' = asset) ↔
      asset.HeldBeforeRefusal name description uri := by
  refine (RwaAsset.updateMetadata_onError (P := (· = asset))).trans ?_
  simp only [RwaAsset.withMetadata_eq_self, implies_true, true_and]
  constructor
  · intro h
    refine ⟨fun hname hdescription => ?_, fun hname hdescription huri => ?_⟩
    · exact ((h hname).1 hdescription).1
    · obtain ⟨hheldName, hheldDescription, -⟩ := (h hname).2 hdescription huri
      exact ⟨hheldName, hheldDescription⟩
  · intro h
    refine fun hname => ⟨fun hdescription => ?_, fun hdescription huri => ?_⟩
    · exact ⟨h.at_description hname hdescription, nofun, nofun⟩
    · obtain ⟨hheldName, hheldDescription⟩ := h.at_uri hname hdescription huri
      exact ⟨hheldName, hheldDescription, nofun⟩

/-- A new name stays in the record although the link that came with it is refused. -/
theorem update_metadata_half_written :
    ¬ ∀ (asset : RwaAsset Address) (name description uri : Option String) e asset',
        (RwaAsset.updateMetadata name description uri).run asset = .error e asset' →
          asset' = asset := by
  intro h
  let link := String.ofList (List.replicate 201 'u')
  have hlink : ¬ link.utf8ByteSize ≤ maxUriLength := by decide +kernel
  have hrun : (RwaAsset.updateMetadata (some "Villa") none (some link)).run Address.houseAsset =
      .error (.custom .invalidMetadata) { Address.houseAsset with name := "Villa" } := by
    simp only [RwaAsset.updateMetadata, RwaAsset.replaceText, require, if_neg hlink]
    rfl
  exact absurd (h _ _ _ _ _ _ hrun) (by decide)

end RwaTokenization
