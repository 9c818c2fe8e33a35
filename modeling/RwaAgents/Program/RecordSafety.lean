import RwaAgents.Program.AssetLife

/-!
# The records of an asset along a run

An asset and its tokenization agree in every reachable ledger.  Only the owner
changes the records of an asset, what a registration fixed never changes, and an
asset is tokenized at most once.
-/

namespace RwaTokenization

variable {Pubkey : Type} [DecidableEq Pubkey] [Runtime Pubkey] {ctx : Context Pubkey}
  {l l' : Ledger Pubkey} {action : Action Pubkey} {key : Pubkey} {asset : RwaAsset Pubkey}

/-! ## Assets and tokenizations agree -/

omit [DecidableEq Pubkey] [Runtime Pubkey] in
/-- An asset is tokenized if and only if it has a mint, a tokenization time and a
tokenization. -/
theorem RwaAsset.Linked.iff_isTokenized {tokenization : Option (Tokenization Pubkey)}
    (h : asset.Linked key tokenization) :
    (asset.isTokenized = true ↔ asset.mint.isSome = true) ∧
      (asset.isTokenized = true ↔ asset.tokenizedAt.isSome = true) ∧
      (asset.isTokenized = true ↔ tokenization.isSome = true) := by
  cases tokenization with
  | none =>
      obtain ⟨huntokenized, hmint, htime⟩ := h
      rw [huntokenized, hmint, htime]
      simp
  | some tokenization =>
      rw [h.tokenized, h.mint_eq, h.time_eq]
      exact ⟨⟨fun _ => rfl, fun _ => rfl⟩, ⟨fun _ => rfl, fun _ => rfl⟩, fun _ => rfl, fun _ => rfl⟩

/-- The tokenization of a tokenized asset. -/
theorem RecordsValid.exists_tokenization (h : RecordsValid l) (hread : l.rwaAsset? key = some asset)
    (htokenized : asset.isTokenized = true) :
    ∃ tokenization, l.tokenization? (tokenizationPda key) = some tokenization ∧
      tokenization.For key asset := by
  have hlinked := h.linked hread
  obtain ⟨tokenization, htokenization⟩ :=
    Option.isSome_iff_exists.mp (hlinked.iff_isTokenized.2.2.mp htokenized)
  rw [htokenization] at hlinked
  exact ⟨tokenization, htokenization, hlinked⟩

/-- Two tokenized assets have different mints. -/
theorem LedgerValid.asset_mint_inj (h : LedgerValid l) {key' : Pubkey} {asset' : RwaAsset Pubkey}
    (hread : l.rwaAsset? key = some asset) (hread' : l.rwaAsset? key' = some asset')
    (htokenized : asset.isTokenized = true) (htokenized' : asset'.isTokenized = true)
    (hmint : asset.mint = asset'.mint) : key = key' := by
  obtain ⟨t, ht, hfor⟩ := h.records.exists_tokenization hread htokenized
  obtain ⟨t', ht', hfor'⟩ := h.records.exists_tokenization hread' htokenized'
  rw [hfor.mint_eq, hfor'.mint_eq] at hmint
  exact tokenizationPda_inj.mp (h.tokenization_inj ht ht' (Option.some.inj hmint))

/-- Every registered asset of a reachable ledger agrees with its tokenization, and
shares its mint with no other asset. -/
theorem registered_asset_linked (h : Reachable l) (hread : l.rwaAsset? key = some asset) :
    key = assetPda asset.assetId ∧
      (asset.isTokenized = true ↔ asset.mint.isSome = true) ∧
      (asset.isTokenized = true ↔ asset.tokenizedAt.isSome = true) ∧
      (asset.isTokenized = true ↔ (l.tokenization? (tokenizationPda key)).isSome = true) ∧
      (asset.isTokenized = true → ∃ tokenization,
        l.tokenization? (tokenizationPda key) = some tokenization ∧
          asset.mint = some tokenization.mint ∧ tokenization.assetId = key ∧
          asset.tokenizedAt = some tokenization.tokenizedAt ∧
          tokenization.tokenizationAuthority = asset.owner ∧ 0 < tokenization.totalSupply) ∧
      ∀ key' asset', l.rwaAsset? key' = some asset' → key' ≠ key → asset.isTokenized = true →
        asset'.isTokenized = true → asset'.mint ≠ asset.mint := by
  have hvalid := valid_of_reachable h
  have hlinked := hvalid.records.linked hread
  obtain ⟨hmint, htime, htokenization⟩ := hlinked.iff_isTokenized
  refine ⟨hvalid.records.asset_eq hread, hmint, htime, htokenization, fun htokenized => ?_,
    fun key' asset' hread' hne htokenized htokenized' he => ?_⟩
  · obtain ⟨t, ht, hfor⟩ := hvalid.records.exists_tokenization hread htokenized
    exact ⟨t, ht, hfor.mint_eq, hfor.asset_eq, hfor.time_eq, hfor.authority_eq, hfor.positive⟩
  · exact hne (hvalid.asset_mint_inj hread' hread htokenized' htokenized he)

/-- The sample asset, once tokenized. -/
theorem registered_asset_linked_house :
    ∃ tokenization,
      Address.tokenizedHouse.tokenization? (tokenizationPda Address.house) = some tokenization ∧
        some Address.houseMint = some tokenization.mint ∧ tokenization.assetId = Address.house ∧
        some 0 = some tokenization.tokenizedAt ∧
        tokenization.tokenizationAuthority = Address.houseAsset.owner ∧
        0 < tokenization.totalSupply :=
  (registered_asset_linked (Address.reachable_run_genesis _)
    Address.tokenizedHouse_rwaAsset?).2.2.2.2.1 rfl

/-! ## Who writes the records of an asset -/

/-- The asset an instruction names. -/
def Instruction.asset? : Instruction Pubkey → Option Pubkey
  | initializeConfig _ _ => none
  | registerAsset accs _ => some accs.asset
  | tokenizeAsset accs _ => some accs.asset
  | transferOwnership accs _ => some accs.asset
  | updateAssetMetadata accs _ => some accs.asset
  | verifyOwnership accs => some accs.asset
  | redeemAsset accs _ => some accs.asset
  | setAssetStatus accs _ => some accs.asset

def Action.asset? : Action Pubkey → Option Pubkey
  | program instruction => instruction.asset?
  | token _ _ => none
  | systemTransfer _ _ _ => none

/-- The asset and the tokenization of one that is not named stay as they are. -/
theorem AssetStep.frame (h : AssetStep ctx l l' action) (hne : action.asset? ≠ some key) :
    l'.rwaAsset? key = l.rwaAsset? key ∧
      l'.tokenization? (tokenizationPda key) = l.tokenization? (tokenizationPda key) := by
  cases h with
  | idle assets tokenizations => rw [assets, tokenizations]; exact ⟨rfl, rfl⟩
  | register effect =>
      rw [effect.rwaAsset?, effect.tokenization?]
      exact ⟨Function.update_of_ne (fun he => hne (congrArg some he.symm)) _ _, rfl⟩
  | tokenize effect =>
      have hkey : key ≠ _ := fun he => hne (congrArg some he.symm)
      rw [effect.rwaAsset?, effect.tokenization?, effect.tokenization_eq]
      exact ⟨Function.update_of_ne hkey _ _,
        Function.update_of_ne (fun he => hkey (tokenizationPda_inj.mp he)) _ _⟩
  | edit accepted after =>
      rw [after, Ledger.putAsset_rwaAsset?, Ledger.putAsset_tokenization? accepted.asset_read]
      exact ⟨Function.update_of_ne (fun he => hne (congrArg some he.symm)) _ _, rfl⟩
  | setStatus accepted after =>
      rw [after, Ledger.putAsset_rwaAsset?, Ledger.putAsset_tokenization? accepted.asset_read]
      exact ⟨Function.update_of_ne (fun he => hne (congrArg some he.symm)) _ _, rfl⟩

/-- Who changes the records of an asset has the signature of its owner. -/
theorem AssetStep.signed (h : AssetStep ctx l l' action) (hread : l.rwaAsset? key = some asset)
    (hchange : l'.rwaAsset? key ≠ some asset ∨
      l'.tokenization? (tokenizationPda key) ≠ l.tokenization? (tokenizationPda key)) :
    asset.owner ∈ ctx.signers := by
  have hnamed : action.asset? = some key := by
    by_contra hne
    obtain ⟨hasset, htokenization⟩ := h.frame hne
    exact hchange.elim (fun hc => hc (hasset.trans hread)) fun hc => hc htokenization
  cases h with
  | idle assets tokenizations =>
      rw [assets, tokenizations] at hchange
      exact absurd hread (hchange.resolve_right fun hc => hc rfl)
  | register effect =>
      cases hnamed
      exact absurd rfl (Ledger.ne_of_read hread effect.fresh)
  | tokenize effect =>
      cases hnamed
      cases hread.symm.trans effect.asset_read
      rw [effect.owner_eq]
      exact effect.signed
  | edit accepted _ =>
      cases hnamed
      cases hread.symm.trans accepted.asset_read
      rw [accepted.owner_eq]
      exact accepted.signed
  | setStatus accepted _ =>
      cases hnamed
      cases hread.symm.trans accepted.asset_read
      rw [accepted.owner_eq]
      exact accepted.signed

/-! ## What never changes -/

/-- What a registration fixed stays along a run. -/
theorem terms_run (h : Reachable l) (txs : List (Transaction Pubkey))
    (hread : l.rwaAsset? key = some asset) :
    ∃ asset', (programMachine.run l txs).rwaAsset? key = some asset' ∧
      asset'.terms = asset.terms := by
  have hsteps := life_simulates h txs key
  rw [Ledger.life_eq_some.mpr ⟨asset, hread, rfl⟩] at hsteps
  obtain ⟨life', hlife, hterms⟩ := Lifecycle.terms_eq hsteps
  obtain ⟨asset', hread', rfl⟩ := Ledger.life_eq_some.mp hlife
  exact ⟨asset', hread', hterms⟩

/-- The asset at an address is linked to a mint. -/
def Ledger.IsLinked (l : Ledger Pubkey) (key : Pubkey) : Prop :=
  ∃ asset, l.rwaAsset? key = some asset ∧ asset.link ≠ .unlinked

/-- A link stays along a run. -/
theorem link_run (h : Reachable l) (txs : List (Transaction Pubkey))
    (hread : l.rwaAsset? key = some asset) (hlinked : asset.link ≠ .unlinked) :
    ∃ asset', (programMachine.run l txs).rwaAsset? key = some asset' ∧
      asset'.link = asset.link := by
  have hsteps := life_simulates h txs key
  rw [Ledger.life_eq_some.mpr ⟨asset, hread, rfl⟩] at hsteps
  obtain ⟨life', hlife, hlink⟩ := Lifecycle.link_eq hsteps hlinked
  obtain ⟨asset', hread', rfl⟩ := Ledger.life_eq_some.mp hlife
  exact ⟨asset', hread', hlink⟩

theorem isLinked_next (h : Reachable l) (tx : Transaction Pubkey) (hlinked : l.IsLinked key) :
    (programMachine.next l tx).IsLinked key := by
  obtain ⟨asset, hread, hne⟩ := hlinked
  obtain ⟨asset', hread', hlink⟩ := link_run h [tx] hread hne
  exact ⟨asset', hread', by rwa [hlink]⟩

omit [Runtime Pubkey] in
theorem asset_of_put {record asset' : RwaAsset Pubkey} (after : l' = l.put key (.rwaAsset record))
    (hread' : l'.rwaAsset? key = some asset') : asset' = record := by
  rw [after, Ledger.putAsset_rwaAsset?, Function.update_self] at hread'
  exact (Option.some.inj hread').symm

/-- Only a tokenization of the asset changes its link, from nothing to the mint. -/
theorem AssetStep.link_cases (h : AssetStep ctx l l' action) (hvalid : RecordsValid l)
    {asset' : RwaAsset Pubkey} (hread : l.rwaAsset? key = some asset)
    (hread' : l'.rwaAsset? key = some asset') (hchange : asset'.link ≠ asset.link) :
    ∃ accs totalSupply, action = .program (.tokenizeAsset accs totalSupply) ∧ accs.asset = key ∧
      asset.link = .unlinked ∧ asset'.link = .to accs.mint ctx.unixTimestamp := by
  have hnamed : action.asset? = some key := by
    by_contra hne
    rw [(h.frame hne).1, hread] at hread'
    cases hread'
    exact hchange rfl
  cases h with
  | idle assets _ =>
      rw [assets, hread] at hread'
      cases hread'
      exact absurd rfl hchange
  | register effect =>
      cases hnamed
      exact absurd rfl (Ledger.ne_of_read hread effect.fresh)
  | @tokenize accs totalSupply _ _ effect =>
      cases hnamed
      cases hread.symm.trans effect.asset_read
      rw [effect.rwaAsset?, Function.update_self] at hread'
      cases hread'
      exact ⟨accs, totalSupply, rfl, rfl, hvalid.unlinked hread effect.untokenized, rfl⟩
  | edit accepted after =>
      cases hnamed
      cases hread.symm.trans accepted.asset_read
      cases asset_of_put after hread'
      exact absurd rfl hchange
  | setStatus accepted after =>
      cases hnamed
      cases hread.symm.trans accepted.asset_read
      cases asset_of_put after hread'
      exact absurd rfl hchange

/-- Does a step change whether, to what and when a registered asset is tokenized? -/
def changesLink (key : Pubkey) (e : ProgramStep Pubkey) : Bool :=
  match e.before.rwaAsset? key, e.after.rwaAsset? key with
  | some asset, some asset' => decide (asset'.link ≠ asset.link)
  | _, _ => false

theorem changesLink_iff {e : ProgramStep Pubkey} :
    changesLink key e = true ↔ ∃ asset asset', e.before.rwaAsset? key = some asset ∧
      e.after.rwaAsset? key = some asset' ∧ asset'.link ≠ asset.link := by
  rw [changesLink]
  split
  · next asset asset' hread hread' =>
    rw [decide_eq_true_iff, hread, hread']
    constructor
    · exact fun hne => ⟨asset, asset', rfl, rfl, hne⟩
    · rintro ⟨_, _, ⟨⟩, ⟨⟩, hne⟩
      exact hne
  · next hnone =>
    constructor
    · intro hfalse
      cases hfalse
    · rintro ⟨asset, asset', hread, hread', -⟩
      exact absurd hread' (hnone asset asset' hread)

theorem changesLink_stepAt (h : Reachable l) {tx : Transaction Pubkey}
    (hchange : changesLink key (programMachine.stepAt l tx) = true) :
    ∃ accs totalSupply asset asset', tx.action = .program (.tokenizeAsset accs totalSupply) ∧
      accs.asset = key ∧ l.rwaAsset? key = some asset ∧ asset.link = .unlinked ∧
      (programMachine.next l tx).rwaAsset? key = some asset' ∧
      asset'.link = .to accs.mint tx.ctx.unixTimestamp := by
  obtain ⟨asset, asset', hread, hread', hne⟩ := changesLink_iff.mp hchange
  obtain ⟨accs, totalSupply, haction, hkey, hlink, hlink'⟩ :=
    (transact_assetStep l tx).link_cases (valid_of_reachable h).records hread hread' hne
  exact ⟨accs, totalSupply, asset, asset', haction, hkey, hread, hlink, hread', hlink'⟩

/-- An asset is linked at most once in a run. -/
theorem countP_changesLink_le_one (h : Reachable l) (txs : List (Transaction Pubkey))
    (key : Pubkey) : (programMachine.steps l txs).countP (changesLink key) ≤ 1 := by
  refine h.countP_steps_le_one (P := fun l => l.IsLinked key)
    (fun l tx hreach => isLinked_next hreach tx) (fun l tx hreach hchange => ?_) txs
  obtain ⟨accs, _, asset, asset', -, -, hread, hlink, hread', hlink'⟩ :=
    changesLink_stepAt hreach hchange
  refine ⟨fun ⟨_, hread₁, hne⟩ => ?_, asset', hread', ?_⟩
  · cases hread.symm.trans hread₁
    exact hne hlink
  · rw [hlink']
    exact fun he => nomatch congrArg AssetLink.isTokenized he

/-- The records of every asset along a run: its owner signs every change, what its
registration fixed stays, it is linked at most once and by its tokenization, and
a step leaves the assets it does not name alone. -/
theorem asset_record_authority (h : Reachable l) (txs : List (Transaction Pubkey)) :
    (∀ e ∈ programMachine.steps l txs, ∀ key asset, e.before.rwaAsset? key = some asset →
      (e.after.rwaAsset? key ≠ some asset ∨
        e.after.tokenization? (tokenizationPda key) ≠
          e.before.tokenization? (tokenizationPda key)) →
      asset.owner ∈ e.action.ctx.signers) ∧
    (∀ key asset, l.rwaAsset? key = some asset →
      ∃ asset', (programMachine.run l txs).rwaAsset? key = some asset' ∧
        asset'.assetId = asset.assetId ∧ asset'.owner = asset.owner ∧
        asset'.assetType = asset.assetType ∧ asset'.symbol = asset.symbol ∧
        asset'.valuation = asset.valuation ∧ asset'.registeredAt = asset.registeredAt) ∧
    (∀ key, (programMachine.steps l txs).countP (changesLink key) ≤ 1 ∧
      ∀ e ∈ programMachine.steps l txs, changesLink key e = true →
        ∃ accs totalSupply asset asset',
          e.action.action = .program (.tokenizeAsset accs totalSupply) ∧ accs.asset = key ∧
          e.before.rwaAsset? key = some asset ∧ asset.link = .unlinked ∧
          e.after.rwaAsset? key = some asset' ∧
          asset'.link = .to accs.mint e.action.ctx.unixTimestamp) ∧
    ∀ e ∈ programMachine.steps l txs, ∀ key, e.action.action.asset? ≠ some key →
      e.after.rwaAsset? key = e.before.rwaAsset? key ∧
        e.after.tokenization? (tokenizationPda key) =
          e.before.tokenization? (tokenizationPda key) := by
  refine ⟨fun e he key asset hread hchange => ?_, fun key asset hread => ?_, fun key =>
    ⟨countP_changesLink_le_one h txs key, fun e he hchange => ?_⟩, fun e he key hne => ?_⟩
  · obtain ⟨-, heq⟩ := h.mem_steps he
    rw [heq] at hchange ⊢
    exact (transact_assetStep _ _).signed hread hchange
  · obtain ⟨asset', hread', hterms⟩ := terms_run h txs hread
    exact ⟨asset', hread', RwaAsset.terms_eq_iff.mp hterms⟩
  · obtain ⟨hreach, heq⟩ := h.mem_steps he
    rw [heq] at hchange ⊢
    exact changesLink_stepAt hreach hchange
  · obtain ⟨-, heq⟩ := h.mem_steps he
    rw [heq]
    exact (transact_assetStep _ _).frame hne

/-- The sample asset is linked once. -/
theorem asset_record_authority_house :
    (programMachine.steps Address.genesis (Address.registerHouse ++ [Address.tokenizeHouse])).countP
        (changesLink Address.house) = 1 ∧
      (programMachine.steps Address.genesis
        (Address.registerHouse ++ [Address.tokenizeHouse])).countP
        (changesLink Address.house) ≤ 1 :=
  ⟨by decide, ((asset_record_authority Address.reachable_genesis _).2.2.1 Address.house).1⟩

end RwaTokenization
