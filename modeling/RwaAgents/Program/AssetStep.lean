import RwaAgents.Program.RecordStep

/-!
# What a transaction does to the assets

Only four instructions write an asset record or a tokenization: a registration,
a tokenization, a metadata update and a status change.  `AssetStep` lists them,
with everything each is known to have checked.  Every other transaction, and
every one that failed, is `idle`.
-/

namespace RwaTokenization

variable {Pubkey : Type} [DecidableEq Pubkey] [Runtime Pubkey] {ctx : Context Pubkey}
  {l l' : Ledger Pubkey}

inductive AssetStep (ctx : Context Pubkey) (l l' : Ledger Pubkey) : Action Pubkey → Prop
  | idle {action : Action Pubkey} (assets : l'.rwaAsset? = l.rwaAsset?)
      (tokenizations : l'.tokenization? = l.tokenization?) : AssetStep ctx l l' action
  | register {accs : RegisterAsset Pubkey} {args : RegisterAssetArgs}
      {config : GlobalConfig Pubkey} (effect : accs.Effect ctx args config l l') :
      AssetStep ctx l l' (.program (.registerAsset accs args))
  | tokenize {accs : TokenizeAsset Pubkey} {totalSupply : ℕ} {config : GlobalConfig Pubkey}
      {asset : RwaAsset Pubkey} (effect : accs.Effect ctx totalSupply config asset l l') :
      AssetStep ctx l l' (.program (.tokenizeAsset accs totalSupply))
  | edit {accs : UpdateAssetMetadata Pubkey} {args : UpdateAssetMetadataArgs}
      {asset : RwaAsset Pubkey} (accepted : accs.Accepted ctx args asset l)
      (after : l' = l.put accs.asset
        (.rwaAsset (asset.withMetadata args.name args.description args.uri))) :
      AssetStep ctx l l' (.program (.updateAssetMetadata accs args))
  | setStatus {accs : SetAssetStatus Pubkey} {status : AssetStatus} {asset : RwaAsset Pubkey}
      (accepted : accs.Accepted ctx asset l)
      (after : l' = l.put accs.asset (.rwaAsset { asset with status })) :
      AssetStep ctx l l' (.program (.setAssetStatus accs status))

theorem RecordStep.assetStep {action : Action Pubkey} {event : Option (Event Pubkey)}
    (h : RecordStep ctx l l' action event) : AssetStep ctx l l' action := by
  cases h with
  | idle same _ => exact .idle same.assets same.tokenizations
  | initializeConfig effect => exact .idle effect.rwaAsset? effect.tokenization?
  | register effect => exact .register effect
  | tokenize effect => exact .tokenize effect
  | edit accepted after => exact .edit accepted after
  | setStatus accepted after => exact .setStatus accepted after

/-- Every transaction is an asset step, a failing one an idle one. -/
theorem transact_assetStep (l : Ledger Pubkey) (tx : Transaction Pubkey) :
    AssetStep tx.ctx l (transact l tx).1 tx.action := by
  rcases transact_recordStep l tx with ⟨event, -, hstep⟩ | ⟨e, he⟩
  · exact hstep.assetStep
  · rw [he]
    exact .idle rfl rfl

/-- A tokenization was there before, or the step is the one that made it. -/
theorem AssetStep.tokenization_cases {action : Action Pubkey} (h : AssetStep ctx l l' action)
    {key : Pubkey} {tokenization : Tokenization Pubkey}
    (hread : l'.tokenization? key = some tokenization) :
    l.tokenization? key = some tokenization ∨
      ∃ accs totalSupply config asset, action = .program (.tokenizeAsset accs totalSupply) ∧
        accs.Effect ctx totalSupply config asset l l' ∧ key = accs.tokenization ∧
        tokenization = accs.newTokenization totalSupply ctx.unixTimestamp := by
  cases h with
  | idle _ tokenizations => rw [tokenizations] at hread; exact .inl hread
  | register effect => rw [effect.tokenization?] at hread; exact .inl hread
  | tokenize effect =>
      rw [effect.tokenization?, Function.update_apply] at hread
      split at hread
      · next hkey =>
        cases hread
        exact .inr ⟨_, _, _, _, rfl, effect, hkey, rfl⟩
      · exact .inl hread
  | edit accepted after =>
      rw [after, Ledger.putAsset_tokenization? accepted.asset_read] at hread
      exact .inl hread
  | setStatus accepted after =>
      rw [after, Ledger.putAsset_tokenization? accepted.asset_read] at hread
      exact .inl hread

end RwaTokenization
