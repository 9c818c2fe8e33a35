import RwaAgents.Program.Frame

/-!
# What a transaction does to the records

Five instructions write a record of the program.  `RecordStep` lists them with
everything each is known to have checked and with the event each emits.  What
leaves the records alone is `idle`, and its event is about no record.

The results about the records, the counters and the event log split on this
list.  None of them looks into an instruction again.
-/

namespace RwaTokenization

variable {Pubkey : Type} [DecidableEq Pubkey]

/-- Does the event announce that a record was written? -/
def Event.writesRecord : Event Pubkey → Bool
  | assetRegistered _ _ _ _ _ => true
  | assetTokenized _ _ _ _ => true
  | assetMetadataUpdated _ _ => true
  | assetStatusChanged _ _ _ => true
  | _ => false

variable [Runtime Pubkey] {ctx : Context Pubkey} {l l' : Ledger Pubkey}

inductive RecordStep (ctx : Context Pubkey) (l l' : Ledger Pubkey) :
    Action Pubkey → Option (Event Pubkey) → Prop
  | idle {action : Action Pubkey} {event : Option (Event Pubkey)} (same : SameRecords l l')
      (quiet : ∀ e ∈ event, e.writesRecord = false) : RecordStep ctx l l' action event
  | initializeConfig {accs : Initialize Pubkey} {params : InitializeParams}
      (effect : accs.Effect ctx params l l') :
      RecordStep ctx l l' (.program (.initializeConfig accs params)) none
  | register {accs : RegisterAsset Pubkey} {args : RegisterAssetArgs}
      {config : GlobalConfig Pubkey} (effect : accs.Effect ctx args config l l') :
      RecordStep ctx l l' (.program (.registerAsset accs args))
        (some (.assetRegistered accs.asset accs.owner args.assetType args.name ctx.unixTimestamp))
  | tokenize {accs : TokenizeAsset Pubkey} {totalSupply : ℕ} {config : GlobalConfig Pubkey}
      {asset : RwaAsset Pubkey} (effect : accs.Effect ctx totalSupply config asset l l') :
      RecordStep ctx l l' (.program (.tokenizeAsset accs totalSupply))
        (some (.assetTokenized accs.asset accs.mint totalSupply ctx.unixTimestamp))
  | edit {accs : UpdateAssetMetadata Pubkey} {args : UpdateAssetMetadataArgs}
      {asset : RwaAsset Pubkey} (accepted : accs.Accepted ctx args asset l)
      (after : l' = l.put accs.asset
        (.rwaAsset (asset.withMetadata args.name args.description args.uri))) :
      RecordStep ctx l l' (.program (.updateAssetMetadata accs args))
        (some (.assetMetadataUpdated accs.asset ctx.unixTimestamp))
  | setStatus {accs : SetAssetStatus Pubkey} {status : AssetStatus} {asset : RwaAsset Pubkey}
      (accepted : accs.Accepted ctx asset l)
      (after : l' = l.put accs.asset (.rwaAsset { asset with status })) :
      RecordStep ctx l l' (.program (.setAssetStatus accs status))
        (some (.assetStatusChanged accs.asset asset.status status))

theorem SameRecords.recordStep {action : Action Pubkey} (h : SameRecords l l') :
    RecordStep ctx l l' action none :=
  .idle h fun _ he => absurd he (Option.not_mem_none _)

/-- A successful action is a record step, with the event it emits. -/
theorem Action.recordStep {action : Action Pubkey} {event : Option (Event Pubkey)}
    (h : (action.execute ctx).run l = .ok event l') : RecordStep ctx l l' action event := by
  cases action with
  | program instruction =>
      cases instruction with
      | initializeConfig accs params =>
          obtain ⟨rfl, heffect⟩ := Initialize.effect h
          exact .initializeConfig heffect
      | registerAsset accs args =>
          obtain ⟨rfl, config, heffect⟩ := RegisterAsset.effect h
          exact .register heffect
      | tokenizeAsset accs totalSupply =>
          obtain ⟨rfl, config, asset, heffect⟩ := TokenizeAsset.effect h
          exact .tokenize heffect
      | transferOwnership accs amount =>
          obtain ⟨_, _, _, _, haccepted, rfl, rfl⟩ := TransferOwnership.execute_ok.mp h
          have htransfer := haccepted.transfer
          refine .idle (.moved htransfer.source_eq htransfer.destination_eq _) fun e he => ?_
          cases he
          rfl
      | updateAssetMetadata accs args =>
          obtain ⟨asset, haccepted, rfl, hafter⟩ := UpdateAssetMetadata.execute_ok.mp h
          exact .edit haccepted hafter
      | verifyOwnership accs =>
          obtain ⟨-, rfl, rfl⟩ := VerifyOwnership.execute_ok.mp h
          refine .idle (.refl l') fun e he => ?_
          cases he
          rfl
      | redeemAsset accs amount =>
          obtain ⟨_, _, _, _, haccepted, rfl, rfl⟩ := RedeemAsset.execute_ok.mp h
          have hburn := haccepted.burn
          refine .idle (.setAmount_setSupply hburn.account_eq hburn.record_eq _ _) fun e he => ?_
          cases he
          rfl
      | setAssetStatus accs status =>
          obtain ⟨asset, haccepted, rfl, hafter⟩ := SetAssetStatus.execute_ok.mp h
          exact .setStatus haccepted hafter
  | token p instruction =>
      obtain ⟨rfl, hrun⟩ := Action.token_ok.mp h
      exact (TokenInstruction.sameRecords hrun).recordStep
  | systemTransfer source destination amount =>
      obtain ⟨rfl, -, -, -, rfl⟩ := Action.systemTransfer_ok.mp h
      exact SameRecords.recordStep ⟨rfl, rfl, rfl⟩

/-- A transaction is a record step, or it fails and changes nothing. -/
theorem transact_recordStep (l : Ledger Pubkey) (tx : Transaction Pubkey) :
    (∃ event, (transact l tx).2 = .ok event ∧
        RecordStep tx.ctx l (transact l tx).1 tx.action event) ∨
      ∃ e, transact l tx = (l, .error e) := by
  rcases transact_cases l tx with ⟨event, after, hrun, he⟩ | herror
  · rw [he]
    exact .inl ⟨event, rfl, Action.recordStep hrun⟩
  · exact .inr herror

/-! ## What the kinds of records read afterwards -/

namespace Initialize.Effect

variable {accs : Initialize Pubkey} {params : InitializeParams} (h : accs.Effect ctx params l l')

include h

theorem globalConfig? : l'.globalConfig? = Function.update l.globalConfig? accs.globalConfig
    (some ⟨accs.authority, params.registrationFee, params.tokenizationFee, params.platformFeeBps,
      true, 0, 0⟩) :=
  Ledger.read_update h.data _

/-- The configuration is written where there was nothing. -/
theorem read_eq {β : Type} {kind : AccountData Pubkey → Option β}
    (hkind : ∀ config, kind (.globalConfig config) = none) : l'.read kind = l.read kind := by
  rw [Ledger.read_update h.data, hkind]
  exact Ledger.update_none (Ledger.read_of_data?_eq_none h.fresh _)

theorem rwaAsset? : l'.rwaAsset? = l.rwaAsset? := h.read_eq fun _ => rfl

theorem tokenization? : l'.tokenization? = l.tokenization? := h.read_eq fun _ => rfl

end Initialize.Effect

theorem RegisterAsset.Effect.globalConfig? {accs : RegisterAsset Pubkey} {args : RegisterAssetArgs}
    {config : GlobalConfig Pubkey} (h : accs.Effect ctx args config l l') :
    l'.globalConfig? = Function.update l.globalConfig? accs.globalConfig
      (some { config with totalAssets := config.totalAssets + 1 }) := by
  refine (h.read _).trans ?_
  simp only [AccountData.globalConfig?]
  rw [Ledger.update_none (Ledger.read_of_data?_eq_none h.fresh _)]
  rfl

theorem TokenizeAsset.Effect.globalConfig? {accs : TokenizeAsset Pubkey} {totalSupply : ℕ}
    {config : GlobalConfig Pubkey} {asset : RwaAsset Pubkey}
    (h : accs.Effect ctx totalSupply config asset l l') :
    l'.globalConfig? = Function.update l.globalConfig? accs.globalConfig
      (some { config with totalTokenizedAssets := config.totalTokenizedAssets + 1 }) := by
  refine (h.read _).trans ?_
  simp only [AccountData.globalConfig?]
  rw [Ledger.update_none (Ledger.read_of_data?_eq_none h.tokenization_fresh _),
    Ledger.update_none (Ledger.read_of_data?_eq_none h.account_fresh _),
    Ledger.update_none (Ledger.read_of_data?_eq_none h.mint_fresh _),
    Ledger.update_none (Ledger.read_of_data? h.asset_data _)]
  rfl

namespace Ledger

omit [Runtime Pubkey]

theorem putAsset_rwaAsset? (l : Ledger Pubkey) (key : Pubkey) (asset : RwaAsset Pubkey) :
    (l.put key (.rwaAsset asset)).rwaAsset? = Function.update l.rwaAsset? key (some asset) :=
  put_read _ _ _ _

/-- Writing an asset over an asset leaves the other records alone. -/
theorem putAsset_tokenization? {key : Pubkey} {asset : RwaAsset Pubkey}
    (h : l.rwaAsset? key = some asset) (asset' : RwaAsset Pubkey) :
    (l.put key (.rwaAsset asset')).tokenization? = l.tokenization? :=
  (put_read _ _ _ _).trans (update_none (read_of_data? (rwaAsset?_eq_some.mp h) _))

theorem putAsset_globalConfig? {key : Pubkey} {asset : RwaAsset Pubkey}
    (h : l.rwaAsset? key = some asset) (asset' : RwaAsset Pubkey) :
    (l.put key (.rwaAsset asset')).globalConfig? = l.globalConfig? :=
  (put_read _ _ _ _).trans (update_none (read_of_data? (rwaAsset?_eq_some.mp h) _))

end Ledger

end RwaTokenization
