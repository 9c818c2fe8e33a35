import RwaAgents.Program.Acceptance

/-!
# What nobody can block

A mint and a token account only appear at an address that signed or at one the
associated token program derives.  Neither is an address of the program, so nobody can
take one of those before the program does (`no_tokens_at_derived`).

In a reachable ledger an asset id is therefore free until it is registered
(`register_iff`), and an asset that is registered can be tokenized by its owner with any
new mint (`tokenize_iff`).  The counters are no obstacle to a tokenization.  What the
runtime checks around an instruction, the fee of the transaction and whether the payer is
left exempt from rent, is outside the model.
-/

namespace RwaTokenization

open EStateM

variable {Pubkey : Type} [DecidableEq Pubkey]

/-! ## Where tokens lie -/

/-- There is a mint or a token account at the address. -/
def Ledger.TokenAt (l : Ledger Pubkey) (key : Pubkey) : Prop :=
  l.mint? key ≠ none ∨ l.tokenAccount? key ≠ none

section

variable {l l' : Ledger Pubkey} {key place : Pubkey}

theorem Ledger.tokenAt_of_data {data : AccountData Pubkey}
    (hdata : l.data? key = some data) (htoken : data.isTokenData = true) : l.TokenAt key := by
  cases data with
  | mint record => exact .inl (by rw [Ledger.mint?_eq_some.mpr hdata]; exact Option.some_ne_none _)
  | tokenAccount account =>
      exact .inr (by rw [Ledger.tokenAccount?_eq_some.mpr hdata]; exact Option.some_ne_none _)
  | _ => cases htoken

theorem Ledger.TokenAt.of_update {data : AccountData Pubkey} (h : l'.TokenAt key)
    (hdata : l'.data? = Function.update l.data? place (some data)) :
    l.TokenAt key ∨ key = place := by
  by_cases hkey : key = place
  · exact .inr hkey
  · left
    rwa [TokenAt, mint?, tokenAccount?, read_update hdata, read_update hdata,
      Function.update_of_ne hkey, Function.update_of_ne hkey] at h

theorem SameTokens.tokenAt (hsame : SameTokens l l') (h : l'.TokenAt key) : l.TokenAt key := by
  rwa [Ledger.TokenAt, hsame.mints, hsame.accounts] at h

theorem SameTerms.tokenAt (hsame : SameTerms l l') (h : l'.TokenAt key) : l.TokenAt key := by
  rcases h with hmint | haccount
  · left
    intro hnone
    have hterms := hsame.mints key
    rw [hnone, Option.map_none, Option.map_eq_none_iff] at hterms
    exact hmint hterms
  · right
    intro hnone
    have hterms := hsame.accounts key
    rw [hnone, Option.map_none, Option.map_eq_none_iff] at hterms
    exact haccount hterms

end

variable [Runtime Pubkey] {ctx : Context Pubkey} {l l' : Ledger Pubkey}
  {event : Option (Event Pubkey)} {key : Pubkey}

/-- The associated token program derives the address. -/
def IsAssociated (key : Pubkey) : Prop :=
  ∃ owner p mint, key = Runtime.associatedTokenAddress owner p mint

/-- A token call makes tokens appear where somebody signed or at an associated address. -/
theorem TokenInstruction.tokenAt {p : TokenProgram} {instruction : TokenInstruction Pubkey}
    {u : Unit} (h : (instruction.execute ctx p).run l = .ok u l') (htoken : l'.TokenAt key) :
    l.TokenAt key ∨ key ∈ ctx.signers ∨ IsAssociated key := by
  cases instruction with
  | initializeMint payer mint decimals mintAuthority freezeAuthority =>
      obtain ⟨hsigned, -, hdata⟩ := TokenProgram.initializeMint_ok h
      rcases htoken.of_update hdata with hold | rfl
      · exact .inl hold
      · exact .inr (.inl hsigned)
  | initializeAccount payer account mint owner =>
      obtain ⟨_, -, -, -, hdata⟩ := TokenProgram.initializeAccount_ok h
      rw [execute, TokenProgram.initializeAccount, require_bind_ok] at h
      rcases htoken.of_update hdata with hold | rfl
      · exact .inl hold
      · exact .inr (.inl h.1)
  | createAssociated payer owner mint =>
      obtain ⟨_, -, -, -, hdata⟩ := TokenProgram.createAssociated_ok h
      rcases htoken.of_update hdata with hold | rfl
      · exact .inl hold
      · exact .inr (.inr ⟨_, _, _, rfl⟩)
  | mintTo mint destination authority amount =>
      obtain ⟨_, _, haccepted, rfl⟩ := TokenProgram.mintTo_ok.mp h
      exact .inl ((SameTerms.setAmount_setSupply haccepted.account_eq haccepted.record_eq
        _ _).tokenAt htoken)
  | transfer source destination authority amount checked =>
      obtain ⟨_, _, haccepted, rfl⟩ := TokenProgram.transfer_ok.mp h
      exact .inl ((SameTerms.moved haccepted.source_eq haccepted.destination_eq _).tokenAt htoken)
  | burn source mint authority amount =>
      obtain ⟨_, _, haccepted, rfl⟩ := TokenProgram.burn_ok.mp h
      exact .inl ((SameTerms.setAmount_setSupply haccepted.account_eq haccepted.record_eq
        _ _).tokenAt htoken)
  | setFrozen account mint authority isFrozen =>
      obtain ⟨_, _, haccount, -, -, -, rfl⟩ := TokenProgram.setFrozen_ok h
      rcases htoken.of_update (Ledger.put_data? _ _ _) with hold | rfl
      · exact .inl hold
      · exact .inl (Ledger.tokenAt_of_data (Ledger.tokenAccount?_eq_some.mp haccount) rfl)

/-- A tokenization creates a mint that signs and an associated account. -/
theorem TokenizeAsset.tokenAt {accs : TokenizeAsset Pubkey} {totalSupply : ℕ}
    (h : ((Instruction.tokenizeAsset accs totalSupply).execute ctx).run l = .ok event l')
    (htoken : l'.TokenAt key) : l.TokenAt key ∨ key ∈ ctx.signers ∨ IsAssociated key := by
  obtain ⟨-, config, asset, heffect⟩ := effect h
  obtain ⟨_, created, haccounts, -⟩ := bind_ok.mp h
  obtain ⟨hsigned, haccount⟩ := signed_mint haccounts
  rw [Ledger.TokenAt, heffect.mint?, heffect.tokenAccount?] at htoken
  by_cases hmint : key = accs.mint
  · exact .inr (.inl (hmint ▸ hsigned))
  · by_cases hkey : key = accs.ownerTokenAccount
    · exact .inr (.inr ⟨_, _, _, hkey.trans haccount⟩)
    · rw [Function.update_of_ne hmint, Function.update_of_ne hkey] at htoken
      exact .inl htoken

/-- Tokens only appear where somebody signed or at an associated address. -/
theorem Action.tokenAt {action : Action Pubkey} (h : (action.execute ctx).run l = .ok event l')
    (htoken : l'.TokenAt key) : l.TokenAt key ∨ key ∈ ctx.signers ∨ IsAssociated key := by
  cases action with
  | program instruction =>
      cases instruction with
      | tokenizeAsset accs totalSupply => exact TokenizeAsset.tokenAt h htoken
      | transferOwnership accs amount =>
          obtain ⟨_, _, _, _, haccepted, -, rfl⟩ := TransferOwnership.execute_ok.mp h
          exact .inl ((SameTerms.moved haccepted.transfer.source_eq
            haccepted.transfer.destination_eq _).tokenAt htoken)
      | redeemAsset accs amount =>
          obtain ⟨_, _, _, _, haccepted, -, rfl⟩ := RedeemAsset.execute_ok.mp h
          exact .inl ((SameTerms.setAmount_setSupply haccepted.burn.account_eq
            haccepted.burn.record_eq _ _).tokenAt htoken)
      | _ =>
          cases Action.tokenStep h with
          | idle _ same => exact .inl (same.tokenAt htoken)
  | token p instruction => exact TokenInstruction.tokenAt (Action.token_ok.mp h).2 htoken
  | systemTransfer source destination amount =>
      obtain ⟨-, -, -, -, rfl⟩ := Action.systemTransfer_ok.mp h
      exact .inl htoken

/-! ## The addresses of the program -/

/-- An address derived by the program and an associated address are never the same: two
programs derive them. -/
def AssociatedApart (Pubkey : Type) [Runtime Pubkey] : Prop :=
  ∀ (owner : Pubkey) p mint seeds,
    Runtime.associatedTokenAddress owner p mint ≠ Runtime.findProgramAddress seeds

/-- In every reachable ledger there is no mint and no token account at an address the
program derives. -/
theorem no_tokens_at_derived (hapart : AssociatedApart Pubkey) (h : Reachable l)
    (seeds : Seeds Pubkey) : ¬ l.TokenAt (Runtime.findProgramAddress seeds) := by
  refine h.invariant (I := fun l => ¬ l.TokenAt (Runtime.findProgramAddress seeds))
    (fun l hstart htoken => ?_) fun l tx hnone htoken => ?_
  · rw [Ledger.TokenAt, Ledger.mint?, Ledger.tokenAccount?, Ledger.read_of_empty hstart,
      Ledger.read_of_empty hstart] at htoken
    exact htoken.elim (fun hne => hne rfl) fun hne => hne rfl
  · rcases transact_cases l tx with ⟨event, after, hrun, he⟩ | ⟨e, he⟩
    · rw [show programMachine.next l tx = after from congrArg Prod.fst he] at htoken
      rcases Action.tokenAt hrun htoken with hold | hsigned | ⟨owner, p, mint, hassociated⟩
      · exact hnone hold
      · exact tx.ctx.signers_external seeds hsigned
      · exact hapart owner p mint seeds hassociated.symm
    · rw [next_of_error he] at htoken
      exact hnone htoken

section

omit [DecidableEq Pubkey]

theorem assetSeed_short : assetSeed.utf8ByteSize < 32 := by decide

theorem globalConfigSeed_short : globalConfigSeed.utf8ByteSize < 32 := by decide

theorem assetPda_inj {a b : Pubkey} : assetPda a = assetPda b ↔ a = b := by
  refine ⟨fun h => ?_, fun h => by rw [h]⟩
  have hseeds := Runtime.findProgramAddress_injective assetSeed_short assetSeed_short h
  rw [Seeds.mk.injEq] at hseeds
  exact Option.some.inj hseeds.2

theorem assetPda_ne_globalConfigPda (id : Pubkey) : assetPda id ≠ globalConfigPda := by
  intro h
  have hseeds := Runtime.findProgramAddress_injective assetSeed_short globalConfigSeed_short h
  rw [Seeds.mk.injEq] at hseeds
  exact Option.some_ne_none id hseeds.2

theorem tokenizationPda_ne_globalConfigPda (key : Pubkey) :
    tokenizationPda key ≠ globalConfigPda := by
  intro h
  have hseeds :=
    Runtime.findProgramAddress_injective tokenizationSeed_short globalConfigSeed_short h
  rw [Seeds.mk.injEq] at hseeds
  exact Option.some_ne_none key hseeds.2

theorem assetPda_ne_tokenizationPda (id key : Pubkey) : assetPda id ≠ tokenizationPda key := by
  intro h
  have hseeds := Runtime.findProgramAddress_injective assetSeed_short tokenizationSeed_short h
  rw [Seeds.mk.injEq] at hseeds
  exact absurd hseeds.1 (by decide)

end

section

variable (hapart : AssociatedApart Pubkey) (h : Reachable l)

include hapart h

/-- The address of an asset is free as long as no asset has its id. -/
theorem assetPda_fresh_iff (id : Pubkey) :
    l.data? (assetPda id) = none ↔
      ∀ key asset, l.rwaAsset? key = some asset → asset.assetId ≠ id := by
  have hvalid := valid_of_reachable h
  constructor
  · rintro hfresh key asset hread rfl
    rw [hvalid.records.asset_eq hread] at hread
    exact Ledger.ne_of_read hread hfresh rfl
  · intro hunused
    cases hdata : l.data? (assetPda id) with
    | none => rfl
    | some data =>
        exfalso
        cases data with
        | globalConfig config =>
            exact assetPda_ne_globalConfigPda id ((countersValid_of_reachable h).config_eq
              (Ledger.globalConfig?_eq_some.mpr hdata))
        | rwaAsset asset =>
            have hread := Ledger.rwaAsset?_eq_some.mpr hdata
            exact hunused _ asset hread (assetPda_inj.mp (hvalid.records.asset_eq hread)).symm
        | tokenization record =>
            have hread : l.tokenization? (assetPda id) = some record :=
              Ledger.read_of_data? hdata _
            exact assetPda_ne_tokenizationPda id _ (hvalid.records.owned hread).1
        | mint record =>
            exact no_tokens_at_derived hapart h _ (Ledger.tokenAt_of_data hdata rfl)
        | tokenAccount account =>
            exact no_tokens_at_derived hapart h _ (Ledger.tokenAt_of_data hdata rfl)

/-- The address of the tokenization of an asset that is not tokenized is free. -/
theorem tokenizationPda_fresh {asset : RwaAsset Pubkey} (hread : l.rwaAsset? key = some asset)
    (huntokenized : asset.isTokenized = false) : l.data? (tokenizationPda key) = none := by
  have hvalid := valid_of_reachable h
  cases hdata : l.data? (tokenizationPda key) with
  | none => rfl
  | some data =>
      exfalso
      cases data with
      | globalConfig config =>
          exact tokenizationPda_ne_globalConfigPda key ((countersValid_of_reachable h).config_eq
            (Ledger.globalConfig?_eq_some.mpr hdata))
      | rwaAsset asset =>
          have hother := Ledger.rwaAsset?_eq_some.mpr hdata
          exact assetPda_ne_tokenizationPda _ _ (hvalid.records.asset_eq hother).symm
      | tokenization record =>
          have hlinked := hvalid.records.linked hread
          rw [show l.tokenization? (tokenizationPda key) = some record from
            Ledger.read_of_data? hdata _] at hlinked
          rw [hlinked.tokenized] at huntokenized
          cases huntokenized
      | mint record =>
          exact no_tokens_at_derived hapart h _ (Ledger.tokenAt_of_data hdata rfl)
      | tokenAccount account =>
          exact no_tokens_at_derived hapart h _ (Ledger.tokenAt_of_data hdata rfl)

end

/-! ## Room in the counters -/

/-- The counter of every configuration fits a `u64`. -/
def Ledger.CounterFits (l : Ledger Pubkey) : Prop :=
  ∀ key config, l.globalConfig? key = some config → config.totalAssets < u64Bound

omit [Runtime Pubkey] in
theorem Ledger.CounterFits.update (h : l.CounterFits) {config : GlobalConfig Pubkey}
    (hconfigs : l'.globalConfig? = Function.update l.globalConfig? key (some config))
    (hfits : config.totalAssets < u64Bound) : l'.CounterFits := by
  intro k c hread
  rw [hconfigs, Function.update_apply] at hread
  split at hread
  · cases hread
    exact hfits
  · exact h k c hread

theorem RecordStep.counterFits {action : Action Pubkey} (hstep : RecordStep ctx l l' action event)
    (h : l.CounterFits) : l'.CounterFits := by
  cases hstep with
  | idle same _ =>
      rw [Ledger.CounterFits, same.configs]
      exact h
  | initializeConfig effect => exact h.update effect.globalConfig? (by decide : 0 < u64Bound)
  | register effect => exact h.update effect.globalConfig? effect.room
  | tokenize effect =>
      have hfits := h _ _ effect.config_read
      exact h.update effect.globalConfig? hfits
  | edit accepted after =>
      rw [after, Ledger.CounterFits, Ledger.putAsset_globalConfig? accepted.asset_read]
      exact h
  | setStatus accepted after =>
      rw [after, Ledger.CounterFits, Ledger.putAsset_globalConfig? accepted.asset_read]
      exact h

theorem counterFits_of_reachable (h : Reachable l) : l.CounterFits := by
  refine h.invariant (fun l hstart key config hread => ?_) fun l tx hfits => ?_
  · rw [Ledger.globalConfig?, Ledger.read_of_empty hstart] at hread
    cases hread
  · rcases transact_recordStep l tx with ⟨_, -, hstep⟩ | ⟨e, he⟩
    · exact hstep.counterFits hfits
    · rw [next_of_error he]
      exact hfits

/-- An asset that is not tokenized leaves room in the counter of the tokenized ones. -/
theorem tokenized_room (h : Reachable l) {config : GlobalConfig Pubkey} {asset : RwaAsset Pubkey}
    (hconfig : l.globalConfig? globalConfigPda = some config)
    (hread : l.rwaAsset? key = some asset) (huntokenized : asset.isTokenized = false) :
    config.totalTokenizedAssets + 1 < u64Bound := by
  have hcounters := countersValid_of_reachable h
  have hassets := hcounters.assets
  have htokenized := hcounters.tokenized
  rw [Ledger.counter_of_read hconfig] at hassets htokenized
  have hlt := Ledger.tokenizedCount_lt hread huntokenized
  have hbound := counterFits_of_reachable h _ _ hconfig
  omega

/-! ## Registering and tokenizing -/

theorem transact_ok_iff {tx : Transaction Pubkey} :
    (∃ event after, transact l tx = (after, .ok event)) ↔
      ∃ event after, (tx.action.execute tx.ctx).run l = .ok event after := by
  constructor
  · rintro ⟨event, after, hok⟩
    rcases transact_cases l tx with ⟨event', after', hrun, -⟩ | ⟨e, he⟩
    · exact ⟨event', after', hrun⟩
    · rw [he] at hok
      cases hok
  · rintro ⟨event, after, hrun⟩
    exact ⟨event, after, transact_of_ok hrun⟩

section

variable (hapart : AssociatedApart Pubkey) (h : Reachable l) {config : GlobalConfig Pubkey}
  (hconfig : l.globalConfig? globalConfigPda = some config)

include hapart h hconfig

/-- In every reachable ledger a wallet that signs and pays registers an asset with valid
texts under any id that no asset has, unless there are as many assets as the counter can
count.  This is the instruction.  The fee of the transaction and the balance the runtime
wants the payer to keep come on top. -/
theorem register_iff (ctx : Context Pubkey) (owner id : Pubkey) (args : RegisterAssetArgs) :
    (∃ event after, transact l
        ⟨ctx, .program (.registerAsset ⟨globalConfigPda, id, assetPda id, owner⟩ args)⟩ =
          (after, .ok event)) ↔
      owner ∈ ctx.signers ∧ l.data? owner = none ∧ args.Valid ∧
        (∀ key asset, l.rwaAsset? key = some asset → asset.assetId ≠ id) ∧
        l.rentDue (assetPda id) RwaAsset.space + config.registrationFee ≤ l.lamports owner ∧
        l.assetCount + 1 < u64Bound := by
  have hcount := (countersValid_of_reachable h).assets
  rw [Ledger.counter_of_read hconfig] at hcount
  rw [transact_ok_iff, ← assetPda_fresh_iff hapart h, ← hcount]
  refine RegisterAsset.execute_ok_iff.trans ⟨?_, ?_⟩
  · rintro ⟨config', haccepted⟩
    cases hconfig.symm.trans haccepted.config_read
    exact ⟨haccepted.signed, haccepted.no_data, haccepted.valid, haccepted.fresh,
      haccepted.funds, haccepted.room⟩
  · rintro ⟨hsigned, hdata, hvalid, hfresh, hfunds, hroom⟩
    exact ⟨config, hsigned, hdata, hconfig, rfl, rfl, hfresh, hvalid, hfunds, hroom⟩

/-- In every reachable ledger the owner of an asset that is registered and not tokenized
tokenizes it with any mint that signs, where the mint and the associated account of the
owner are new.  As above, the fee of the transaction and the balance the payer keeps come
on top. -/
theorem tokenize_iff {asset : RwaAsset Pubkey} (hread : l.rwaAsset? key = some asset)
    (ctx : Context Pubkey) (owner mint account : Pubkey) (p : TokenProgram) (totalSupply : ℕ)
    (haccount : account = Runtime.associatedTokenAddress owner p mint) :
    (∃ event after, transact l ⟨ctx, .program (.tokenizeAsset
        ⟨globalConfigPda, key, mint, tokenizationPda key, account, owner, p⟩ totalSupply)⟩ =
          (after, .ok event)) ↔
      (asset.owner = owner ∧ asset.isTokenized = false ∧ asset.status = .registered) ∧
        (owner ∈ ctx.signers ∧ l.data? owner = none) ∧
        (mint ∈ ctx.signers ∧ l.data? mint = none ∧ owner ≠ mint) ∧
        (l.data? account = none ∧ owner ≠ account ∧ account ≠ mint) ∧
        (0 < totalSupply ∧ totalSupply < u64Bound) ∧
        l.rentDue mint mintSize + l.rentDue (tokenizationPda key) Tokenization.size +
          l.rentDue account (associatedAccountSize p) + config.tokenizationFee ≤
            l.lamports owner := by
  rw [transact_ok_iff]
  refine TokenizeAsset.execute_ok_iff.trans ⟨?_, ?_⟩
  · rintro ⟨config', asset', haccepted⟩
    cases hconfig.symm.trans haccepted.config_read
    cases hread.symm.trans haccepted.asset_read
    exact ⟨⟨haccepted.owner_eq, haccepted.untokenized, haccepted.registered⟩,
      ⟨haccepted.signed, haccepted.no_data⟩,
      ⟨haccepted.mint_signed, haccepted.mint_fresh, haccepted.owner_ne_mint⟩,
      ⟨haccepted.account_fresh, haccepted.owner_ne_account, haccepted.account_ne_mint⟩,
      ⟨haccepted.positive, haccepted.bounded⟩, haccepted.funds⟩
  · rintro ⟨⟨howner, huntokenized, hregistered⟩, ⟨hsigned, hdata⟩,
      ⟨hmintSigned, hmintFresh, hownerMint⟩, ⟨haccountFresh, hownerAccount, haccountMint⟩,
      ⟨hpositive, hbounded⟩, hfunds⟩
    refine ⟨config, asset, hsigned, hdata, hmintSigned, hconfig, rfl, hread,
      (valid_of_reachable h).records.asset_eq hread, howner, huntokenized, hregistered, hmintFresh,
      rfl, tokenizationPda_fresh hapart h hread huntokenized, haccount, haccountFresh, hownerMint,
      hownerAccount, haccountMint, ?_, hpositive, hbounded, hfunds,
      tokenized_room h hconfig hread huntokenized⟩
    rw [haccount]
    exact hapart owner p mint _

end

namespace Address

theorem associatedApart : AssociatedApart Address := by
  rintro owner p mint ⟨literal, _ | key⟩ h
  all_goals cases h

/-- The ledger before the sample asset is registered. -/
def initialized : Ledger Address := programMachine.run genesis (registerHouse.take 1)

theorem initialized_globalConfig? : initialized.globalConfig? globalConfigPda =
    some ⟨.key 9, 1000, 2000, 100, true, 0, 0⟩ := by decide

theorem registered_globalConfig? :
    (programMachine.run genesis registerHouse).globalConfig? globalConfigPda =
      some ⟨.key 9, 1000, 2000, 100, true, 1, 0⟩ := by decide

theorem registered_rwaAsset? : (programMachine.run genesis registerHouse).rwaAsset? house =
    some ⟨houseId, .key 10, .realEstate, .registered, "House", "HSE", "", "uri", 5, 0, none, none,
      false⟩ := by decide

end Address

/-- The id of the sample asset is free before it is registered. -/
theorem register_iff_house :
    ∃ event after, transact Address.initialized (Address.program [10]
      (.registerAsset ⟨globalConfigPda, Address.houseId, Address.house, .key 10⟩
        ⟨.realEstate, "House", "HSE", "", "uri", 5⟩)) = (after, .ok event) := by
  have hreach : Reachable Address.initialized := Address.reachable_run_genesis _
  refine (register_iff Address.associatedApart hreach Address.initialized_globalConfig?
    (Address.signedBy [10]) (.key 10) Address.houseId _).mpr ⟨by decide, by decide,
      ⟨⟨by decide, by decide⟩, ⟨by decide, by decide⟩, by decide, ⟨by decide, by decide⟩,
        by decide⟩, ?_, by decide, by decide⟩
  exact (assetPda_fresh_iff Address.associatedApart hreach _).mp (by decide)

/-- The sample asset can be tokenized once it is registered. -/
theorem tokenize_iff_house :
    ∃ event after, transact (programMachine.run Address.genesis Address.registerHouse)
      Address.tokenizeHouse = (after, .ok event) :=
  (tokenize_iff Address.associatedApart (Address.reachable_run_genesis _)
    Address.registered_globalConfig? Address.registered_rwaAsset? (Address.signedBy [10, 20])
    (.key 10) Address.houseMint (Address.houseAccount 10) .token 100 rfl).mpr
    ⟨⟨rfl, rfl, rfl⟩, by decide, by decide, by decide, by decide, by decide⟩

end RwaTokenization
