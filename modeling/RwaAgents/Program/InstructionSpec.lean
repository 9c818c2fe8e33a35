import RwaAgents.Program.Execution

/-!
# What a successful instruction did

For every instruction that writes an account, a structure says what held before
it and which accounts it left different.  The lemmas invert the execution: a
successful run has the structure.  Where later results need to know when a call
succeeds, the lemma is an equivalence.

Accounts are compared by `data?`.  Lamports are left out.
-/

namespace RwaTokenization

open EStateM

variable {Pubkey : Type} [DecidableEq Pubkey] [Runtime Pubkey] {ctx : Context Pubkey}
  {l l' : Ledger Pubkey} {event : Option (Event Pubkey)}

/-- A place is free after a write if it was free and is not the one written to. -/
theorem update_eq_none {α β : Type} [DecidableEq α] {f : α → Option β} {a b : α} {v : β} :
    Function.update f a (some v) b = none ↔ b ≠ a ∧ f b = none := by
  rw [Function.update_apply]
  by_cases h : b = a <;> simp [h]

/-! ## Initialize -/

/-- The authority signed, there was no configuration and the fee is at most the whole.  Now
there is one, with both counters at zero, and no other account changed. -/
structure Initialize.Effect (ctx : Context Pubkey) (accs : Initialize Pubkey)
    (params : InitializeParams) (l l' : Ledger Pubkey) : Prop where
  signed : accs.authority ∈ ctx.signers
  config_eq : accs.globalConfig = globalConfigPda
  fresh : l.data? accs.globalConfig = none
  fee : params.platformFeeBps ≤ 10000
  data : l'.data? = Function.update l.data? accs.globalConfig (some (.globalConfig
    ⟨accs.authority, params.registrationFee, params.tokenizationFee, params.platformFeeBps, true,
      0, 0⟩))

/-- An initialization that succeeds has this effect and emits nothing. -/
theorem Initialize.effect {accs : Initialize Pubkey} {params : InitializeParams}
    (h : ((Instruction.initializeConfig accs params).execute ctx).run l = .ok event l') :
    event = none ∧ accs.Effect ctx params l l' := by
  simp only [Instruction.execute, tryAccounts, bind_assoc, require_bind_ok] at h
  obtain ⟨hsigned, hconfig, h⟩ := h
  obtain ⟨_, l₁, hcreate, h⟩ := bind_ok.mp h
  obtain ⟨hfresh, hdata⟩ := createAccount_ok hcreate
  simp only [process, require_bind_ok, onGlobalConfig, onRecord_bind_ok, GlobalConfig.init_ok,
    pure_ok] at h
  obtain ⟨hfee, _, _, _, -, ⟨-, -, rfl⟩, rfl, rfl⟩ := h
  refine ⟨rfl, hsigned, hconfig, hfresh, hfee, ?_⟩
  rw [Ledger.put_data?, hdata, Function.update_idem]

/-! ## Register an asset -/

/-- The limits on the texts, and a valuation that is not zero. -/
structure RegisterAssetArgs.Valid (args : RegisterAssetArgs) : Prop where
  name : TextWithin maxNameLength args.name
  symbol : TextWithin maxSymbolLength args.symbol
  description : args.description.utf8ByteSize ≤ maxDescriptionLength
  uri : TextWithin maxUriLength args.uri
  valuation : 0 < args.valuation

/-- The record a registration creates. -/
def RegisterAsset.record (accs : RegisterAsset Pubkey) (args : RegisterAssetArgs) (now : ℤ) :
    RwaAsset Pubkey :=
  ⟨accs.assetId, accs.owner, args.assetType, .registered, args.name, args.symbol, args.description,
    args.uri, args.valuation, now, none, none, false⟩

/-- The owner signed, the account of the id was free and the arguments are valid.  Now it
holds the record, the counter of assets is one higher, and no other account changed. -/
structure RegisterAsset.Effect (ctx : Context Pubkey) (accs : RegisterAsset Pubkey)
    (args : RegisterAssetArgs) (config : GlobalConfig Pubkey) (l l' : Ledger Pubkey) : Prop where
  signed : accs.owner ∈ ctx.signers
  config_read : l.globalConfig? accs.globalConfig = some config
  config_eq : accs.globalConfig = globalConfigPda
  asset_eq : accs.asset = assetPda accs.assetId
  fresh : l.data? accs.asset = none
  valid : args.Valid
  room : config.totalAssets + 1 < u64Bound
  data : l'.data? = Function.update
    (Function.update l.data? accs.asset
      (some (.rwaAsset (accs.record args ctx.unixTimestamp))))
    accs.globalConfig (some (.globalConfig { config with totalAssets := config.totalAssets + 1 }))

namespace RegisterAsset.Effect

variable {accs : RegisterAsset Pubkey} {args : RegisterAssetArgs} {config : GlobalConfig Pubkey}
  (h : accs.Effect ctx args config l l')

include h

/-- The configuration was there and the asset was not. -/
theorem config_ne_asset : accs.globalConfig ≠ accs.asset := Ledger.ne_of_read h.config_read h.fresh

/-- What a kind reads afterwards. -/
theorem read {β : Type} (kind : AccountData Pubkey → Option β) :
    l'.read kind = Function.update
      (Function.update (l.read kind) accs.asset
        (kind (.rwaAsset (accs.record args ctx.unixTimestamp))))
      accs.globalConfig
        (kind (.globalConfig { config with totalAssets := config.totalAssets + 1 })) := by
  unfold Ledger.read
  rw [h.data, Ledger.bind_update, Ledger.bind_update]

theorem rwaAsset? : l'.rwaAsset? =
    Function.update l.rwaAsset? accs.asset (some (accs.record args ctx.unixTimestamp)) := by
  refine (h.read _).trans (Ledger.update_none ?_)
  rw [Function.update_of_ne h.config_ne_asset]
  exact Ledger.read_of_data? (Ledger.globalConfig?_eq_some.mp h.config_read) _

theorem tokenization? : l'.tokenization? = l.tokenization? := by
  refine (h.read _).trans ?_
  simp only [AccountData.tokenization?]
  rw [Ledger.update_none (Ledger.read_of_data?_eq_none h.fresh _)]
  exact Ledger.update_none (Ledger.read_of_data? (Ledger.globalConfig?_eq_some.mp h.config_read) _)

end RegisterAsset.Effect

/-- A registration that succeeds has this effect, and its event says so. -/
theorem RegisterAsset.effect {accs : RegisterAsset Pubkey} {args : RegisterAssetArgs}
    (h : ((Instruction.registerAsset accs args).execute ctx).run l = .ok event l') :
    event = some (.assetRegistered accs.asset accs.owner args.assetType args.name
        ctx.unixTimestamp) ∧
      ∃ config, accs.Effect ctx args config l l' := by
  simp only [Instruction.execute, tryAccounts, loadGlobalConfig, bind_assoc, load_bind_ok,
    require_bind_ok] at h
  obtain ⟨config, hread, hsigned, hasset, h⟩ := h
  obtain ⟨_, l₁, hcreate, h⟩ := bind_ok.mp h
  obtain ⟨hfresh, hdata⟩ := createAccount_ok hcreate
  simp only [process, validateName, validateSymbol, validateDescription, validateUri,
    validateValuation, validateText_bind_ok, loadGlobalConfig, load_bind_ok, require_bind_ok,
    get_bind_ok, systemTransfer_bind_ok, onRwaAsset, onGlobalConfig, onRecord_bind_ok,
    RwaAsset.init_ok, GlobalConfig.incrementTotalAssets_ok, pure_ok] at h
  obtain ⟨hconfig, hname, hsymbol, hdescription, huri, hvaluation, _, -, -, -, _, _, asset, -,
    ⟨-, -, -, -, hrecord⟩, _, config', _, hread', ⟨hroom, rfl⟩, rfl, rfl⟩ := h
  -- Nothing before the last write touched the configuration.
  have hne := Ledger.ne_of_read hread hfresh
  rw [Ledger.put_read, Function.update_of_ne hne, Ledger.pay_read, Ledger.read_update hdata,
    Function.update_of_ne hne, hread] at hread'
  cases hread'
  refine ⟨rfl, config, hsigned, hread, hconfig, hasset, hfresh,
    ⟨hname, hsymbol, hdescription, huri, hvaluation⟩, hroom, ?_⟩
  rw [Ledger.put_data?, Ledger.put_data?, Ledger.pay_data?, hdata, Function.update_idem, hrecord]
  rfl

/-! ## Tokenize an asset -/

namespace TokenizeAsset

/-- The mint a tokenization creates, with its supply. -/
def newMint (accs : TokenizeAsset Pubkey) (supply : ℕ) : Mint Pubkey :=
  ⟨accs.tokenProgram, some accs.tokenization, supply, defaultDecimals, none⟩

/-- The account of the owner, with the units it was given. -/
def newAccount (accs : TokenizeAsset Pubkey) (amount : ℕ) : TokenAccount Pubkey :=
  ⟨accs.tokenProgram, accs.mint, accs.owner, amount, false⟩

def newTokenization (accs : TokenizeAsset Pubkey) (totalSupply : ℕ) (now : ℤ) :
    Tokenization Pubkey :=
  ⟨accs.asset, accs.mint, totalSupply, now, accs.owner⟩

/-- The owner signed, the asset was registered and not tokenized, and the mint, the
tokenization and the account of the owner were free and are three addresses.  Now they hold
the supply, the record is that of an active asset with this mint, the counter of tokenized
assets is one higher, and no other account changed. -/
structure Effect (ctx : Context Pubkey) (accs : TokenizeAsset Pubkey) (totalSupply : ℕ)
    (config : GlobalConfig Pubkey) (asset : RwaAsset Pubkey) (l l' : Ledger Pubkey) : Prop where
  signed : accs.owner ∈ ctx.signers
  config_read : l.globalConfig? accs.globalConfig = some config
  config_eq : accs.globalConfig = globalConfigPda
  asset_read : l.rwaAsset? accs.asset = some asset
  asset_eq : accs.asset = assetPda asset.assetId
  owner_eq : asset.owner = accs.owner
  untokenized : asset.isTokenized = false
  registered : asset.status = .registered
  mint_fresh : l.data? accs.mint = none
  tokenization_eq : accs.tokenization = tokenizationPda accs.asset
  tokenization_fresh : l.data? accs.tokenization = none
  account_fresh : l.data? accs.ownerTokenAccount = none
  tokenization_ne_mint : accs.tokenization ≠ accs.mint
  account_ne_mint : accs.ownerTokenAccount ≠ accs.mint
  account_ne_tokenization : accs.ownerTokenAccount ≠ accs.tokenization
  positive : 0 < totalSupply
  bounded : totalSupply < u64Bound
  room : config.totalTokenizedAssets + 1 < u64Bound
  data : l'.data? =
    Function.update (Function.update (Function.update (Function.update (Function.update l.data?
      accs.tokenization
        (some (.tokenization (accs.newTokenization totalSupply ctx.unixTimestamp))))
      accs.ownerTokenAccount (some (.tokenAccount (accs.newAccount totalSupply))))
      accs.mint (some (.mint (accs.newMint totalSupply))))
      accs.asset (some (.rwaAsset (asset.tokenized accs.mint ctx.unixTimestamp))))
      accs.globalConfig
        (some (.globalConfig
          { config with totalTokenizedAssets := config.totalTokenizedAssets + 1 }))

namespace Effect

variable {accs : TokenizeAsset Pubkey} {totalSupply : ℕ} {config : GlobalConfig Pubkey}
  {asset : RwaAsset Pubkey} (h : accs.Effect ctx totalSupply config asset l l')

include h

/-- What a kind reads afterwards. -/
theorem read {β : Type} (kind : AccountData Pubkey → Option β) :
    l'.read kind =
      Function.update (Function.update (Function.update (Function.update (Function.update
        (l.read kind)
        accs.tokenization
          (kind (.tokenization (accs.newTokenization totalSupply ctx.unixTimestamp))))
        accs.ownerTokenAccount (kind (.tokenAccount (accs.newAccount totalSupply))))
        accs.mint (kind (.mint (accs.newMint totalSupply))))
        accs.asset (kind (.rwaAsset (asset.tokenized accs.mint ctx.unixTimestamp))))
        accs.globalConfig
          (kind (.globalConfig
            { config with totalTokenizedAssets := config.totalTokenizedAssets + 1 })) := by
  unfold Ledger.read
  rw [h.data, Ledger.bind_update, Ledger.bind_update, Ledger.bind_update, Ledger.bind_update,
    Ledger.bind_update]

theorem asset_data : l.data? accs.asset = some (.rwaAsset asset) :=
  Ledger.rwaAsset?_eq_some.mp h.asset_read

theorem config_data : l.data? accs.globalConfig = some (.globalConfig config) :=
  Ledger.globalConfig?_eq_some.mp h.config_read

theorem config_ne_asset : accs.globalConfig ≠ accs.asset := by
  intro he
  have hdata := h.config_data
  rw [he, h.asset_data] at hdata
  cases hdata

/-- Of the assets, the one that was tokenized changed. -/
theorem rwaAsset? : l'.rwaAsset? = Function.update l.rwaAsset? accs.asset
    (some (asset.tokenized accs.mint ctx.unixTimestamp)) := by
  refine (h.read _).trans ?_
  simp only [AccountData.rwaAsset?]
  rw [Ledger.update_none (Ledger.read_of_data?_eq_none h.tokenization_fresh _),
    Ledger.update_none (Ledger.read_of_data?_eq_none h.account_fresh _),
    Ledger.update_none (Ledger.read_of_data?_eq_none h.mint_fresh _)]
  refine Ledger.update_none ?_
  rw [Function.update_of_ne h.config_ne_asset]
  exact Ledger.read_of_data? h.config_data _

theorem tokenization? : l'.tokenization? = Function.update l.tokenization? accs.tokenization
    (some (accs.newTokenization totalSupply ctx.unixTimestamp)) := by
  have hother : ∀ {k}, k ≠ accs.tokenization → l.read AccountData.tokenization? k = none →
      Function.update (l.read AccountData.tokenization?) accs.tokenization
        (some (accs.newTokenization totalSupply ctx.unixTimestamp)) k = none := by
    intro k hk hread
    rw [Function.update_of_ne hk, hread]
  refine (h.read _).trans ?_
  simp only [AccountData.tokenization?]
  rw [Ledger.update_none (hother h.account_ne_tokenization
      (Ledger.read_of_data?_eq_none h.account_fresh _)),
    Ledger.update_none (hother h.tokenization_ne_mint.symm
      (Ledger.read_of_data?_eq_none h.mint_fresh _)),
    Ledger.update_none (hother (Ledger.ne_of_read h.asset_read h.tokenization_fresh)
      (Ledger.read_of_data? h.asset_data _)),
    Ledger.update_none (hother (Ledger.ne_of_read h.config_read h.tokenization_fresh)
      (Ledger.read_of_data? h.config_data _))]
  rfl

/-- Of the token accounts, the one of the owner is new. -/
theorem tokenAccount? : l'.tokenAccount? = Function.update l.tokenAccount? accs.ownerTokenAccount
    (some (accs.newAccount totalSupply)) := by
  have hother : ∀ {k}, k ≠ accs.ownerTokenAccount → l.read AccountData.tokenAccount? k = none →
      Function.update (l.read AccountData.tokenAccount?) accs.ownerTokenAccount
        (some (accs.newAccount totalSupply)) k = none := by
    intro k hk hread
    rw [Function.update_of_ne hk, hread]
  refine (h.read _).trans ?_
  simp only [AccountData.tokenAccount?]
  rw [Ledger.update_none (Ledger.read_of_data?_eq_none h.tokenization_fresh _),
    Ledger.update_none (hother h.account_ne_mint.symm
      (Ledger.read_of_data?_eq_none h.mint_fresh _)),
    Ledger.update_none (hother (Ledger.ne_of_read h.asset_read h.account_fresh)
      (Ledger.read_of_data? h.asset_data _)),
    Ledger.update_none (hother (Ledger.ne_of_read h.config_read h.account_fresh)
      (Ledger.read_of_data? h.config_data _))]
  rfl

/-- Of the mints, one is new. -/
theorem mint? : l'.mint? =
    Function.update l.mint? accs.mint (some (accs.newMint totalSupply)) := by
  have hother : ∀ {k}, k ≠ accs.mint → l.read AccountData.mint? k = none →
      Function.update (l.read AccountData.mint?) accs.mint (some (accs.newMint totalSupply)) k =
        none := by
    intro k hk hread
    rw [Function.update_of_ne hk, hread]
  refine (h.read _).trans ?_
  simp only [AccountData.mint?]
  rw [Ledger.update_none (Ledger.read_of_data?_eq_none h.tokenization_fresh _),
    Ledger.update_none (Ledger.read_of_data?_eq_none h.account_fresh _),
    Ledger.update_none (hother (Ledger.ne_of_read h.asset_read h.mint_fresh)
      (Ledger.read_of_data? h.asset_data _)),
    Ledger.update_none (hother (Ledger.ne_of_read h.config_read h.mint_fresh)
      (Ledger.read_of_data? h.config_data _))]
  rfl

end Effect

/-- The three accounts the framework creates before the body runs. -/
theorem tryAccounts_ok {accs : TokenizeAsset Pubkey} {u : Unit}
    (h : (accs.tryAccounts ctx).run l = .ok u l') :
    ∃ config asset, l.globalConfig? accs.globalConfig = some config ∧
      l.rwaAsset? accs.asset = some asset ∧ accs.owner ∈ ctx.signers ∧
      accs.globalConfig = globalConfigPda ∧ accs.asset = assetPda asset.assetId ∧
      asset.owner = accs.owner ∧ asset.isTokenized = false ∧
      accs.tokenization = tokenizationPda accs.asset ∧ l.data? accs.mint = none ∧
      (accs.tokenization ≠ accs.mint ∧ l.data? accs.tokenization = none) ∧
      (accs.ownerTokenAccount ≠ accs.tokenization ∧ accs.ownerTokenAccount ≠ accs.mint ∧
        l.data? accs.ownerTokenAccount = none) ∧
      l'.data? = Function.update (Function.update (Function.update l.data?
        accs.mint (some (.mint (accs.newMint 0))))
        accs.tokenization (some (.tokenization (.zeroed Runtime.zero))))
        accs.ownerTokenAccount (some (.tokenAccount (accs.newAccount 0))) := by
  simp only [tryAccounts, loadGlobalConfig, loadRwaAsset, load_bind_ok, require_bind_ok] at h
  obtain ⟨config, hconfig, asset, hasset, hsigned, h⟩ := h
  obtain ⟨_, l₁, hmint, h⟩ := bind_ok.mp h
  obtain ⟨_, l₂, htokenization, h⟩ := bind_ok.mp h
  obtain ⟨_, l₃, haccount, h⟩ := bind_ok.mp h
  obtain ⟨-, hmintFresh, hdata₁⟩ := TokenProgram.initializeMint_ok hmint
  rw [initTokenization, require_bind_ok] at htokenization
  obtain ⟨htokenizationEq, htokenization⟩ := htokenization
  obtain ⟨htokenizationFresh, hdata₂⟩ := createAccount_ok htokenization
  rw [initOwnerTokenAccount, require_bind_ok] at haccount
  obtain ⟨haccountEq, haccount⟩ := haccount
  obtain ⟨_, -, -, haccountFresh, hdata₃⟩ := TokenProgram.createAssociated_ok haccount
  simp only [require_bind_ok, require_ok] at h
  obtain ⟨hconfigEq, hassetEq, howner, huntokenized, rfl⟩ := h
  rw [← haccountEq] at haccountFresh hdata₃
  rw [hdata₁, update_eq_none] at htokenizationFresh
  rw [hdata₂, hdata₁, update_eq_none, update_eq_none] at haccountFresh
  refine ⟨config, asset, hconfig, hasset, hsigned, hconfigEq, hassetEq, howner, huntokenized,
    htokenizationEq, hmintFresh, htokenizationFresh, haccountFresh, ?_⟩
  rw [hdata₃, hdata₂, hdata₁]
  rfl

/-- A tokenization that succeeds has this effect, and its event says so. -/
theorem effect {accs : TokenizeAsset Pubkey} {totalSupply : ℕ}
    (h : ((Instruction.tokenizeAsset accs totalSupply).execute ctx).run l = .ok event l') :
    event = some (.assetTokenized accs.asset accs.mint totalSupply ctx.unixTimestamp) ∧
      ∃ config asset, accs.Effect ctx totalSupply config asset l l' := by
  obtain ⟨_, created, haccounts, h⟩ := bind_ok.mp h
  obtain ⟨config, asset, hconfig, hasset, hsigned, hconfigEq, hassetEq, howner, huntokenized,
    htokenizationEq, hmintFresh, ⟨htokMint, htokenizationFresh⟩, ⟨haccTok, haccMint, haccountFresh⟩,
    hdata⟩ := tryAccounts_ok haccounts
  simp only [process, mintToOwner, loadGlobalConfig, load_bind_ok, require_bind_ok, get_bind_ok,
    systemTransfer_bind_ok, onTokenization, onRwaAsset, onGlobalConfig, onRecord_bind_ok,
    Tokenization.init_ok, TokenProgram.mintTo_bind_ok, RwaAsset.tokenize_ok,
    GlobalConfig.incrementTotalTokenizedAssets_ok, pure_ok] at h
  obtain ⟨hpositive, _, -, -, -, _, _, tokenization, -, ⟨-, htokenization⟩, account, mint,
    haccepted, _, asset', asset'', hasset', ⟨-, hregistered, hasset''⟩, _, config', config'',
    hconfig', ⟨hroom, hconfig''⟩, rfl, rfl⟩ := h
  -- The accounts that existed before are not among the three new ones.
  have hassetMint := Ledger.ne_of_read hasset hmintFresh
  have hassetTok := Ledger.ne_of_read hasset htokenizationFresh
  have hassetAcc := Ledger.ne_of_read hasset haccountFresh
  have hconfigMint := Ledger.ne_of_read hconfig hmintFresh
  have hconfigTok := Ledger.ne_of_read hconfig htokenizationFresh
  have hconfigAcc := Ledger.ne_of_read hconfig haccountFresh
  have haccount : accs.newAccount 0 = account := by
    have hread := haccepted.account_eq
    simp only [Ledger.tokenAccount?, Ledger.read, Ledger.put_data?, Ledger.pay_data?, hdata,
      Function.update_of_ne haccTok, Function.update_self] at hread
    exact Option.some.inj hread
  have hmint : accs.newMint 0 = mint := by
    have hread := haccepted.record_eq
    simp only [Ledger.mint?, Ledger.read, Ledger.put_data?, Ledger.pay_data?, hdata,
      Function.update_of_ne htokMint.symm, Function.update_of_ne haccMint.symm,
      Function.update_self] at hread
    exact Option.some.inj hread
  have hassetSame : asset = asset' := by
    simp only [Ledger.setSupply, Ledger.setAmount, Ledger.read, Ledger.put_data?, Ledger.pay_data?,
      hdata, Function.update_of_ne hassetMint, Function.update_of_ne hassetTok,
      Function.update_of_ne hassetAcc] at hasset'
    exact Option.some.inj (hasset.symm.trans hasset')
  have hconfigSame : config = config' := by
    have hconfigAsset : accs.globalConfig ≠ accs.asset := by
      intro he
      have hdata' := Ledger.globalConfig?_eq_some.mp hconfig
      rw [he, Ledger.rwaAsset?_eq_some.mp hasset] at hdata'
      cases hdata'
    simp only [Ledger.setSupply, Ledger.setAmount, Ledger.read, Ledger.put_data?, Ledger.pay_data?,
      hdata, Function.update_of_ne hconfigMint, Function.update_of_ne hconfigTok,
      Function.update_of_ne hconfigAcc, Function.update_of_ne hconfigAsset] at hconfig'
    exact Option.some.inj (hconfig.symm.trans hconfig')
  subst haccount hmint hassetSame hconfigSame htokenization hasset'' hconfig''
  refine ⟨rfl, config, asset, hsigned, hconfig, hconfigEq, hasset, hassetEq, howner, huntokenized,
    hregistered, hmintFresh, htokenizationEq, htokenizationFresh, haccountFresh, htokMint, haccMint,
    haccTok, hpositive, ?_, hroom, ?_⟩
  · have hbound := haccepted.room
    simp only [newAccount, Nat.zero_add] at hbound
    exact hbound
  · funext k
    simp only [Ledger.setSupply, Ledger.setAmount, Ledger.put_data?, Ledger.pay_data?, hdata,
      Function.update_apply, newMint, newAccount, Nat.zero_add]
    split_ifs <;> rfl

end TokenizeAsset

/-! ## Transfer ownership -/

/-- A transfer of ownership is accepted: the asset is tokenized and active with
this mint, and the token program accepts the transfer. -/
structure TransferOwnership.Accepted (ctx : Context Pubkey) (accs : TransferOwnership Pubkey)
    (amount : ℕ) (asset : RwaAsset Pubkey) (mint : Mint Pubkey)
    (fromAccount toAccount : TokenAccount Pubkey) (l : Ledger Pubkey) : Prop where
  asset_read : l.rwaAsset? accs.asset = some asset
  asset_eq : accs.asset = assetPda asset.assetId
  tokenized : asset.isTokenized = true
  active : asset.status = .active
  asset_mint : asset.mint = some accs.mint
  mint_read : l.mint? accs.mint = some mint
  positive : 0 < amount
  transfer : l.TransferAccepted accs.tokenProgram ctx.signers accs.fromTokenAccount
    accs.toTokenAccount accs.from amount (some (accs.mint, mint.decimals)) fromAccount toAccount

/-- A transfer succeeds exactly if it is accepted, and moves the units. -/
theorem TransferOwnership.execute_ok {accs : TransferOwnership Pubkey} {amount : ℕ} :
    ((Instruction.transferOwnership accs amount).execute ctx).run l = .ok event l' ↔
      ∃ asset mint fromAccount toAccount,
        accs.Accepted ctx amount asset mint fromAccount toAccount l ∧
        event = some (.ownershipTransferred accs.asset accs.from accs.toTokenAccount amount) ∧
        l' = l.moved accs.fromTokenAccount accs.toTokenAccount fromAccount toAccount amount := by
  simp only [Instruction.execute, tryAccounts, process, loadRwaAsset, loadTokenAccount, loadMint,
    bind_assoc, load_bind_ok, require_bind_ok]
  constructor
  · rintro ⟨asset, hasset, hsigned, fromAccount, hfrom, toAccount, hto, _, -, hassetEq, htokenized,
      hactive, -, -, -, -, hmint, hpositive, mint, hread, h⟩
    obtain ⟨_, _, htransfer, h⟩ := bind_ok.mp h
    obtain ⟨fromAccount', toAccount', haccepted, rfl⟩ := TokenProgram.transfer_ok.mp htransfer
    obtain ⟨rfl, rfl⟩ := pure_ok.mp h
    exact ⟨asset, mint, fromAccount', toAccount', ⟨hasset, hassetEq, htokenized, hactive, hmint,
      hread, hpositive, haccepted⟩, rfl, rfl⟩
  · rintro ⟨asset, mint, fromAccount, toAccount, h, rfl, rfl⟩
    have hfromMint := h.transfer.checked_by.1
    refine ⟨asset, h.asset_read, h.transfer.signed, fromAccount, h.transfer.source_eq, toAccount,
      h.transfer.destination_eq, mint, h.mint_read, h.asset_eq, h.tokenized, h.active, ?_,
      h.transfer.owner_eq, hfromMint, h.transfer.mint_eq.symm.trans hfromMint, h.asset_mint,
      h.positive, mint, h.mint_read, ?_⟩
    · rw [h.active]
      decide
    · exact bind_ok.mpr ⟨(), _,
        TokenProgram.transfer_ok.mpr ⟨fromAccount, toAccount, h.transfer, rfl⟩,
        pure_ok.mpr ⟨rfl, rfl⟩⟩

/-! ## Update the metadata of an asset -/

/-- The limits on the texts that are given. -/
structure UpdateAssetMetadataArgs.Valid (args : UpdateAssetMetadataArgs) : Prop where
  name : ∀ t ∈ args.name, TextWithin maxNameLength t
  description : ∀ t ∈ args.description, t.utf8ByteSize ≤ maxDescriptionLength
  uri : ∀ t ∈ args.uri, TextWithin maxUriLength t

/-- An update is accepted: the owner signed and what is given is valid.  The status plays no
part. -/
structure UpdateAssetMetadata.Accepted (ctx : Context Pubkey) (accs : UpdateAssetMetadata Pubkey)
    (args : UpdateAssetMetadataArgs) (asset : RwaAsset Pubkey) (l : Ledger Pubkey) : Prop where
  asset_read : l.rwaAsset? accs.asset = some asset
  signed : accs.owner ∈ ctx.signers
  asset_eq : accs.asset = assetPda asset.assetId
  owner_eq : asset.owner = accs.owner
  valid : args.Valid

/-- Behind a check of a text that may be missing, the text is valid where it is given. -/
theorem validateIfProvided_bind_ok {σ α : Type} {validate : String → EStateM ProgramError σ Unit}
    {valid : String → Prop}
    (hvalidate : ∀ t s s', (validate t).run s = .ok () s' ↔ valid t ∧ s = s')
    {text : Option String} {f : Unit → EStateM ProgramError σ α} {a : α} {s s' : σ} :
    (validateIfProvided validate text >>= f).run s = .ok a s' ↔
      (∀ t ∈ text, valid t) ∧ (f ()).run s = .ok a s' := by
  cases text with
  | none =>
      simp only [validateIfProvided, pure_bind, Option.not_mem_none, false_implies, implies_true,
        true_and]
  | some t =>
      simp only [validateIfProvided, bind_ok, hvalidate, Option.mem_some_iff, forall_eq']
      constructor
      · rintro ⟨_, _, ⟨ht, rfl⟩, h⟩
        exact ⟨ht, h⟩
      · exact fun ⟨ht, h⟩ => ⟨(), s, ⟨ht, rfl⟩, h⟩

section

variable {σ α : Type} {text : Option String} {f : Unit → EStateM ProgramError σ α} {a : α}
  {s s' : σ}

theorem validateNameIfProvided_bind_ok :
    (validateIfProvided validateName text >>= f).run s = .ok a s' ↔
      (∀ t ∈ text, TextWithin maxNameLength t) ∧ (f ()).run s = .ok a s' :=
  validateIfProvided_bind_ok fun _ _ _ => validateText_ok

theorem validateDescriptionIfProvided_bind_ok :
    (validateIfProvided validateDescription text >>= f).run s = .ok a s' ↔
      (∀ t ∈ text, t.utf8ByteSize ≤ maxDescriptionLength) ∧ (f ()).run s = .ok a s' :=
  validateIfProvided_bind_ok fun _ _ _ => require_ok

theorem validateUriIfProvided_bind_ok :
    (validateIfProvided validateUri text >>= f).run s = .ok a s' ↔
      (∀ t ∈ text, TextWithin maxUriLength t) ∧ (f ()).run s = .ok a s' :=
  validateIfProvided_bind_ok fun _ _ _ => validateText_ok

end

/-- An update succeeds exactly if it is accepted, and writes what is given. -/
theorem UpdateAssetMetadata.execute_ok {accs : UpdateAssetMetadata Pubkey}
    {args : UpdateAssetMetadataArgs} :
    ((Instruction.updateAssetMetadata accs args).execute ctx).run l = .ok event l' ↔
      ∃ asset, accs.Accepted ctx args asset l ∧
        event = some (.assetMetadataUpdated accs.asset ctx.unixTimestamp) ∧
        l' = l.put accs.asset
          (.rwaAsset (asset.withMetadata args.name args.description args.uri)) := by
  simp only [Instruction.execute, tryAccounts, process, loadRwaAsset, bind_assoc, load_bind_ok,
    require_bind_ok, onRwaAsset, validateNameIfProvided_bind_ok,
    validateDescriptionIfProvided_bind_ok, validateUriIfProvided_bind_ok, onRecord_bind_ok,
    RwaAsset.updateMetadata_ok, pure_ok]
  constructor
  · rintro ⟨asset, hasset, hsigned, hassetEq, howner, hname, hdescription, huri, _, asset', _,
      hasset', ⟨-, -, -, rfl⟩, rfl, rfl⟩
    cases hasset.symm.trans hasset'
    exact ⟨asset, ⟨hasset, hsigned, hassetEq, howner, ⟨hname, hdescription, huri⟩⟩, rfl, rfl⟩
  · rintro ⟨asset, h, rfl, rfl⟩
    exact ⟨asset, h.asset_read, h.signed, h.asset_eq, h.owner_eq, h.valid.name, h.valid.description,
      h.valid.uri, (), asset, _, h.asset_read, ⟨fun t ht => (h.valid.name t ht).1,
      h.valid.description, fun t ht => (h.valid.uri t ht).1, rfl⟩, rfl, rfl⟩

/-! ## Verify ownership -/

/-- A verification succeeds for every tokenized asset, whatever the account and the owner,
and writes nothing. -/
theorem VerifyOwnership.execute_ok {accs : VerifyOwnership Pubkey} :
    ((Instruction.verifyOwnership accs).execute ctx).run l = .ok event l' ↔
      (∃ asset, l.rwaAsset? accs.asset = some asset ∧ accs.asset = assetPda asset.assetId ∧
        asset.isTokenized = true) ∧
      event = some (.ownershipVerified accs.asset accs.owner 0 ctx.unixTimestamp) ∧ l' = l := by
  simp only [Instruction.execute, tryAccounts, process, loadRwaAsset, bind_assoc, load_bind_ok,
    require_bind_ok, pure_ok]
  constructor
  · rintro ⟨asset, hasset, hassetEq, htokenized, rfl, rfl⟩
    exact ⟨⟨asset, hasset, hassetEq, htokenized⟩, rfl, rfl⟩
  · rintro ⟨⟨asset, hasset, hassetEq, htokenized⟩, rfl, rfl⟩
    exact ⟨asset, hasset, hassetEq, htokenized, rfl, rfl⟩

/-! ## Redeem an asset -/

/-- A redemption is accepted: the asset is tokenized with this mint, and the
token program accepts the burn. -/
structure RedeemAsset.Accepted (ctx : Context Pubkey) (accs : RedeemAsset Pubkey) (amount : ℕ)
    (asset : RwaAsset Pubkey) (tokenization : Tokenization Pubkey) (account : TokenAccount Pubkey)
    (mint : Mint Pubkey) (l : Ledger Pubkey) : Prop where
  asset_read : l.rwaAsset? accs.asset = some asset
  asset_eq : accs.asset = assetPda asset.assetId
  tokenized : asset.isTokenized = true
  tokenization_read : l.tokenization? accs.tokenization = some tokenization
  tokenization_eq : accs.tokenization = tokenizationPda accs.asset
  asset_mint : asset.mint = some accs.mint
  tokenization_mint : tokenization.mint = accs.mint
  positive : 0 < amount
  burn : l.BurnAccepted accs.tokenProgram ctx.signers accs.ownerTokenAccount accs.mint accs.owner
    amount account mint

/-- A redemption succeeds exactly if it is accepted, and burns the units. -/
theorem RedeemAsset.execute_ok {accs : RedeemAsset Pubkey} {amount : ℕ} :
    ((Instruction.redeemAsset accs amount).execute ctx).run l = .ok event l' ↔
      ∃ asset tokenization account mint,
        accs.Accepted ctx amount asset tokenization account mint l ∧
        event = some (.assetRedeemed accs.asset accs.mint amount ctx.unixTimestamp) ∧
        l' = (l.setAmount accs.ownerTokenAccount account (account.amount - amount)).setSupply
          accs.mint mint (mint.supply - amount) := by
  simp only [Instruction.execute, tryAccounts, process, loadRwaAsset, loadTokenization,
    loadTokenAccount, loadMint, bind_assoc, load_bind_ok, require_bind_ok]
  constructor
  · rintro ⟨asset, hasset, tokenization, htokenization, hsigned, _, -, _, -, hassetEq, htokenized,
      htokenizationEq, -, -, hassetMint, htokenizationMint, hpositive, h⟩
    obtain ⟨_, _, hburn, h⟩ := bind_ok.mp h
    obtain ⟨account, mint, haccepted, rfl⟩ := TokenProgram.burn_ok.mp hburn
    obtain ⟨rfl, rfl⟩ := pure_ok.mp h
    exact ⟨asset, tokenization, account, mint, ⟨hasset, hassetEq, htokenized, htokenization,
      htokenizationEq, hassetMint, htokenizationMint, hpositive, haccepted⟩, rfl, rfl⟩
  · rintro ⟨asset, tokenization, account, mint, h, rfl, rfl⟩
    exact ⟨asset, h.asset_read, tokenization, h.tokenization_read, h.burn.signed, account,
      h.burn.account_eq, mint, h.burn.record_eq, h.asset_eq, h.tokenized, h.tokenization_eq,
      h.burn.owner_eq, h.burn.mint_eq, h.asset_mint, h.tokenization_mint, h.positive,
      bind_ok.mpr ⟨(), _, TokenProgram.burn_ok.mpr ⟨account, mint, h.burn, rfl⟩,
        pure_ok.mpr ⟨rfl, rfl⟩⟩⟩

/-! ## Set the status of an asset -/

/-- The statuses no status change leaves. -/
def AssetStatus.IsTerminal (status : AssetStatus) : Prop :=
  status = .liquidated ∨ status = .redeemed

instance (status : AssetStatus) : Decidable status.IsTerminal :=
  inferInstanceAs (Decidable (_ ∨ _))

/-- A status change is accepted.  The new status plays no part. -/
structure SetAssetStatus.Accepted (ctx : Context Pubkey) (accs : SetAssetStatus Pubkey)
    (asset : RwaAsset Pubkey) (l : Ledger Pubkey) : Prop where
  asset_read : l.rwaAsset? accs.asset = some asset
  signed : accs.owner ∈ ctx.signers
  asset_eq : accs.asset = assetPda asset.assetId
  owner_eq : asset.owner = accs.owner
  open_status : ¬ asset.status.IsTerminal

omit [DecidableEq Pubkey] [Runtime Pubkey] in
theorem SetAssetStatus.validateTransition_bind_ok {α : Type} {oldStatus status : AssetStatus}
    {f : Unit → ProgramM Pubkey α} {a : α} :
    (validateTransition oldStatus status >>= f).run l = .ok a l' ↔
      ¬ oldStatus.IsTerminal ∧ (f ()).run l = .ok a l' := by
  cases oldStatus with
  | liquidated => exact ⟨fun h => (nomatch h), fun h => absurd (.inl rfl) h.1⟩
  | redeemed => exact ⟨fun h => (nomatch h), fun h => absurd (.inr rfl) h.1⟩
  | registered => exact ⟨fun h => ⟨by decide, h⟩, And.right⟩
  | active => exact ⟨fun h => ⟨by decide, h⟩, And.right⟩
  | frozen => exact ⟨fun h => ⟨by decide, h⟩, And.right⟩

/-- A status change succeeds exactly if it is accepted, and writes the status. -/
theorem SetAssetStatus.execute_ok {accs : SetAssetStatus Pubkey} {status : AssetStatus} :
    ((Instruction.setAssetStatus accs status).execute ctx).run l = .ok event l' ↔
      ∃ asset, accs.Accepted ctx asset l ∧
        event = some (.assetStatusChanged accs.asset asset.status status) ∧
        l' = l.put accs.asset (.rwaAsset { asset with status }) := by
  simp only [Instruction.execute, tryAccounts, process, loadRwaAsset, bind_assoc, load_bind_ok,
    require_bind_ok, onRwaAsset, validateTransition_bind_ok, onRecord_bind_ok,
    RwaAsset.updateStatus_ok, pure_ok]
  constructor
  · rintro ⟨asset, hasset, hsigned, hassetEq, howner, asset₁, hasset₁, hopen, _, asset₂, _, hasset₂,
      rfl, rfl, rfl⟩
    cases hasset.symm.trans hasset₁
    cases hasset.symm.trans hasset₂
    exact ⟨asset, ⟨hasset, hsigned, hassetEq, howner, hopen⟩, rfl, rfl⟩
  · rintro ⟨asset, h, rfl, rfl⟩
    exact ⟨asset, h.asset_read, h.signed, h.asset_eq, h.owner_eq, asset, h.asset_read,
      h.open_status, (), asset, _, h.asset_read, rfl, rfl, rfl⟩

end RwaTokenization
