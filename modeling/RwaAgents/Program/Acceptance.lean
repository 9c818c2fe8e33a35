import RwaAgents.Program.Fees

/-!
# When an asset can be registered and tokenized

`RegisterAsset.Accepted` and `TokenizeAsset.Accepted` are what the two instructions that
create accounts ask for: they succeed if and only if it holds, in every ledger.
-/

namespace RwaTokenization

open EStateM

variable {Pubkey : Type} [DecidableEq Pubkey] [Runtime Pubkey] {ctx : Context Pubkey}
  {l l' : Ledger Pubkey} {event : Option (Event Pubkey)}

/-- A payer who signs, carries no data and holds the rent creates a fresh account. -/
theorem createAccount_run {signers : List Pubkey} {payer key : Pubkey} (space : ℕ)
    (data : AccountData Pubkey) (hfresh : l.data? key = none) (hsigned : payer ∈ signers)
    (hpayer : l.data? payer = none) (hfunds : l.rentDue key space ≤ l.lamports payer) :
    ∃ l', (createAccount signers payer key space data).run l = .ok () l' := by
  have hpaid : ∃ paid, (payRent signers payer key (l.rentDue key space)).run l = .ok () paid ∧
      paid.data? = l.data? := by
    rw [payRent]
    split
    · exact ⟨l, rfl, rfl⟩
    · exact ⟨_, systemTransfer_ok.mpr ⟨hsigned, hpayer, hfunds, rfl⟩, rfl⟩
  obtain ⟨paid, hrun, hdata⟩ := hpaid
  refine ⟨paid.put key data, ?_⟩
  rw [createAccount, get_bind_ok, bind_ok]
  exact ⟨(), paid, hrun, require_bind_ok.mpr ⟨hfresh, modify_ok.mpr rfl⟩⟩

/-! ## Registration -/

/-- A registration is accepted. -/
structure RegisterAsset.Accepted (ctx : Context Pubkey) (accs : RegisterAsset Pubkey)
    (args : RegisterAssetArgs) (config : GlobalConfig Pubkey) (l : Ledger Pubkey) : Prop where
  signed : accs.owner ∈ ctx.signers
  no_data : l.data? accs.owner = none
  config_read : l.globalConfig? accs.globalConfig = some config
  config_eq : accs.globalConfig = globalConfigPda
  asset_eq : accs.asset = assetPda accs.assetId
  fresh : l.data? accs.asset = none
  valid : args.Valid
  funds : l.rentDue accs.asset RwaAsset.space + config.registrationFee ≤ l.lamports accs.owner
  room : config.totalAssets + 1 < u64Bound

omit [DecidableEq Pubkey] in
/-- Whoever signed is not an address of the program. -/
theorem Context.ne_of_signed (ctx : Context Pubkey) {key : Pubkey} {seeds : Seeds Pubkey}
    (h : key ∈ ctx.signers) : key ≠ Runtime.findProgramAddress seeds :=
  fun he => ctx.signers_external seeds (he ▸ h)

theorem RegisterAsset.Accepted.run {accs : RegisterAsset Pubkey} {args : RegisterAssetArgs}
    {config : GlobalConfig Pubkey} (h : accs.Accepted ctx args config l) :
    ∃ event l', ((Instruction.registerAsset accs args).execute ctx).run l = .ok event l' := by
  have hownerAsset : accs.owner ≠ accs.asset := by
    rw [h.asset_eq]
    exact ctx.ne_of_signed h.signed
  have hconfigAsset := Ledger.ne_of_read h.config_read h.fresh
  have hfunds := h.funds
  obtain ⟨l₁, hcreate⟩ := createAccount_run RwaAsset.space (.rwaAsset (.zeroed Runtime.zero))
    h.fresh h.signed h.no_data (by omega)
  have hdata := (createAccount_ok hcreate).2
  have hpaid := createAccount_lamports_payer hcreate hownerAsset
  have hconfig : l₁.read AccountData.globalConfig? accs.globalConfig = some config := by
    rw [Ledger.read_update hdata, Function.update_of_ne hconfigAsset]
    exact h.config_read
  have howner : l₁.data? accs.owner = none := by
    rw [hdata, Function.update_of_ne hownerAsset, h.no_data]
  have hasset : (l₁.pay accs.owner accs.globalConfig config.registrationFee).read
      AccountData.rwaAsset? accs.asset = some (.zeroed Runtime.zero) := by
    rw [Ledger.pay_read, Ledger.read_update hdata, Function.update_self]
    rfl
  have hfee : config.registrationFee ≤ l₁.lamports accs.owner := by omega
  have hlast : ∀ record : RwaAsset Pubkey,
      ((l₁.pay accs.owner accs.globalConfig config.registrationFee).put accs.asset
        (.rwaAsset record)).read AccountData.globalConfig? accs.globalConfig = some config := by
    intro record
    rw [Ledger.put_read, Function.update_of_ne hconfigAsset, Ledger.pay_read, hconfig]
  have haccounts : (accs.tryAccounts ctx).run l = .ok () l₁ := by
    simp only [tryAccounts, loadGlobalConfig, load_bind_ok, require_bind_ok]
    exact ⟨config, h.config_read, h.signed, h.asset_eq,
      bind_ok.mpr ⟨(), l₁, hcreate, require_ok.mpr ⟨h.config_eq, rfl⟩⟩⟩
  have hprocess : ∃ event l', (accs.process ctx args).run l₁ = .ok event l' := by
    simp only [process, validateName, validateSymbol, validateDescription, validateUri,
      validateValuation, validateText_bind_ok, loadGlobalConfig, load_bind_ok, require_bind_ok,
      get_bind_ok, systemTransfer_bind_ok, onRwaAsset, onGlobalConfig, onRecord_bind_ok,
      RwaAsset.init_ok, GlobalConfig.incrementTotalAssets_ok, pure_ok]
    exact ⟨_, _, h.valid.name, h.valid.symbol, h.valid.description, h.valid.uri, h.valid.valuation,
      config, hconfig, hfee, ⟨h.signed, howner, hfee⟩, (), _, _, hasset,
      ⟨h.valid.name.1, h.valid.symbol.1, h.valid.description, h.valid.uri.1, rfl⟩, (), config, _,
      hlast _, ⟨h.room, rfl⟩, rfl, rfl⟩
  obtain ⟨event, l', hrun⟩ := hprocess
  exact ⟨event, l', bind_ok.mpr ⟨(), l₁, haccounts, hrun⟩⟩

/-- A registration succeeds if and only if it is accepted. -/
theorem RegisterAsset.execute_ok_iff {accs : RegisterAsset Pubkey} {args : RegisterAssetArgs} :
    (∃ event l', ((Instruction.registerAsset accs args).execute ctx).run l = .ok event l') ↔
      ∃ config, accs.Accepted ctx args config l := by
  constructor
  · rintro ⟨event, l', h⟩
    obtain ⟨-, config, heffect⟩ := RegisterAsset.effect h
    have hcharged := (RegisterAsset.charged h heffect.config_read).owner
    refine ⟨config, heffect.signed, ?_, heffect.config_read, heffect.config_eq, heffect.asset_eq,
      heffect.fresh, heffect.valid, by omega, heffect.room⟩
    simp only [Instruction.execute, tryAccounts, loadGlobalConfig, bind_assoc, load_bind_ok,
      require_bind_ok] at h
    obtain ⟨_, -, -, -, h⟩ := h
    obtain ⟨_, l₁, hcreate, h⟩ := bind_ok.mp h
    simp only [process, validateName, validateSymbol, validateDescription, validateUri,
      validateValuation, validateText_bind_ok, loadGlobalConfig, load_bind_ok, require_bind_ok,
      get_bind_ok, systemTransfer_bind_ok] at h
    obtain ⟨-, -, -, -, -, -, _, -, -, ⟨-, howner, -⟩, -⟩ := h
    by_contra hdata
    rw [createAccount_data?_of_data hcreate hdata] at howner
    exact hdata howner
  · rintro ⟨config, h⟩
    exact h.run

/-! ## Tokenization -/

omit [Runtime Pubkey] in
/-- Minting is not seen at other addresses. -/
theorem Ledger.adjusted_read {β : Type} (kind : AccountData Pubkey → Option β)
    {key place mint : Pubkey} (hplace : key ≠ place) (hmint : key ≠ mint)
    (account : TokenAccount Pubkey) (record : Mint Pubkey) (n supply : ℕ) :
    ((l.setAmount place account n).setSupply mint record supply).read kind key =
      l.read kind key := by
  rw [setSupply, setAmount, put_read, Function.update_of_ne hmint, put_read,
    Function.update_of_ne hplace]

namespace TokenizeAsset

/-- A tokenization is accepted.  The four accounts that are paid with and created are
different ones. -/
structure Accepted (ctx : Context Pubkey) (accs : TokenizeAsset Pubkey) (totalSupply : ℕ)
    (config : GlobalConfig Pubkey) (asset : RwaAsset Pubkey) (l : Ledger Pubkey) : Prop where
  signed : accs.owner ∈ ctx.signers
  no_data : l.data? accs.owner = none
  mint_signed : accs.mint ∈ ctx.signers
  config_read : l.globalConfig? accs.globalConfig = some config
  config_eq : accs.globalConfig = globalConfigPda
  asset_read : l.rwaAsset? accs.asset = some asset
  asset_eq : accs.asset = assetPda asset.assetId
  owner_eq : asset.owner = accs.owner
  untokenized : asset.isTokenized = false
  registered : asset.status = .registered
  mint_fresh : l.data? accs.mint = none
  tokenization_eq : accs.tokenization = tokenizationPda accs.asset
  tokenization_fresh : l.data? accs.tokenization = none
  account_eq : accs.ownerTokenAccount =
    Runtime.associatedTokenAddress accs.owner accs.tokenProgram accs.mint
  account_fresh : l.data? accs.ownerTokenAccount = none
  owner_ne_mint : accs.owner ≠ accs.mint
  owner_ne_account : accs.owner ≠ accs.ownerTokenAccount
  account_ne_mint : accs.ownerTokenAccount ≠ accs.mint
  account_ne_tokenization : accs.ownerTokenAccount ≠ accs.tokenization
  positive : 0 < totalSupply
  bounded : totalSupply < u64Bound
  funds : accs.rentDue l + config.tokenizationFee ≤ l.lamports accs.owner
  room : config.totalTokenizedAssets + 1 < u64Bound

variable {accs : TokenizeAsset Pubkey} {totalSupply : ℕ} {config : GlobalConfig Pubkey}
  {asset : RwaAsset Pubkey}

namespace Accepted

variable (h : accs.Accepted ctx totalSupply config asset l)

include h

theorem owner_ne_tokenization : accs.owner ≠ accs.tokenization := by
  rw [h.tokenization_eq]
  exact ctx.ne_of_signed h.signed

theorem mint_ne_tokenization : accs.mint ≠ accs.tokenization := by
  rw [h.tokenization_eq]
  exact ctx.ne_of_signed h.mint_signed

/-- The framework creates the three accounts one after the other. -/
theorem tryAccounts_run : ∃ l', (accs.tryAccounts ctx).run l = .ok () l' := by
  have hfunds := h.funds
  rw [rentDue] at hfunds
  -- The mint.
  obtain ⟨l₁, hmint⟩ := createAccount_run mintSize (.mint (accs.newMint 0)) h.mint_fresh h.signed
    h.no_data (by omega)
  have hdata₁ := (createAccount_ok hmint).2
  have hpaid₁ := createAccount_lamports_payer hmint h.owner_ne_mint
  have howner₁ : l₁.data? accs.owner = none := by
    rw [hdata₁, Function.update_of_ne h.owner_ne_mint, h.no_data]
  have hfresh₁ : l₁.data? accs.tokenization = none := by
    rw [hdata₁, Function.update_of_ne h.mint_ne_tokenization.symm, h.tokenization_fresh]
  have hdue₁ : l₁.rentDue accs.tokenization Tokenization.size =
      l.rentDue accs.tokenization Tokenization.size := by
    rw [Ledger.rentDue, createAccount_lamports_other hmint h.owner_ne_tokenization.symm
      h.mint_ne_tokenization.symm]
    rfl
  -- The tokenization.
  obtain ⟨l₂, htokenization⟩ := createAccount_run Tokenization.size
    (.tokenization (.zeroed Runtime.zero)) hfresh₁ h.signed howner₁ (by omega)
  have hdata₂ := (createAccount_ok htokenization).2
  have hpaid₂ := createAccount_lamports_payer htokenization h.owner_ne_tokenization
  have howner₂ : l₂.data? accs.owner = none := by
    rw [hdata₂, Function.update_of_ne h.owner_ne_tokenization, howner₁]
  have hfresh₂ : l₂.data? accs.ownerTokenAccount = none := by
    rw [hdata₂, Function.update_of_ne h.account_ne_tokenization, hdata₁,
      Function.update_of_ne h.account_ne_mint, h.account_fresh]
  have hdue₂ : l₂.rentDue accs.ownerTokenAccount (associatedAccountSize accs.tokenProgram) =
      l.rentDue accs.ownerTokenAccount (associatedAccountSize accs.tokenProgram) := by
    rw [Ledger.rentDue, createAccount_lamports_other htokenization h.owner_ne_account.symm
      h.account_ne_tokenization, createAccount_lamports_other hmint h.owner_ne_account.symm
      h.account_ne_mint]
    rfl
  -- The token account of the owner.
  obtain ⟨l₃, haccount⟩ := createAccount_run (associatedAccountSize accs.tokenProgram)
    (.tokenAccount (accs.newAccount 0)) hfresh₂ h.signed howner₂ (by omega)
  have hminted : l₂.mint? accs.mint = some (accs.newMint 0) := by
    rw [Ledger.mint?, Ledger.read_update hdata₂, Function.update_of_ne h.mint_ne_tokenization,
      Ledger.read_update hdata₁, Function.update_self]
    rfl
  refine ⟨l₃, ?_⟩
  simp only [tryAccounts, loadGlobalConfig, loadRwaAsset, load_bind_ok, require_bind_ok]
  refine ⟨config, h.config_read, asset, h.asset_read, h.signed, bind_ok.mpr ⟨(), l₁, ?_, ?_⟩⟩
  · rw [initMint, TokenProgram.initializeMint, require_bind_ok]
    exact ⟨h.mint_signed, hmint⟩
  refine bind_ok.mpr ⟨(), l₂, ?_, bind_ok.mpr ⟨(), l₃, ?_, ?_⟩⟩
  · rw [initTokenization, require_bind_ok]
    exact ⟨h.tokenization_eq, htokenization⟩
  · rw [initOwnerTokenAccount, require_bind_ok, TokenProgram.createAssociated,
      TokenProgram.ownMint_bind_ok, ← h.account_eq]
    exact ⟨rfl, _, hminted, rfl, haccount⟩
  · simp only [require_bind_ok, require_ok]
    exact ⟨h.config_eq, h.asset_eq, h.owner_eq, h.untokenized, trivial⟩

/-- The body runs through on the accounts the framework created. -/
theorem process_run (haccounts : (accs.tryAccounts ctx).run l = .ok () l') :
    ∃ event after, (accs.process ctx totalSupply).run l' = .ok event after := by
  obtain ⟨_, _, -, -, -, -, -, -, -, -, -, -, -, hdata⟩ := tryAccounts_ok haccounts
  have howner : l'.data? accs.owner = none := by
    rw [hdata, Function.update_of_ne h.owner_ne_account,
      Function.update_of_ne h.owner_ne_tokenization, Function.update_of_ne h.owner_ne_mint,
      h.no_data]
  have hpaid := (tryAccounts_lamports haccounts howner).1
  have hfunds := h.funds
  have hfee : config.tokenizationFee ≤ l'.lamports accs.owner := by omega
  -- The configuration and the asset are none of the new accounts, nor each other.
  have hconfigMint := Ledger.ne_of_read h.config_read h.mint_fresh
  have hconfigTok := Ledger.ne_of_read h.config_read h.tokenization_fresh
  have hconfigAcc := Ledger.ne_of_read h.config_read h.account_fresh
  have hassetMint := Ledger.ne_of_read h.asset_read h.mint_fresh
  have hassetTok := Ledger.ne_of_read h.asset_read h.tokenization_fresh
  have hassetAcc := Ledger.ne_of_read h.asset_read h.account_fresh
  have hconfigAsset : accs.globalConfig ≠ accs.asset := by
    intro he
    have hconfigData := Ledger.globalConfig?_eq_some.mp h.config_read
    rw [he, Ledger.rwaAsset?_eq_some.mp h.asset_read] at hconfigData
    cases hconfigData
  have hconfig : l'.read AccountData.globalConfig? accs.globalConfig = some config := by
    rw [Ledger.read, hdata, Function.update_of_ne hconfigAcc, Function.update_of_ne hconfigTok,
      Function.update_of_ne hconfigMint]
    exact h.config_read
  have htokenization : (l'.pay accs.owner accs.globalConfig config.tokenizationFee).read
      AccountData.tokenization? accs.tokenization = some (.zeroed Runtime.zero) := by
    rw [Ledger.pay_read, Ledger.read, hdata, Function.update_of_ne h.account_ne_tokenization.symm,
      Function.update_self]
    rfl
  let written := (l'.pay accs.owner accs.globalConfig config.tokenizationFee).put
    accs.tokenization (.tokenization (accs.newTokenization totalSupply ctx.unixTimestamp))
  have haccount : written.tokenAccount? accs.ownerTokenAccount = some (accs.newAccount 0) := by
    rw [Ledger.tokenAccount?, Ledger.put_read, Function.update_of_ne h.account_ne_tokenization,
      Ledger.pay_read, Ledger.read, hdata, Function.update_self]
    rfl
  have hmint : written.mint? accs.mint = some (accs.newMint 0) := by
    rw [Ledger.mint?, Ledger.put_read, Function.update_of_ne h.mint_ne_tokenization,
      Ledger.pay_read, Ledger.read, hdata, Function.update_of_ne h.account_ne_mint.symm,
      Function.update_of_ne h.mint_ne_tokenization, Function.update_self]
    rfl
  have hminted : written.MintAccepted accs.tokenProgram (tokenizationPda accs.asset :: ctx.signers)
      accs.mint accs.ownerTokenAccount accs.tokenization totalSupply (accs.newAccount 0)
      (accs.newMint 0) :=
    ⟨haccount, rfl, rfl, rfl, hmint, rfl, rfl,
      List.mem_cons.mpr (.inl h.tokenization_eq), by simpa [newAccount] using h.bounded,
      by simpa [newMint] using h.bounded⟩
  let minted := (written.setAmount accs.ownerTokenAccount (accs.newAccount 0)
    ((accs.newAccount 0).amount + totalSupply)).setSupply accs.mint (accs.newMint 0)
      ((accs.newMint 0).supply + totalSupply)
  have hasset : minted.read AccountData.rwaAsset? accs.asset = some asset := by
    refine (Ledger.adjusted_read _ hassetAcc hassetMint _ _ _ _).trans ?_
    rw [Ledger.put_read, Function.update_of_ne hassetTok, Ledger.pay_read, Ledger.read, hdata,
      Function.update_of_ne hassetAcc, Function.update_of_ne hassetTok,
      Function.update_of_ne hassetMint]
    exact h.asset_read
  have hlast : ∀ record : RwaAsset Pubkey, (minted.put accs.asset (.rwaAsset record)).read
      AccountData.globalConfig? accs.globalConfig = some config := by
    intro record
    rw [Ledger.put_read, Function.update_of_ne hconfigAsset]
    refine (Ledger.adjusted_read _ hconfigAcc hconfigMint _ _ _ _).trans ?_
    rw [Ledger.put_read, Function.update_of_ne hconfigTok, Ledger.pay_read, hconfig]
  simp only [process, mintToOwner, loadGlobalConfig, load_bind_ok, require_bind_ok, get_bind_ok,
    systemTransfer_bind_ok, onTokenization, onRwaAsset, onGlobalConfig, onRecord_bind_ok,
    Tokenization.init_ok, TokenProgram.mintTo_bind_ok, RwaAsset.tokenize_ok,
    GlobalConfig.incrementTotalTokenizedAssets_ok, pure_ok]
  exact ⟨_, _, h.positive, config, hconfig, hfee, ⟨h.signed, howner, hfee⟩, (), _, _,
    htokenization, ⟨h.positive, rfl⟩, _, _, hminted, (), asset, _, hasset,
    ⟨h.untokenized, h.registered, rfl⟩, (), config, _, hlast _, ⟨h.room, rfl⟩, rfl, rfl⟩

end Accepted

/-- The mint signs, and the token account is the associated one. -/
theorem signed_mint {u : Unit} (h : (accs.tryAccounts ctx).run l = .ok u l') :
    accs.mint ∈ ctx.signers ∧ accs.ownerTokenAccount =
      Runtime.associatedTokenAddress accs.owner accs.tokenProgram accs.mint := by
  simp only [tryAccounts, loadGlobalConfig, loadRwaAsset, load_bind_ok, require_bind_ok] at h
  obtain ⟨_, -, _, -, -, h⟩ := h
  obtain ⟨_, l₁, hmint, h⟩ := bind_ok.mp h
  obtain ⟨_, l₂, -, h⟩ := bind_ok.mp h
  obtain ⟨_, l₃, haccount, -⟩ := bind_ok.mp h
  rw [initMint, TokenProgram.initializeMint, require_bind_ok] at hmint
  rw [initOwnerTokenAccount, require_bind_ok] at haccount
  exact ⟨hmint.1, haccount.1⟩

/-- Who pays the fee carried no data, and is none of the new accounts. -/
theorem owner_of_process (h : (accs.tryAccounts ctx).run l = .ok () l') {after : Ledger Pubkey}
    (hprocess : (accs.process ctx totalSupply).run l' = .ok event after) :
    l.data? accs.owner = none ∧ accs.owner ≠ accs.mint ∧
      accs.owner ≠ accs.ownerTokenAccount := by
  obtain ⟨_, _, -, -, -, -, -, -, -, -, -, ⟨htokMint, -⟩, ⟨haccTok, haccMint, -⟩, hdata⟩ :=
    tryAccounts_ok h
  simp only [process, loadGlobalConfig, load_bind_ok, require_bind_ok, get_bind_ok,
    systemTransfer_bind_ok] at hprocess
  obtain ⟨-, _, -, -, ⟨-, howner, -⟩, -⟩ := hprocess
  rw [hdata, update_eq_none, update_eq_none, update_eq_none] at howner
  exact ⟨howner.2.2.2, howner.2.2.1, howner.1⟩

/-- A tokenization succeeds if and only if it is accepted. -/
theorem execute_ok_iff :
    (∃ event l', ((Instruction.tokenizeAsset accs totalSupply).execute ctx).run l =
        .ok event l') ↔
      ∃ config asset, accs.Accepted ctx totalSupply config asset l := by
  constructor
  · rintro ⟨event, l', h⟩
    obtain ⟨-, config, asset, heffect⟩ := effect h
    have hcharged := (charged h heffect.config_read).owner
    obtain ⟨_, created, haccounts, hprocess⟩ := bind_ok.mp h
    obtain ⟨hnoData, hownerMint, hownerAcc⟩ := owner_of_process haccounts hprocess
    obtain ⟨hmintSigned, haccountEq⟩ := signed_mint haccounts
    exact ⟨config, asset, heffect.signed, hnoData, hmintSigned, heffect.config_read,
      heffect.config_eq, heffect.asset_read, heffect.asset_eq, heffect.owner_eq,
      heffect.untokenized, heffect.registered, heffect.mint_fresh, heffect.tokenization_eq,
      heffect.tokenization_fresh, haccountEq, heffect.account_fresh, hownerMint, hownerAcc,
      heffect.account_ne_mint, heffect.account_ne_tokenization, heffect.positive,
      heffect.bounded, by omega, heffect.room⟩
  · rintro ⟨config, asset, h⟩
    obtain ⟨created, haccounts⟩ := h.tryAccounts_run
    obtain ⟨event, l', hprocess⟩ := h.process_run haccounts
    exact ⟨event, l', bind_ok.mpr ⟨(), created, haccounts, hprocess⟩⟩

end TokenizeAsset

end RwaTokenization
