import RwaAgents.Program.Counters

/-!
# Fees

A registration and a tokenization pay a fee into the account of the configuration.
Nothing takes lamports out of it, because an account with data signs for nothing.
So its balance is what it held when it was created and all fees since
(`FeesKept`), and the counters say how many those were.

Transactions that fail are rolled back, with the fees they paid.
-/

namespace RwaTokenization

open EStateM

variable {Pubkey : Type} [DecidableEq Pubkey] [Runtime Pubkey] {ctx : Context Pubkey}
  {l l' : Ledger Pubkey} {action : Action Pubkey} {event : Option (Event Pubkey)}

/-! ## What the owner of an asset pays -/

/-- The owner pays the fee and the rent of the asset, and the configuration gets the
fee. -/
structure RegisterAsset.Charged (accs : RegisterAsset Pubkey) (fee : ℕ) (l l' : Ledger Pubkey) :
    Prop where
  owner : l'.lamports accs.owner + fee + l.rentDue accs.asset RwaAsset.space =
    l.lamports accs.owner
  config : l'.lamports accs.globalConfig = l.lamports accs.globalConfig + fee

theorem RegisterAsset.charged {accs : RegisterAsset Pubkey} {args : RegisterAssetArgs}
    {config : GlobalConfig Pubkey}
    (h : ((Instruction.registerAsset accs args).execute ctx).run l = .ok event l')
    (hconfig : l.globalConfig? accs.globalConfig = some config) :
    accs.Charged config.registrationFee l l' := by
  have hconfigData := Ledger.data?_ne_none hconfig
  simp only [Instruction.execute, tryAccounts, loadGlobalConfig, bind_assoc, load_bind_ok,
    require_bind_ok] at h
  obtain ⟨_, -, -, -, h⟩ := h
  obtain ⟨_, l₁, hcreate, h⟩ := bind_ok.mp h
  obtain ⟨hfresh, hdata⟩ := createAccount_ok hcreate
  simp only [process, validateName, validateSymbol, validateDescription, validateUri,
    validateValuation, validateText_bind_ok, loadGlobalConfig, load_bind_ok, require_bind_ok,
    get_bind_ok, systemTransfer_bind_ok, onRwaAsset, onGlobalConfig, onRecord_bind_ok,
    pure_ok] at h
  obtain ⟨-, -, -, -, -, -, config', hread', -, ⟨-, howner, hfunds⟩, _, _, _, -, -, _, _, _, -, -,
    -, rfl⟩ := h
  have hne := Ledger.ne_of_read hconfig hfresh
  have hsame : config' = config := by
    rw [Ledger.read_update hdata, Function.update_of_ne hne] at hread'
    exact Option.some.inj (hread'.symm.trans hconfig)
  -- Who pays the fee carries no data, so it is neither of the two accounts.
  have hownerAsset : accs.owner ≠ accs.asset := fun he => by
    rw [he, hdata, Function.update_self] at howner
    cases howner
  have hownerConfig : accs.owner ≠ accs.globalConfig := fun he => by
    rw [he, hdata, Function.update_of_ne hne] at howner
    exact hconfigData howner
  rw [hsame] at hfunds
  constructor
  · show (l₁.pay accs.owner accs.globalConfig config'.registrationFee).lamports _ + _ + _ = _
    rw [hsame, Ledger.pay_lamports_source _ _ hownerConfig, Nat.sub_add_cancel hfunds]
    exact createAccount_lamports_payer hcreate hownerAsset
  · show (l₁.pay accs.owner accs.globalConfig config'.registrationFee).lamports _ = _
    rw [hsame, Ledger.pay_lamports_destination _ _ hownerConfig,
      createAccount_lamports_of_data hcreate hconfigData]

namespace TokenizeAsset

variable {accs : TokenizeAsset Pubkey}

/-- The rent of the three new accounts. -/
def rentDue (accs : TokenizeAsset Pubkey) (l : Ledger Pubkey) : ℕ :=
  l.rentDue accs.mint mintSize + l.rentDue accs.tokenization Tokenization.size +
    l.rentDue accs.ownerTokenAccount (associatedAccountSize accs.tokenProgram)

/-- The owner pays the fee and the rent of the three new accounts, and the
configuration gets the fee. -/
structure Charged (accs : TokenizeAsset Pubkey) (fee : ℕ) (l l' : Ledger Pubkey) : Prop where
  owner : l'.lamports accs.owner + fee + accs.rentDue l = l.lamports accs.owner
  config : l'.lamports accs.globalConfig = l.lamports accs.globalConfig + fee

/-- The owner pays the rent of the accounts the framework creates. -/
theorem tryAccounts_lamports {u : Unit} (h : (accs.tryAccounts ctx).run l = .ok u l')
    (howner : l'.data? accs.owner = none) :
    l'.lamports accs.owner + accs.rentDue l = l.lamports accs.owner ∧
      ∀ key, l.data? key ≠ none → l'.lamports key = l.lamports key := by
  obtain ⟨_, _, -, -, -, -, -, -, -, -, -, ⟨htokMint, -⟩,
    ⟨haccTok, haccMint, -⟩, hdata⟩ := tryAccounts_ok h
  have hnew : ∀ {key}, l'.data? key ≠ none → accs.owner ≠ key := fun hkey he => hkey (he ▸ howner)
  have hownerMint : accs.owner ≠ accs.mint := hnew <| by
    rw [hdata, Function.update_of_ne haccMint.symm, Function.update_of_ne htokMint.symm,
      Function.update_self]
    exact Option.some_ne_none _
  have hownerTok : accs.owner ≠ accs.tokenization := hnew <| by
    rw [hdata, Function.update_of_ne haccTok.symm, Function.update_self]
    exact Option.some_ne_none _
  have hownerAcc : accs.owner ≠ accs.ownerTokenAccount := hnew <| by
    rw [hdata, Function.update_self]
    exact Option.some_ne_none _
  simp only [tryAccounts, loadGlobalConfig, loadRwaAsset, load_bind_ok, require_bind_ok] at h
  obtain ⟨_, -, _, -, -, h⟩ := h
  obtain ⟨_, l₁, hmint, h⟩ := bind_ok.mp h
  obtain ⟨_, l₂, htok, h⟩ := bind_ok.mp h
  obtain ⟨_, l₃, hacc, h⟩ := bind_ok.mp h
  simp only [require_bind_ok, require_ok] at h
  obtain ⟨-, -, -, -, rfl⟩ := h
  rw [initMint, TokenProgram.initializeMint, require_bind_ok] at hmint
  rw [initTokenization, require_bind_ok] at htok
  rw [initOwnerTokenAccount, require_bind_ok, TokenProgram.createAssociated,
    TokenProgram.ownMint_bind_ok] at hacc
  obtain ⟨-, hmint⟩ := hmint
  obtain ⟨-, htok⟩ := htok
  obtain ⟨haccEq, _, -, -, hacc⟩ := hacc
  rw [← haccEq] at hacc
  constructor
  · have hpaidMint := createAccount_lamports_payer hmint hownerMint
    have hpaidTok := createAccount_lamports_payer htok hownerTok
    have hpaidAcc := createAccount_lamports_payer hacc hownerAcc
    -- The rent of each account is due as it was at the start.
    have hdueTok : l₁.rentDue accs.tokenization Tokenization.size =
        l.rentDue accs.tokenization Tokenization.size := by
      rw [Ledger.rentDue, createAccount_lamports_other hmint hownerTok.symm htokMint]
      rfl
    have hdueAcc : l₂.rentDue accs.ownerTokenAccount (associatedAccountSize accs.tokenProgram) =
        l.rentDue accs.ownerTokenAccount (associatedAccountSize accs.tokenProgram) := by
      rw [Ledger.rentDue, createAccount_lamports_other htok hownerAcc.symm haccTok,
        createAccount_lamports_other hmint hownerAcc.symm haccMint]
      rfl
    rw [hdueTok] at hpaidTok
    rw [hdueAcc] at hpaidAcc
    rw [rentDue]
    omega
  · intro key hkey
    have hkey₁ : l₁.data? key ≠ none := by rwa [createAccount_data?_of_data hmint hkey]
    have hkey₂ : l₂.data? key ≠ none := by rwa [createAccount_data?_of_data htok hkey₁]
    rw [createAccount_lamports_of_data hacc hkey₂, createAccount_lamports_of_data htok hkey₁,
      createAccount_lamports_of_data hmint hkey]

theorem charged {totalSupply : ℕ} {config : GlobalConfig Pubkey}
    (h : ((Instruction.tokenizeAsset accs totalSupply).execute ctx).run l = .ok event l')
    (hconfig : l.globalConfig? accs.globalConfig = some config) :
    accs.Charged config.tokenizationFee l l' := by
  have hconfigData := Ledger.data?_ne_none hconfig
  obtain ⟨_, created, haccounts, h⟩ := bind_ok.mp h
  simp only [process, mintToOwner, loadGlobalConfig, load_bind_ok, require_bind_ok, get_bind_ok,
    systemTransfer_bind_ok, onTokenization, onRwaAsset, onGlobalConfig, onRecord_bind_ok,
    TokenProgram.mintTo_bind_ok, pure_ok] at h
  obtain ⟨-, config', hread', -, ⟨-, howner, hfunds⟩, _, _, _, -, -, _, _, -, _, _, _, -, -, _, _,
    _, -, -, -, rfl⟩ := h
  obtain ⟨hpaid, hkept⟩ := tryAccounts_lamports haccounts howner
  have hsame : config' = config :=
    Option.some.inj ((tryAccounts_quiet.configs haccounts hread').symm.trans hconfig)
  have hownerConfig : accs.owner ≠ accs.globalConfig := fun he => by
    rw [he, Ledger.globalConfig?_eq_some.mp hread'] at howner
    cases howner
  rw [hsame] at hfunds
  constructor
  · show (created.pay accs.owner accs.globalConfig config'.tokenizationFee).lamports _ + _ + _ = _
    rw [hsame, Ledger.pay_lamports_source _ _ hownerConfig, Nat.sub_add_cancel hfunds]
    exact hpaid
  · show (created.pay accs.owner accs.globalConfig config'.tokenizationFee).lamports _ = _
    rw [hsame, Ledger.pay_lamports_destination _ _ hownerConfig, hkept _ hconfigData]

end TokenizeAsset

/-- The deposit of the configuration is the rent of its account, or what the address
held if that was more. -/
theorem Initialize.deposited {accs : Initialize Pubkey} {params : InitializeParams}
    (h : ((Instruction.initializeConfig accs params).execute ctx).run l = .ok event l') :
    l'.lamports globalConfigPda =
      max (l.lamports globalConfigPda) (Runtime.minimumBalance Pubkey GlobalConfig.size) := by
  simp only [Instruction.execute, tryAccounts, bind_assoc, require_bind_ok] at h
  obtain ⟨hsigned, hconfig, h⟩ := h
  obtain ⟨_, l₁, hcreate, h⟩ := bind_ok.mp h
  simp only [process, require_bind_ok, onGlobalConfig, onRecord_bind_ok, pure_ok] at h
  obtain ⟨-, _, _, _, -, -, -, rfl⟩ := h
  have hpayer : accs.authority ≠ accs.globalConfig := fun he =>
    ctx.signers_external _ (he.trans hconfig ▸ hsigned)
  show l₁.lamports _ = _
  rw [(createAccount_lamports hcreate).1, ← hconfig, Ledger.pay_lamports_destination _ _ hpayer,
    Ledger.rentDue]
  omega

/-! ## What a step does to the balance of the configuration -/

/-- Configurations and the lamports of accounts with data are as they were. -/
structure FeesIdle (l l' : Ledger Pubkey) : Prop where
  configs : l'.globalConfig? = l.globalConfig?
  lamports : ∀ key, l.data? key ≠ none → l'.lamports key = l.lamports key

inductive FeeStep (ctx : Context Pubkey) (l l' : Ledger Pubkey) : Action Pubkey → Prop
  | idle {action : Action Pubkey} (same : FeesIdle l l') : FeeStep ctx l l' action
  | send {source destination : Pubkey} {n : ℕ} (source_data : l.data? source = none)
      (after : l' = l.pay source destination n) :
      FeeStep ctx l l' (.systemTransfer source destination n)
  | initializeConfig {accs : Initialize Pubkey} {params : InitializeParams}
      (effect : accs.Effect ctx params l l') :
      FeeStep ctx l l' (.program (.initializeConfig accs params))
  | register {accs : RegisterAsset Pubkey} {args : RegisterAssetArgs}
      {config : GlobalConfig Pubkey} (effect : accs.Effect ctx args config l l')
      (charged : accs.Charged config.registrationFee l l') :
      FeeStep ctx l l' (.program (.registerAsset accs args))
  | tokenize {accs : TokenizeAsset Pubkey} {totalSupply : ℕ} {config : GlobalConfig Pubkey}
      {asset : RwaAsset Pubkey} (effect : accs.Effect ctx totalSupply config asset l l')
      (charged : accs.Charged config.tokenizationFee l l') :
      FeeStep ctx l l' (.program (.tokenizeAsset accs totalSupply))

omit [DecidableEq Pubkey] [Runtime Pubkey] in
theorem SameRecords.feesIdle [DecidableEq Pubkey] (h : SameRecords l l')
    (hlamports : l'.lamports = l.lamports) : FeesIdle l l' :=
  ⟨h.configs, fun key _ => congrFun hlamports key⟩

omit [Runtime Pubkey] in
theorem Ledger.moved_lamports (l : Ledger Pubkey) (source destination : Pubkey)
    (src dst : TokenAccount Pubkey) (n : ℕ) :
    (l.moved source destination src dst n).lamports = l.lamports := by
  rw [moved]
  split <;> rfl

theorem TokenInstruction.feesIdle {p : TokenProgram} {instruction : TokenInstruction Pubkey}
    {u : Unit} (h : (instruction.execute ctx p).run l = .ok u l') : FeesIdle l l' := by
  have hrecords := TokenInstruction.sameRecords h
  cases instruction with
  | initializeMint payer mint decimals mintAuthority freezeAuthority =>
      rw [execute, TokenProgram.initializeMint, EStateM.require_bind_ok] at h
      exact ⟨hrecords.configs, fun _ => createAccount_lamports_of_data h.2⟩
  | initializeAccount payer account mint owner =>
      rw [execute, TokenProgram.initializeAccount, EStateM.require_bind_ok,
        TokenProgram.ownMint_bind_ok] at h
      obtain ⟨-, _, -, -, hcreate⟩ := h
      exact ⟨hrecords.configs, fun _ => createAccount_lamports_of_data hcreate⟩
  | createAssociated payer owner mint =>
      rw [execute, TokenProgram.createAssociated, TokenProgram.ownMint_bind_ok] at h
      obtain ⟨_, -, -, hcreate⟩ := h
      exact ⟨hrecords.configs, fun _ => createAccount_lamports_of_data hcreate⟩
  | mintTo mint destination authority amount =>
      obtain ⟨_, _, -, rfl⟩ := TokenProgram.mintTo_ok.mp h
      exact hrecords.feesIdle rfl
  | transfer source destination authority amount checked =>
      obtain ⟨_, _, -, rfl⟩ := TokenProgram.transfer_ok.mp h
      exact hrecords.feesIdle (Ledger.moved_lamports _ _ _ _ _ _)
  | burn source mint authority amount =>
      obtain ⟨_, _, -, rfl⟩ := TokenProgram.burn_ok.mp h
      exact hrecords.feesIdle rfl
  | setFrozen key mint authority isFrozen =>
      obtain ⟨_, _, -, -, -, -, rfl⟩ := TokenProgram.setFrozen_ok h
      exact hrecords.feesIdle rfl

theorem Action.feeStep (h : (action.execute ctx).run l = .ok event l') :
    FeeStep ctx l l' action := by
  cases action with
  | program instruction =>
      cases instruction with
      | initializeConfig accs params => exact .initializeConfig (Initialize.effect h).2
      | registerAsset accs args =>
          obtain ⟨-, config, heffect⟩ := RegisterAsset.effect h
          exact .register heffect (RegisterAsset.charged h heffect.config_read)
      | tokenizeAsset accs totalSupply =>
          obtain ⟨-, config, asset, heffect⟩ := TokenizeAsset.effect h
          exact .tokenize heffect (TokenizeAsset.charged h heffect.config_read)
      | transferOwnership accs amount =>
          obtain ⟨_, _, _, _, haccepted, -, rfl⟩ := TransferOwnership.execute_ok.mp h
          have htransfer := haccepted.transfer
          exact .idle ((SameRecords.moved htransfer.source_eq htransfer.destination_eq _).feesIdle
            (Ledger.moved_lamports _ _ _ _ _ _))
      | updateAssetMetadata accs args =>
          obtain ⟨_, haccepted, -, rfl⟩ := UpdateAssetMetadata.execute_ok.mp h
          exact .idle ⟨Ledger.putAsset_globalConfig? haccepted.asset_read _, fun _ _ => rfl⟩
      | verifyOwnership accs =>
          obtain ⟨-, -, rfl⟩ := VerifyOwnership.execute_ok.mp h
          exact .idle ⟨rfl, fun _ _ => rfl⟩
      | redeemAsset accs amount =>
          obtain ⟨_, _, _, _, haccepted, -, rfl⟩ := RedeemAsset.execute_ok.mp h
          exact .idle ((SameRecords.setAmount_setSupply haccepted.burn.account_eq
            haccepted.burn.record_eq _ _).feesIdle rfl)
      | setAssetStatus accs status =>
          obtain ⟨_, haccepted, -, rfl⟩ := SetAssetStatus.execute_ok.mp h
          exact .idle ⟨Ledger.putAsset_globalConfig? haccepted.asset_read _, fun _ _ => rfl⟩
  | token p instruction =>
      obtain ⟨-, hrun⟩ := Action.token_ok.mp h
      exact .idle (TokenInstruction.feesIdle hrun)
  | systemTransfer source destination amount =>
      obtain ⟨-, -, hdata, -, hafter⟩ := Action.systemTransfer_ok.mp h
      exact .send hdata hafter

/-- The step sends lamports to the configuration from outside the program. -/
def SendsToConfig (e : ProgramStep Pubkey) : Prop :=
  ∃ source amount event, e.action.action = .systemTransfer source globalConfigPda amount ∧
    e.output = .ok event

/-! ## Fees along a run -/

/-- The configuration is the one that was initialized, up to its counters, and it
holds its deposit and all fees. -/
def FeesKept (initial : GlobalConfig Pubkey) (deposit : ℕ) (l : Ledger Pubkey) : Prop :=
  ∃ assets tokenized, l.globalConfig? globalConfigPda =
      some { initial with totalAssets := assets, totalTokenizedAssets := tokenized } ∧
    l.lamports globalConfigPda =
      deposit + initial.registrationFee * assets + initial.tokenizationFee * tokenized

variable {initial : GlobalConfig Pubkey} {deposit : ℕ}

theorem FeesKept.step (h : FeesKept initial deposit l) (hstep : FeeStep ctx l l' action)
    (hquiet : ∀ source amount, action ≠ .systemTransfer source globalConfigPda amount) :
    FeesKept initial deposit l' := by
  obtain ⟨assets, tokenized, hconfig, hlamports⟩ := h
  have hdata := Ledger.data?_ne_none hconfig
  cases hstep with
  | idle same =>
      refine ⟨assets, tokenized, ?_, ?_⟩
      · rwa [same.configs]
      · rwa [same.lamports _ hdata]
  | @send source destination n source_data after =>
      have hsource : globalConfigPda ≠ source := fun he => hdata (by rw [he, source_data])
      have hdestination : globalConfigPda ≠ destination := fun he => hquiet source n (by rw [he])
      refine ⟨assets, tokenized, ?_, ?_⟩
      · rwa [after]
      · rwa [after, Ledger.pay_lamports_of_ne _ _ hsource hdestination]
  | initializeConfig effect =>
      rw [← effect.config_eq] at hdata
      exact absurd effect.fresh hdata
  | @register accs args config effect charged =>
      have hread := effect.config_read
      rw [effect.config_eq] at hread
      cases hconfig.symm.trans hread
      refine ⟨assets + 1, tokenized, ?_, ?_⟩
      · rw [effect.globalConfig?, effect.config_eq, Function.update_self]
      · have hcharged := charged.config
        rw [effect.config_eq, hlamports] at hcharged
        rw [hcharged]
        simp only [Nat.mul_add, Nat.mul_one]
        omega
  | @tokenize accs totalSupply config asset effect charged =>
      have hread := effect.config_read
      rw [effect.config_eq] at hread
      cases hconfig.symm.trans hread
      refine ⟨assets, tokenized + 1, ?_, ?_⟩
      · rw [effect.globalConfig?, effect.config_eq, Function.update_self]
      · have hcharged := charged.config
        rw [effect.config_eq, hlamports] at hcharged
        rw [hcharged]
        simp only [Nat.mul_add, Nat.mul_one]
        omega

/-- A transaction that sends nothing to the configuration keeps the fees. -/
theorem FeesKept.transact (h : FeesKept initial deposit l) {tx : Transaction Pubkey}
    (hquiet : ¬ SendsToConfig (programMachine.stepAt l tx)) :
    FeesKept initial deposit (transact l tx).1 := by
  rcases transact_cases l tx with ⟨event, after, hrun, he⟩ | ⟨e, he⟩
  · rw [he]
    refine h.step (Action.feeStep hrun) fun source amount haction => hquiet ?_
    exact ⟨source, amount, event, haction, congrArg Prod.snd he⟩
  · rw [he]
    exact h

/-- Who registers or tokenizes signs and pays the fee on top of the rent.  A step that
fails collects nothing. -/
structure FeeDebited (params : InitializeParams) (e : ProgramStep Pubkey) : Prop where
  registration : ∀ {accs args event}, e.action.action = .program (.registerAsset accs args) →
    e.output = .ok event → accs.owner ∈ e.action.ctx.signers ∧
      accs.Charged params.registrationFee e.before e.after
  tokenization : ∀ {accs totalSupply event},
    e.action.action = .program (.tokenizeAsset accs totalSupply) → e.output = .ok event →
      accs.owner ∈ e.action.ctx.signers ∧ accs.Charged params.tokenizationFee e.before e.after
  failed : ∀ {err}, e.output = .error err → e.after = e.before

/-- The configuration right after it was initialized. -/
def Initialize.newConfig (accs : Initialize Pubkey) (params : InitializeParams) :
    GlobalConfig Pubkey :=
  ⟨accs.authority, params.registrationFee, params.tokenizationFee, params.platformFeeBps, true, 0,
    0⟩

theorem FeesKept.debited {accs : Initialize Pubkey} {params : InitializeParams}
    (h : FeesKept (accs.newConfig params) deposit l) (tx : Transaction Pubkey) :
    FeeDebited params (programMachine.stepAt l tx) := by
  obtain ⟨_, _, hconfig, -⟩ := h
  obtain ⟨ctx, action⟩ := tx
  rcases transact_cases l ⟨ctx, action⟩ with ⟨event, after, hrun, he⟩ | ⟨err, he⟩
  · have hafter : (programMachine.stepAt l ⟨ctx, action⟩).after = after := congrArg Prod.fst he
    have houtput : (programMachine.stepAt l ⟨ctx, action⟩).output = .ok event :=
      congrArg Prod.snd he
    refine ⟨fun haction _ => ?_, fun haction _ => ?_, fun herror => ?_⟩
    · rw [show action = _ from haction] at hrun
      obtain ⟨-, config, heffect⟩ := RegisterAsset.effect hrun
      have hread := heffect.config_read
      rw [heffect.config_eq] at hread
      cases hconfig.symm.trans hread
      rw [hafter]
      exact ⟨heffect.signed, RegisterAsset.charged hrun heffect.config_read⟩
    · rw [show action = _ from haction] at hrun
      obtain ⟨-, config, asset, heffect⟩ := TokenizeAsset.effect hrun
      have hread := heffect.config_read
      rw [heffect.config_eq] at hread
      cases hconfig.symm.trans hread
      rw [hafter]
      exact ⟨heffect.signed, TokenizeAsset.charged hrun heffect.config_read⟩
    · cases houtput.symm.trans herror
  · have houtput : (programMachine.stepAt l ⟨ctx, action⟩).output = .error err :=
      congrArg Prod.snd he
    refine ⟨fun _ hok => ?_, fun _ hok => ?_, fun _ => congrArg Prod.fst he⟩
    · cases houtput.symm.trans hok
    · cases houtput.symm.trans hok

/-- The initialization starts the account with no fees. -/
theorem Initialize.feesKept {accs : Initialize Pubkey} {params : InitializeParams}
    (h : ((Instruction.initializeConfig accs params).execute ctx).run l = .ok event l') :
    FeesKept (accs.newConfig params) (l'.lamports globalConfigPda) l' := by
  have heffect := (Initialize.effect h).2
  refine ⟨0, 0, ?_, rfl⟩
  rw [heffect.globalConfig?, heffect.config_eq, Function.update_self]
  rfl

/-- After the initialization, in every run that sends the configuration nothing from
outside, the settings stay, and the configuration holds its deposit and the fees of
all assets it counts.  They were paid by those who registered and tokenized. -/
theorem fees_accounted (h : Reachable l) {accs : Initialize Pubkey} {params : InitializeParams}
    (hinit : transact l ⟨ctx, .program (.initializeConfig accs params)⟩ = (l', .ok event))
    {txs : List (Transaction Pubkey)}
    (hquiet : ∀ e ∈ programMachine.steps l' txs, ¬ SendsToConfig e) :
    l'.lamports globalConfigPda = max (l.lamports globalConfigPda)
        (Runtime.minimumBalance Pubkey GlobalConfig.size) ∧
    (∃ config, (programMachine.run l' txs).globalConfig? globalConfigPda = some config ∧
      config.authority = accs.authority ∧ config.registrationFee = params.registrationFee ∧
      config.tokenizationFee = params.tokenizationFee ∧
      config.platformFeeBps = params.platformFeeBps ∧ config.platformFeeBps ≤ 10000 ∧
      (programMachine.run l' txs).lamports globalConfigPda = l'.lamports globalConfigPda +
        config.registrationFee * config.totalAssets +
        config.tokenizationFee * config.totalTokenizedAssets) ∧
    ∀ e ∈ programMachine.steps l' txs, FeeDebited params e := by
  obtain ⟨after, hrun, hafter⟩ : ∃ after,
      ((Instruction.initializeConfig accs params).execute ctx).run l = .ok event after ∧
        l' = after := by
    rcases transact_cases l ⟨ctx, .program (.initializeConfig accs params)⟩ with
      ⟨_, after, hrun, he⟩ | ⟨_, he⟩
    · cases he.symm.trans hinit
      exact ⟨_, hrun, rfl⟩
    · cases he.symm.trans hinit
  subst hafter
  have hreach : Reachable l' := by
    have hnext := h.step ⟨ctx, .program (.initializeConfig accs params)⟩
    rwa [show programMachine.next l _ = l' from congrArg Prod.fst hinit] at hnext
  have hkept := Initialize.feesKept hrun
  have hstep : ∀ s a, programMachine.Reachable s →
      FeesKept (accs.newConfig params) (l'.lamports globalConfigPda) s →
      ¬ SendsToConfig (programMachine.stepAt s a) →
      FeesKept (accs.newConfig params) (l'.lamports globalConfigPda) (programMachine.next s a) :=
    fun s a _ hs hsilent => hs.transact hsilent
  refine ⟨Initialize.deposited hrun, ?_, fun e he => ?_⟩
  · obtain ⟨assets, tokenized, hconfig, hlamports⟩ := hreach.stable_of_steps hstep hkept hquiet
    exact ⟨_, hconfig, rfl, rfl, rfl, rfl, (Initialize.effect hrun).2.fee, hlamports⟩
  · obtain ⟨pre, tx, post, rfl, rfl⟩ := Machine.mem_steps he
    refine (hreach.stable_of_steps hstep hkept fun e' he' => hquiet e' ?_).debited tx
    rw [Machine.steps_append]
    exact List.mem_append_left _ he'

namespace Address

/-- The configuration of the sample asset. -/
def initializeHouse : Transaction Address :=
  program [9] (.initializeConfig ⟨globalConfigPda, key 9⟩ ⟨1000, 2000, 100⟩)

/-- The sample asset is registered and tokenized, and its owner tries to tokenize it
again. -/
def payForHouse : List (Transaction Address) :=
  registerHouse.tail ++ [tokenizeHouse, tokenizeHouse]

end Address

/-- The configuration of the sample asset got both fees once. -/
theorem fees_accounted_house :
    ∃ config, (programMachine.run Address.genesis
        (Address.initializeHouse :: Address.payForHouse)).globalConfig? globalConfigPda =
          some config ∧
      config.authority = .key 9 ∧
      (programMachine.run Address.genesis
        (Address.initializeHouse :: Address.payForHouse)).lamports globalConfigPda =
          10 ^ 12 + 1000 + 2000 := by
  have hquiet : ∀ e ∈ programMachine.steps (transact Address.genesis Address.initializeHouse).1
      Address.payForHouse, ¬ SendsToConfig e := by
    rw [Address.payForHouse, Address.registerHouse]
    simp only [List.tail_cons, List.cons_append, List.nil_append, Machine.steps_cons,
      Machine.steps_nil, List.forall_mem_cons]
    refine ⟨?_, ?_, ?_, fun e he => absurd he List.not_mem_nil⟩
    all_goals
      intro hsends
      obtain ⟨_, _, _, haction, -⟩ := hsends
      cases haction
  have hinit : transact Address.genesis ⟨Address.signedBy [9],
      .program (.initializeConfig ⟨globalConfigPda, .key 9⟩ ⟨1000, 2000, 100⟩)⟩ =
        ((transact Address.genesis Address.initializeHouse).1, .ok none) :=
    Prod.ext rfl (by decide)
  obtain ⟨hdeposit, ⟨config, hconfig, hauthority, -, -, -, -, hlamports⟩, -⟩ :=
    fees_accounted Address.reachable_genesis hinit hquiet
  have hread : (programMachine.run (transact Address.genesis Address.initializeHouse).1
      Address.payForHouse).globalConfig? globalConfigPda =
        some ⟨.key 9, 1000, 2000, 100, true, 1, 1⟩ := by decide
  cases hconfig.symm.trans hread
  refine ⟨_, hread, hauthority, hlamports.trans ?_⟩
  rw [hdeposit]
  decide

end RwaTokenization
