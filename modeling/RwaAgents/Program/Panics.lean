import RwaAgents.Program.InstructionSpec

/-!
# Panics

Two calls of the program unwrap a `checked_add`, on the counters of the
configuration.  They are the last writes of a registration and of a tokenization.
Everything else answers an error the source names.

`Quiet` says that a computation neither panics nor writes a configuration.  What
comes after quiet computations reads the configuration that was there before
them, so a panic tells which counter was full at the start
(`Action.panicsIfFull`).
-/

namespace RwaTokenization

open EStateM

variable {Pubkey : Type} [DecidableEq Pubkey] {α β : Type}

/-- The computation does not panic, and a configuration it leaves was there
before. -/
structure Quiet (x : ProgramM Pubkey α) : Prop where
  never_panics : x.NeverThrows .panic
  configs : ∀ {l l' : Ledger Pubkey} {a : α} {key : Pubkey} {config : GlobalConfig Pubkey},
    x.run l = .ok a l' → l'.globalConfig? key = some config → l.globalConfig? key = some config

/-- A counter of some configuration is at its bound. -/
def Ledger.Full (l : Ledger Pubkey) (counter : GlobalConfig Pubkey → ℕ) : Prop :=
  ∃ key config, l.globalConfig? key = some config ∧ u64Bound ≤ counter config + 1

/-- The computation panics only if a counter is at its bound. -/
def PanicsIfFull (counter : GlobalConfig Pubkey → ℕ) (x : ProgramM Pubkey α) : Prop :=
  ∀ l l' : Ledger Pubkey, x.run l = .error .panic l' → l.Full counter

/-- Data that is no configuration hides none. -/
theorem Ledger.globalConfig?_of_put {l : Ledger Pubkey} {k key : Pubkey}
    {data : AccountData Pubkey} {config : GlobalConfig Pubkey} (hdata : data.globalConfig? = none)
    (h : (l.put k data).globalConfig? key = some config) : l.globalConfig? key = some config := by
  rw [globalConfig?, put_read, hdata, Function.update_apply] at h
  split at h
  · cases h
  · exact h

namespace Quiet

variable {x : ProgramM Pubkey α} {f : α → ProgramM Pubkey β}

/-- Two quiet parts in sequence. -/
theorem bind (hx : Quiet x) (hf : ∀ a, Quiet (f a)) : Quiet (x >>= f) where
  never_panics := hx.never_panics.bind fun a => (hf a).never_panics
  configs hrun hconfig := by
    obtain ⟨a, _, hfirst, hrest⟩ := bind_ok.mp hrun
    exact hx.configs hfirst ((hf a).configs hrest hconfig)

theorem pure {a : α} : Quiet (pure a : ProgramM Pubkey α) where
  never_panics := .pure
  configs hrun hconfig := by
    obtain ⟨-, rfl⟩ := pure_ok.mp hrun
    exact hconfig

theorem get : Quiet (get : ProgramM Pubkey (Ledger Pubkey)) where
  never_panics := .get
  configs hrun hconfig := by
    cases hrun
    exact hconfig

/-- A write that makes no configuration. -/
theorem modify {g : Ledger Pubkey → Ledger Pubkey}
    (hg : ∀ {l key config}, (g l).globalConfig? key = some config →
      l.globalConfig? key = some config) : Quiet (modify g) where
  never_panics := .modify
  configs hrun hconfig := by
    cases modify_ok.mp hrun
    exact hg hconfig

/-- A check that throws anything but a panic. -/
theorem require {c : Prop} [Decidable c] {e : ProgramError} (he : e ≠ .panic) :
    Quiet (require c e : ProgramM Pubkey Unit) where
  never_panics := .require he
  configs hrun hconfig := by
    obtain ⟨-, rfl⟩ := require_ok.mp hrun
    exact hconfig

theorem orThrow {o : Option α} {e : ProgramError} (he : e ≠ .panic) :
    Quiet (orThrow o e : ProgramM Pubkey α) where
  never_panics := .orThrow he
  configs hrun hconfig := by
    obtain ⟨-, rfl⟩ := orThrow_ok.mp hrun
    exact hconfig

/-- Reading a record may throw, with an error of the framework. -/
theorem load {kind : AccountData Pubkey → Option β} {isTokenData : Bool} {key : Pubkey} :
    Quiet (load kind isTokenData key) :=
  .bind .get fun _ => .orThrow nofun

/-- A method that does not panic, on a record that is no configuration. -/
theorem onRecord {kind : AccountData Pubkey → Option β} {wrap : β → AccountData Pubkey}
    {key : Pubkey} {method : EStateM ProgramError β α} (hmethod : method.NeverThrows .panic)
    (hwrap : ∀ record, (wrap record).globalConfig? = none) :
    Quiet (onRecord kind wrap key method) := by
  refine .bind .load fun record => ?_
  cases hrun : method.run record with
  | ok a record' =>
      exact .bind (.modify (Ledger.globalConfig?_of_put (hwrap _))) fun _ => .pure
  | error e record' =>
      refine .bind (.modify (Ledger.globalConfig?_of_put (hwrap _))) fun _ => ?_
      refine ⟨.throw fun he => ?_, fun hrun => (throw_ok.mp hrun).elim⟩
      rw [he] at hrun
      exact hmethod record record' hrun

/-! ### The system program and the token programs -/

variable {signers : List Pubkey}

/-- Moving lamports writes no data. -/
theorem systemTransfer {source destination : Pubkey} {amount : ℕ} :
    Quiet (systemTransfer signers source destination amount) :=
  .bind .get fun _ => .bind (.require nofun) fun _ => .bind (.require nofun) fun _ =>
    .bind (.require nofun) fun _ => .modify id

theorem payRent {payer key : Pubkey} {rent : ℕ} : Quiet (payRent signers payer key rent) := by
  rw [RwaTokenization.payRent]
  split
  · exact .pure
  · exact .systemTransfer

/-- A new account with data that is no configuration. -/
theorem createAccount [Runtime Pubkey] {payer key : Pubkey} {space : ℕ}
    {data : AccountData Pubkey} (hdata : data.globalConfig? = none) :
    Quiet (createAccount signers payer key space data) :=
  .bind .get fun _ => .bind .payRent fun _ => .bind (.require nofun) fun _ =>
    .modify (Ledger.globalConfig?_of_put hdata)

variable {p : TokenProgram}

theorem ownMint {key : Pubkey} : Quiet (p.ownMint key) :=
  .bind .get fun _ => .bind (.orThrow nofun) fun _ => .bind (.require nofun) fun _ => .pure

theorem ownAccount {key : Pubkey} : Quiet (p.ownAccount key) :=
  .bind .get fun _ => .bind (.orThrow nofun) fun _ => .bind (.require nofun) fun _ => .pure

theorem initializeMint [Runtime Pubkey] {payer mint mintAuthority : Pubkey} {decimals : ℕ}
    {freezeAuthority : Option Pubkey} :
    Quiet (p.initializeMint signers payer mint decimals mintAuthority freezeAuthority) :=
  .bind (.require nofun) fun _ => .createAccount rfl

theorem initializeAccount [Runtime Pubkey] {payer account mint owner : Pubkey} :
    Quiet (p.initializeAccount signers payer account mint owner) :=
  .bind (.require nofun) fun _ => .bind .ownMint fun _ => .createAccount rfl

theorem createAssociated [Runtime Pubkey] {payer owner mint : Pubkey} :
    Quiet (p.createAssociated signers payer owner mint) :=
  .bind .ownMint fun _ => .createAccount rfl

theorem mintTo {mint destination authority : Pubkey} {amount : ℕ} :
    Quiet (p.mintTo signers mint destination authority amount) :=
  .bind .ownAccount fun _ => .bind (.require nofun) fun _ => .bind (.require nofun) fun _ =>
    .bind .ownMint fun _ => .bind (.require nofun) fun _ => .bind (.require nofun) fun _ =>
    .bind (.require nofun) fun _ =>
    .modify fun h => Ledger.globalConfig?_of_put rfl (Ledger.globalConfig?_of_put rfl h)

/-- A stated mint is read and compared. -/
theorem checkMint {account : TokenAccount Pubkey} {checked : Option (Pubkey × ℕ)} :
    Quiet (p.checkMint account checked) := by
  cases checked with
  | none => exact .pure
  | some stated =>
      exact .bind (.require nofun) fun _ => .bind .ownMint fun _ => .require nofun

/-- The token program checks its additions and throws an error of its own. -/
theorem moveUnits {source destination : Pubkey} {src dst : TokenAccount Pubkey} {amount : ℕ} :
    Quiet (TokenProgram.moveUnits source destination src dst amount) := by
  rw [TokenProgram.moveUnits]
  split
  · exact .pure
  · refine .bind (.require ?_) fun _ =>
      .modify fun h => Ledger.globalConfig?_of_put rfl (Ledger.globalConfig?_of_put rfl h)
    intro he
    cases he

theorem transfer {source destination authority : Pubkey} {amount : ℕ}
    {checked : Option (Pubkey × ℕ)} :
    Quiet (p.transfer signers source destination authority amount checked) :=
  .bind .ownAccount fun _ => .bind .ownAccount fun _ => .bind (.require nofun) fun _ =>
    .bind (.require nofun) fun _ => .bind (.require nofun) fun _ => .bind .checkMint fun _ =>
    .bind (.require nofun) fun _ => .moveUnits

theorem burn {source mint authority : Pubkey} {amount : ℕ} :
    Quiet (p.burn signers source mint authority amount) :=
  .bind .ownAccount fun _ => .bind .ownMint fun _ => .bind (.require nofun) fun _ =>
    .bind (.require nofun) fun _ => .bind (.require nofun) fun _ => .bind (.require nofun) fun _ =>
    .bind (.require nofun) fun _ =>
    .modify fun h => Ledger.globalConfig?_of_put rfl (Ledger.globalConfig?_of_put rfl h)

theorem setFrozen {key mint authority : Pubkey} {isFrozen : Bool} :
    Quiet (p.setFrozen signers key mint authority isFrozen) :=
  .bind .ownAccount fun _ => .bind (.require nofun) fun _ => .bind (.require nofun) fun _ =>
    .bind .ownMint fun _ => .bind (.require nofun) fun _ => .bind (.require nofun) fun _ =>
    .modify (Ledger.globalConfig?_of_put rfl)

/-- A text is compared with its limit. -/
theorem validateText {limit : ℕ} {text : String} :
    Quiet (validateText limit text : ProgramM Pubkey Unit) :=
  .bind (.require nofun) fun _ => .require nofun

theorem validateIfProvided {validate : String → ProgramM Pubkey Unit}
    (h : ∀ text, Quiet (validate text)) {text : Option String} :
    Quiet (validateIfProvided validate text) := by
  cases text with
  | none => exact .pure
  | some t => exact h t

end Quiet

/-! ## The counters -/

/-- No counter that is always zero is at its bound. -/
theorem Ledger.not_full_zero {l : Ledger Pubkey} : ¬ l.Full fun _ => 0 := by
  rintro ⟨_, _, -, hfull⟩
  exact absurd hfull (show ¬ u64Bound ≤ 1 by decide)

namespace PanicsIfFull

variable {counter : GlobalConfig Pubkey → ℕ}

/-- What never panics does so under any condition. -/
theorem of_neverThrows {x : ProgramM Pubkey α} (hx : x.NeverThrows .panic) :
    PanicsIfFull counter x :=
  fun _ _ h => (hx _ _ h).elim

/-- What panics only at a bound that is never reached never panics. -/
theorem neverThrows {x : ProgramM Pubkey α} (hx : PanicsIfFull (fun _ => 0) x) :
    x.NeverThrows .panic :=
  fun l l' h => Ledger.not_full_zero (hx l l' h)

/-- A panic after a quiet computation was due before it. -/
theorem bind {x : ProgramM Pubkey α} {f : α → ProgramM Pubkey β} (hx : Quiet x)
    (hf : ∀ a, PanicsIfFull counter (f a)) : PanicsIfFull counter (x >>= f) := by
  intro l l' h
  obtain ⟨a, _, hrun, herror⟩ := (bind_error hx.never_panics).mp h
  obtain ⟨key, config, hconfig, hfull⟩ := hf a _ _ herror
  exact ⟨key, config, hx.configs hrun hconfig, hfull⟩

/-- A method of the configuration, before something quiet. -/
theorem onGlobalConfig {key : Pubkey}
    {method : EStateM ProgramError (GlobalConfig Pubkey) α} {f : α → ProgramM Pubkey β}
    (hmethod : ∀ config config', method.run config = .error .panic config' →
      u64Bound ≤ counter config + 1) (hf : ∀ a, Quiet (f a)) :
    PanicsIfFull counter (onGlobalConfig key method >>= f) := by
  intro l l' h
  rw [RwaTokenization.onGlobalConfig, onRecord, bind_assoc,
    bind_error Quiet.load.never_panics] at h
  obtain ⟨record, _, hload, h⟩ := h
  rw [load, get_bind_ok, orThrow_ok] at hload
  obtain ⟨hread, rfl⟩ := hload
  cases hrun : method.run record with
  | ok a record' =>
      simp only [hrun, bind_assoc, pure_bind] at h
      exact (((NeverThrows.modify.bind fun _ => (hf a).never_panics) _ _) h).elim
  | error e record' =>
      simp only [hrun, bind_assoc] at h
      obtain ⟨_, _, -, herror⟩ := (bind_error .modify).mp h
      cases herror
      exact ⟨key, record, hread, hmethod record record' hrun⟩

end PanicsIfFull

variable [Runtime Pubkey] {ctx : Context Pubkey}

/-- The counter an instruction increments, or none. -/
def Instruction.counter : Instruction Pubkey → GlobalConfig Pubkey → ℕ
  | registerAsset _ _ => GlobalConfig.totalAssets
  | tokenizeAsset _ _ => GlobalConfig.totalTokenizedAssets
  | _ => fun _ => 0

def Action.counter : Action Pubkey → GlobalConfig Pubkey → ℕ
  | program instruction => instruction.counter
  | _ => fun _ => 0

omit [DecidableEq Pubkey] [Runtime Pubkey] in
/-- A checked addition panics at the bound. -/
theorem checkedAdd_panic {σ : Type} {n : ℕ} {g : ℕ → EStateM ProgramError σ Unit} {s s' : σ}
    (hg : ∀ m, (g m).NeverThrows .panic) (h : (checkedAdd n 1 >>= g).run s = .error .panic s') :
    u64Bound ≤ n + 1 := by
  rw [checkedAdd] at h
  split at h
  · exact ((hg _ _ _) h).elim
  · omega

/-- An initialization writes a configuration and never panics. -/
theorem Initialize.panicsIfFull {accs : Initialize Pubkey} {params : InitializeParams} :
    PanicsIfFull (fun _ => 0) ((Instruction.initializeConfig accs params).execute ctx) := by
  have hcreate : ∀ {data : AccountData Pubkey}, (createAccount ctx.signers accs.authority
      accs.globalConfig GlobalConfig.size data).NeverThrows .panic :=
    .bind .get fun _ => .bind Quiet.payRent.never_panics fun _ => .bind (.require nofun) fun _ =>
      .modify
  have hinit : (GlobalConfig.init accs.authority params.registrationFee params.tokenizationFee
      params.platformFeeBps).NeverThrows .panic :=
    .bind .get fun _ => .bind (.require nofun) fun _ => .bind (.require nofun) fun _ => .set
  have hconfig : PanicsIfFull (fun _ => 0) (onGlobalConfig accs.globalConfig
      (GlobalConfig.init accs.authority params.registrationFee params.tokenizationFee
        params.platformFeeBps) >>= fun _ =>
        (pure none : ProgramM Pubkey (Option (Event Pubkey)))) :=
    .onGlobalConfig (fun _ _ h => (hinit _ _ h).elim) fun _ => .pure
  have htry : (accs.tryAccounts ctx).NeverThrows .panic :=
    .bind (.require nofun) fun _ => .bind (.require nofun) fun _ => hcreate
  exact .of_neverThrows (htry.bind fun _ => .bind (.require nofun) fun _ => hconfig.neverThrows)

/-- A registration panics at the counter of assets only. -/
theorem RegisterAsset.panicsIfFull {accs : RegisterAsset Pubkey} {args : RegisterAssetArgs} :
    PanicsIfFull GlobalConfig.totalAssets ((Instruction.registerAsset accs args).execute ctx) := by
  have htry : Quiet (accs.tryAccounts ctx) :=
    .bind .load fun _ => .bind (.require nofun) fun _ => .bind (.require nofun) fun _ =>
      .bind (.createAccount rfl) fun _ => .require nofun
  have hinit : (RwaAsset.init accs.assetId accs.owner args.assetType args.name args.symbol
      args.description args.uri args.valuation ctx.unixTimestamp).NeverThrows .panic :=
    .bind (.require nofun) fun _ => .bind (.require nofun) fun _ => .bind (.require nofun) fun _ =>
      .bind (.require nofun) fun _ => .set
  exact .bind htry fun _ => .bind .validateText fun _ => .bind .validateText fun _ =>
    .bind (.require nofun) fun _ => .bind .validateText fun _ =>
    .bind (.require nofun) fun _ => .bind .load fun _ => .bind .get fun _ =>
    .bind (.require nofun) fun _ => .bind .systemTransfer fun _ =>
    .bind (.onRecord hinit fun _ => rfl) fun _ =>
    .onGlobalConfig (fun _ _ => checkedAdd_panic fun _ => .modify) fun _ => .pure

theorem TokenizeAsset.tryAccounts_quiet {accs : TokenizeAsset Pubkey} :
    Quiet (accs.tryAccounts ctx) :=
  .bind .load fun _ => .bind .load fun _ => .bind (.require nofun) fun _ =>
    .bind .initializeMint fun _ =>
    .bind (.bind (.require nofun) fun _ => .createAccount rfl) fun _ =>
    .bind (.bind (.require nofun) fun _ => .createAssociated) fun _ =>
    .bind (.require nofun) fun _ => .bind (.require nofun) fun _ =>
    .bind (.require nofun) fun _ => .require nofun

/-- A tokenization panics at the counter of tokenized assets only. -/
theorem TokenizeAsset.panicsIfFull {accs : TokenizeAsset Pubkey} {totalSupply : ℕ} :
    PanicsIfFull GlobalConfig.totalTokenizedAssets
      ((Instruction.tokenizeAsset accs totalSupply).execute ctx) := by
  have hinit : (Tokenization.init accs.asset accs.mint totalSupply accs.owner
      ctx.unixTimestamp).NeverThrows .panic :=
    .bind (.require nofun) fun _ => .set
  have htokenize : (RwaAsset.tokenize accs.mint ctx.unixTimestamp).NeverThrows .panic :=
    .bind .get fun _ => .bind (.require nofun) fun _ => .bind .get fun _ =>
      .bind (.require nofun) fun _ => .modify
  exact .bind tryAccounts_quiet fun _ => .bind (.require nofun) fun _ => .bind .load fun _ =>
    .bind .get fun _ => .bind (.require nofun) fun _ => .bind .systemTransfer fun _ =>
    .bind (.onRecord hinit fun _ => rfl) fun _ => .bind .mintTo fun _ =>
    .bind (.onRecord htokenize fun _ => rfl) fun _ =>
    .onGlobalConfig (fun _ _ => checkedAdd_panic fun _ => .modify) fun _ => .pure

/-- The asset was checked before the counter is written. -/
theorem TokenizeAsset.untokenized_of_panic {accs : TokenizeAsset Pubkey} {totalSupply : ℕ}
    {l l' : Ledger Pubkey} (h : ((Instruction.tokenizeAsset accs totalSupply).execute ctx).run l =
      .error .panic l') : ∃ asset, l.rwaAsset? accs.asset = some asset ∧
        asset.isTokenized = false := by
  obtain ⟨_, _, haccounts, -⟩ := (bind_error tryAccounts_quiet.never_panics).mp h
  obtain ⟨_, asset, -, hasset, -, -, -, -, huntokenized, -⟩ := tryAccounts_ok haccounts
  exact ⟨asset, hasset, huntokenized⟩

omit [DecidableEq Pubkey] [Runtime Pubkey] in
/-- The texts are refused with errors of the program. -/
theorem RwaAsset.updateMetadata_neverThrows {name description uri : Option String} :
    (RwaAsset.updateMetadata name description uri :
      EStateM ProgramError (RwaAsset Pubkey) Unit).NeverThrows .panic := by
  have hreplace : ∀ {limit : ℕ} {write : RwaAsset Pubkey → String → RwaAsset Pubkey}
      {text : Option String}, (RwaAsset.replaceText limit write text).NeverThrows .panic := by
    intro limit write text
    cases text with
    | none => exact .pure
    | some t => exact .bind (.require nofun) fun _ => .modify
  exact .bind hreplace fun _ => .bind hreplace fun _ => hreplace

omit [Runtime Pubkey] in
theorem Quiet.validateTransition {oldStatus status : AssetStatus} :
    Quiet (SetAssetStatus.validateTransition oldStatus status : ProgramM Pubkey Unit) := by
  have hthrow : Quiet (throw (.custom .invalidAssetStatus) : ProgramM Pubkey Unit) :=
    ⟨.throw nofun, fun h => (throw_ok.mp h).elim⟩
  cases oldStatus with
  | liquidated => exact hthrow
  | redeemed => exact hthrow
  | _ => exact .pure

/-! ### The instructions that write no configuration -/

theorem TransferOwnership.quiet {accs : TransferOwnership Pubkey} {amount : ℕ} :
    Quiet ((Instruction.transferOwnership accs amount).execute ctx) := by
  have htry : Quiet (accs.tryAccounts ctx) :=
    .bind .load fun _ => .bind (.require nofun) fun _ => .bind .load fun _ => .bind .load fun _ =>
      .bind .load fun _ => .bind (.require nofun) fun _ => .bind (.require nofun) fun _ =>
      .bind (.require nofun) fun _ => .bind (.require nofun) fun _ =>
      .bind (.require nofun) fun _ => .bind (.require nofun) fun _ =>
      .bind (.require nofun) fun _ => .require nofun
  exact .bind htry fun _ => .bind (.require nofun) fun _ => .bind .load fun _ =>
    .bind .transfer fun _ => .pure

theorem UpdateAssetMetadata.quiet {accs : UpdateAssetMetadata Pubkey}
    {args : UpdateAssetMetadataArgs} :
    Quiet ((Instruction.updateAssetMetadata accs args).execute ctx) := by
  have htry : Quiet (accs.tryAccounts ctx) :=
    .bind .load fun _ => .bind (.require nofun) fun _ => .bind (.require nofun) fun _ =>
      .require nofun
  have hdescription : ∀ text, Quiet (validateDescription text : ProgramM Pubkey Unit) :=
    fun _ => .require nofun
  exact .bind htry fun _ => .bind (.validateIfProvided fun _ => .validateText) fun _ =>
    .bind (.validateIfProvided hdescription) fun _ =>
    .bind (.validateIfProvided fun _ => .validateText) fun _ =>
    .bind (.onRecord RwaAsset.updateMetadata_neverThrows fun _ => rfl) fun _ => .pure

theorem VerifyOwnership.quiet {accs : VerifyOwnership Pubkey} :
    Quiet ((Instruction.verifyOwnership accs).execute ctx) := by
  have htry : Quiet accs.tryAccounts :=
    .bind .load fun _ => .bind (.require nofun) fun _ => .require nofun
  exact .bind htry fun _ => .pure

theorem RedeemAsset.quiet {accs : RedeemAsset Pubkey} {amount : ℕ} :
    Quiet ((Instruction.redeemAsset accs amount).execute ctx) := by
  have htry : Quiet (accs.tryAccounts ctx) :=
    .bind .load fun _ => .bind .load fun _ => .bind (.require nofun) fun _ => .bind .load fun _ =>
      .bind .load fun _ => .bind (.require nofun) fun _ => .bind (.require nofun) fun _ =>
      .bind (.require nofun) fun _ => .bind (.require nofun) fun _ =>
      .bind (.require nofun) fun _ => .bind (.require nofun) fun _ => .require nofun
  exact .bind htry fun _ => .bind (.require nofun) fun _ => .bind .burn fun _ => .pure

theorem SetAssetStatus.quiet {accs : SetAssetStatus Pubkey} {status : AssetStatus} :
    Quiet ((Instruction.setAssetStatus accs status).execute ctx) := by
  have htry : Quiet (accs.tryAccounts ctx) :=
    .bind .load fun _ => .bind (.require nofun) fun _ => .bind (.require nofun) fun _ =>
      .require nofun
  exact .bind htry fun _ => .bind .load fun _ => .bind .validateTransition fun _ =>
    .bind (.onRecord .modify fun _ => rfl) fun _ => .pure

/-- The token programs write no configuration. -/
theorem TokenInstruction.quiet {p : TokenProgram} (instruction : TokenInstruction Pubkey) :
    Quiet (instruction.execute ctx p) := by
  cases instruction with
  | initializeMint => exact .initializeMint
  | initializeAccount => exact .initializeAccount
  | createAssociated => exact .createAssociated
  | mintTo => exact .mintTo
  | transfer => exact .transfer
  | burn => exact .burn
  | setFrozen => exact .setFrozen

/-- An action panics only if the counter it increments is at its bound. -/
theorem Action.panicsIfFull (action : Action Pubkey) :
    PanicsIfFull action.counter (action.execute ctx) := by
  have hquiet : ∀ {x : ProgramM Pubkey (Option (Event Pubkey))}, Quiet x →
      PanicsIfFull (fun _ => 0) x := fun hx => .of_neverThrows hx.never_panics
  cases action with
  | program instruction =>
      cases instruction with
      | initializeConfig accs params => exact Initialize.panicsIfFull
      | registerAsset accs args => exact RegisterAsset.panicsIfFull
      | tokenizeAsset accs totalSupply => exact TokenizeAsset.panicsIfFull
      | transferOwnership accs amount => exact hquiet TransferOwnership.quiet
      | updateAssetMetadata accs args => exact hquiet UpdateAssetMetadata.quiet
      | verifyOwnership accs => exact hquiet VerifyOwnership.quiet
      | redeemAsset accs amount => exact hquiet RedeemAsset.quiet
      | setAssetStatus accs status => exact hquiet SetAssetStatus.quiet
  | token p instruction =>
      exact hquiet (.bind (TokenInstruction.quiet instruction) fun _ => .pure)
  | systemTransfer source destination amount =>
      exact hquiet (.bind .systemTransfer fun _ => .pure)

theorem execute_of_transact_panic {l : Ledger Pubkey} {tx : Transaction Pubkey}
    (h : (transact l tx).2 = .error .panic) :
    ∃ l', (tx.action.execute tx.ctx).run l = .error .panic l' := by
  rw [transact] at h
  cases hrun : (tx.action.execute tx.ctx).run l with
  | ok event after =>
      rw [hrun] at h
      cases h
  | error e after =>
      rw [hrun] at h
      cases h
      exact ⟨after, rfl⟩

end RwaTokenization
