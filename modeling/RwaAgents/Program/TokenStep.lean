import RwaAgents.Program.AssetStep

/-!
# What a transaction does to the mints and token accounts

`TokenStep` lists the successful transactions that create, move or burn units or
create or freeze an account, with what each is known to have checked.  The ones
that do not touch tokens at all are `idle`.

`TokensValid` is what the token programs keep: every token account has a mint,
no account of a mint without a freeze authority is frozen, and the supply a mint
states is what its accounts hold together.
-/

namespace RwaTokenization

variable {Pubkey : Type} [DecidableEq Pubkey] [Runtime Pubkey] {ctx : Context Pubkey}
  {l l' : Ledger Pubkey}

/-- Does the action touch a mint or a token account? -/
def Action.touchesTokens : Action Pubkey → Bool
  | .program (.tokenizeAsset _ _) => true
  | .program (.transferOwnership _ _) => true
  | .program (.redeemAsset _ _) => true
  | .token _ _ => true
  | _ => false

/-- Does the call create a token account? -/
def TokenInstruction.createsAccount : TokenInstruction Pubkey → Bool
  | .initializeAccount _ _ _ _ => true
  | .createAssociated _ _ _ => true
  | _ => false

inductive TokenStep (ctx : Context Pubkey) (l l' : Ledger Pubkey) : Action Pubkey → Prop
  | idle {action : Action Pubkey} (quiet : action.touchesTokens = false)
      (same : SameTokens l l') : TokenStep ctx l l' action
  | newMint {p : TokenProgram} {payer key authority : Pubkey} {decimals : ℕ}
      {freezeAuthority : Option Pubkey} (fresh : l.data? key = none)
      (data : l'.data? = Function.update l.data? key
        (some (.mint ⟨p, some authority, 0, decimals, freezeAuthority⟩))) :
      TokenStep ctx l l'
        (.token p (.initializeMint payer key decimals authority freezeAuthority))
  | newAccount {p : TokenProgram} {instruction : TokenInstruction Pubkey} {key mint owner : Pubkey}
      {record : Mint Pubkey} (creates : instruction.createsAccount = true)
      (record_eq : l.mint? mint = some record) (record_program : record.program = p)
      (fresh : l.data? key = none)
      (data : l'.data? = Function.update l.data? key
        (some (.tokenAccount ⟨p, mint, owner, 0, false⟩))) :
      TokenStep ctx l l' (.token p instruction)
  | mintTo {p : TokenProgram} {mint destination authority : Pubkey} {amount : ℕ}
      {account : TokenAccount Pubkey} {record : Mint Pubkey}
      (accepted : l.MintAccepted p ctx.signers mint destination authority amount account record)
      (after : l' = (l.setAmount destination account (account.amount + amount)).setSupply mint
        record (record.supply + amount)) :
      TokenStep ctx l l' (.token p (.mintTo mint destination authority amount))
  | transfer {p : TokenProgram} {source destination authority : Pubkey} {amount : ℕ}
      {checked : Option (Pubkey × ℕ)} {src dst : TokenAccount Pubkey}
      (accepted : l.TransferAccepted p ctx.signers source destination authority amount checked src
        dst)
      (after : l' = l.moved source destination src dst amount) :
      TokenStep ctx l l' (.token p (.transfer source destination authority amount checked))
  | burn {p : TokenProgram} {source mint authority : Pubkey} {amount : ℕ}
      {account : TokenAccount Pubkey} {record : Mint Pubkey}
      (accepted : l.BurnAccepted p ctx.signers source mint authority amount account record)
      (after : l' = (l.setAmount source account (account.amount - amount)).setSupply mint record
        (record.supply - amount)) :
      TokenStep ctx l l' (.token p (.burn source mint authority amount))
  | setFrozen {p : TokenProgram} {key mint authority : Pubkey} {isFrozen : Bool}
      {account : TokenAccount Pubkey} {record : Mint Pubkey}
      (account_eq : l.tokenAccount? key = some account)
      (record_eq : l.mint? account.mint = some record)
      (authority_eq : record.freezeAuthority = some authority)
      (after : l' = l.put key (.tokenAccount { account with isFrozen })) :
      TokenStep ctx l l' (.token p (.setFrozen key mint authority isFrozen))
  | tokenize {accs : TokenizeAsset Pubkey} {totalSupply : ℕ} {config : GlobalConfig Pubkey}
      {asset : RwaAsset Pubkey} (effect : accs.Effect ctx totalSupply config asset l l') :
      TokenStep ctx l l' (.program (.tokenizeAsset accs totalSupply))
  | transferOwnership {accs : TransferOwnership Pubkey} {amount : ℕ} {asset : RwaAsset Pubkey}
      {mint : Mint Pubkey} {src dst : TokenAccount Pubkey}
      (accepted : accs.Accepted ctx amount asset mint src dst l)
      (after : l' = l.moved accs.fromTokenAccount accs.toTokenAccount src dst amount) :
      TokenStep ctx l l' (.program (.transferOwnership accs amount))
  | redeem {accs : RedeemAsset Pubkey} {amount : ℕ} {asset : RwaAsset Pubkey}
      {tokenization : Tokenization Pubkey} {account : TokenAccount Pubkey} {mint : Mint Pubkey}
      (accepted : accs.Accepted ctx amount asset tokenization account mint l)
      (after : l' = (l.setAmount accs.ownerTokenAccount account (account.amount - amount)).setSupply
        accs.mint mint (mint.supply - amount)) :
      TokenStep ctx l l' (.program (.redeemAsset accs amount))

omit [Runtime Pubkey] in
/-- A record written over a record leaves the tokens alone. -/
theorem SameTokens.put_rwaAsset {key : Pubkey} {asset : RwaAsset Pubkey}
    (h : l.rwaAsset? key = some asset) (asset' : RwaAsset Pubkey) :
    SameTokens l (l.put key (.rwaAsset asset')) :=
  .of_update (Ledger.put_data? _ _ _) rfl fun d hd => by
    rw [Ledger.rwaAsset?_eq_some.mp h] at hd
    cases hd
    rfl

theorem RegisterAsset.Effect.sameTokens {accs : RegisterAsset Pubkey} {args : RegisterAssetArgs}
    {config : GlobalConfig Pubkey} (h : accs.Effect ctx args config l l') : SameTokens l l' := by
  have hconfig := Ledger.globalConfig?_eq_some.mp h.config_read
  constructor
  · refine (h.read _).trans ?_
    simp only [AccountData.mint?]
    rw [Ledger.update_none (Ledger.read_of_data?_eq_none h.fresh _),
      Ledger.update_none (Ledger.read_of_data? hconfig _)]
    rfl
  · refine (h.read _).trans ?_
    simp only [AccountData.tokenAccount?]
    rw [Ledger.update_none (Ledger.read_of_data?_eq_none h.fresh _),
      Ledger.update_none (Ledger.read_of_data? hconfig _)]
    rfl

theorem TokenInstruction.tokenStep {p : TokenProgram} {instruction : TokenInstruction Pubkey}
    {u : Unit} (h : (instruction.execute ctx p).run l = .ok u l') :
    TokenStep ctx l l' (.token p instruction) := by
  cases instruction with
  | initializeMint payer mint decimals mintAuthority freezeAuthority =>
      obtain ⟨-, hfresh, hdata⟩ := TokenProgram.initializeMint_ok h
      exact .newMint hfresh hdata
  | initializeAccount payer account mint owner =>
      obtain ⟨_, hrecord, hprogram, hfresh, hdata⟩ := TokenProgram.initializeAccount_ok h
      exact .newAccount rfl hrecord hprogram hfresh hdata
  | createAssociated payer owner mint =>
      obtain ⟨_, hrecord, hprogram, hfresh, hdata⟩ := TokenProgram.createAssociated_ok h
      exact .newAccount rfl hrecord hprogram hfresh hdata
  | mintTo mint destination authority amount =>
      obtain ⟨_, _, haccepted, hafter⟩ := TokenProgram.mintTo_ok.mp h
      exact .mintTo haccepted hafter
  | transfer source destination authority amount checked =>
      obtain ⟨_, _, haccepted, hafter⟩ := TokenProgram.transfer_ok.mp h
      exact .transfer haccepted hafter
  | burn source mint authority amount =>
      obtain ⟨_, _, haccepted, hafter⟩ := TokenProgram.burn_ok.mp h
      exact .burn haccepted hafter
  | setFrozen key mint authority isFrozen =>
      obtain ⟨_, _, haccount, hrecord, hauthority, -, hafter⟩ := TokenProgram.setFrozen_ok h
      exact .setFrozen haccount hrecord hauthority hafter

theorem Action.tokenStep {action : Action Pubkey} {event : Option (Event Pubkey)}
    (h : (action.execute ctx).run l = .ok event l') : TokenStep ctx l l' action := by
  cases action with
  | program instruction =>
      cases instruction with
      | initializeConfig accs params =>
          obtain ⟨-, heffect⟩ := Initialize.effect h
          refine .idle rfl (.of_update heffect.data rfl fun d hd => ?_)
          rw [heffect.fresh] at hd
          cases hd
      | registerAsset accs args =>
          obtain ⟨-, _, heffect⟩ := RegisterAsset.effect h
          exact .idle rfl heffect.sameTokens
      | tokenizeAsset accs totalSupply =>
          obtain ⟨-, _, _, heffect⟩ := TokenizeAsset.effect h
          exact .tokenize heffect
      | transferOwnership accs amount =>
          obtain ⟨_, _, _, _, haccepted, -, hafter⟩ := TransferOwnership.execute_ok.mp h
          exact .transferOwnership haccepted hafter
      | updateAssetMetadata accs args =>
          obtain ⟨_, haccepted, -, rfl⟩ := UpdateAssetMetadata.execute_ok.mp h
          exact .idle rfl (.put_rwaAsset haccepted.asset_read _)
      | verifyOwnership accs =>
          obtain ⟨-, -, rfl⟩ := VerifyOwnership.execute_ok.mp h
          exact .idle rfl (.refl l')
      | redeemAsset accs amount =>
          obtain ⟨_, _, _, _, haccepted, -, hafter⟩ := RedeemAsset.execute_ok.mp h
          exact .redeem haccepted hafter
      | setAssetStatus accs status =>
          obtain ⟨_, haccepted, -, rfl⟩ := SetAssetStatus.execute_ok.mp h
          exact .idle rfl (.put_rwaAsset haccepted.asset_read _)
  | token p instruction =>
      obtain ⟨-, hrun⟩ := Action.token_ok.mp h
      exact TokenInstruction.tokenStep hrun
  | systemTransfer source destination amount =>
      obtain ⟨-, -, -, -, rfl⟩ := Action.systemTransfer_ok.mp h
      exact .idle rfl ⟨rfl, rfl⟩

/-- A transaction fails and changes nothing, or is a token step. -/
theorem transact_tokenStep (l : Ledger Pubkey) (tx : Transaction Pubkey) :
    (∃ event, (transact l tx).2 = .ok event ∧ TokenStep tx.ctx l (transact l tx).1 tx.action) ∨
      ∃ e, transact l tx = (l, .error e) := by
  rcases transact_cases l tx with ⟨event, after, hrun, he⟩ | herror
  · rw [he]
    exact .inl ⟨event, rfl, Action.tokenStep hrun⟩
  · exact .inr herror

/-! ## The invariant of the tokens -/

/-- The invariant the token programs keep. -/
structure TokensValid (l : Ledger Pubkey) : Prop where
  /-- Every token account has a mint of the same program. -/
  account_mint : ∀ {key account}, l.tokenAccount? key = some account →
    ∃ mint, l.mint? account.mint = some mint ∧ mint.program = account.program
  /-- No account of a mint without a freeze authority is frozen. -/
  thawed : ∀ {key account mint}, l.tokenAccount? key = some account →
    l.mint? account.mint = some mint → mint.freezeAuthority = none → account.isFrozen = false
  /-- The supply is what the accounts hold together. -/
  backed : ∀ {key mint}, l.mint? key = some mint → mint.supply = l.holdings key
  bounded : ∀ {key mint}, l.mint? key = some mint → mint.supply < u64Bound

namespace TokensValid

variable (h : TokensValid l)

include h

omit [Runtime Pubkey] in
theorem of_sameTokens (hsame : SameTokens l l') : TokensValid l' where
  account_mint := by rw [hsame.accounts, hsame.mints]; exact h.account_mint
  thawed := by rw [hsame.accounts, hsame.mints]; exact h.thawed
  backed hmint := by rw [hsame.holdings]; rw [hsame.mints] at hmint; exact h.backed hmint
  bounded := by rw [hsame.mints]; exact h.bounded

omit [Runtime Pubkey] in
/-- What only changes supplies and amounts has to keep the two in step. -/
theorem of_sameTerms (hsame : SameTerms l l')
    (hbacked : ∀ {key mint}, l'.mint? key = some mint →
      mint.supply = l'.holdings key ∧ mint.supply < u64Bound) : TokensValid l' where
  account_mint haccount := by
    obtain ⟨account, hread, hterms⟩ := hsame.account_of_after haccount
    obtain ⟨hprogram, hmint, -, -⟩ := TokenAccount.terms_eq hterms
    obtain ⟨mint, hmintRead, hmintProgram⟩ := h.account_mint hread
    obtain ⟨mint', hmintRead', hmintTerms⟩ := hsame.mint_of_before hmintRead
    rw [← hmint, ← hprogram]
    exact ⟨mint', hmintRead', (Mint.terms_eq hmintTerms).1.trans hmintProgram⟩
  thawed haccount hmintRead' hfreeze := by
    obtain ⟨account, hread, hterms⟩ := hsame.account_of_after haccount
    obtain ⟨-, hmint, -, hfrozen⟩ := TokenAccount.terms_eq hterms
    obtain ⟨mint, hmintRead, hmintTerms⟩ := hsame.mint_of_after hmintRead'
    rw [← hmint] at hmintRead
    rw [← hfrozen]
    exact h.thawed hread hmintRead ((Mint.terms_eq hmintTerms).2.2.2.trans hfreeze)
  backed hmint := (hbacked hmint).1
  bounded hmint := (hbacked hmint).2

omit [Runtime Pubkey] in
/-- Nobody holds units of an address that is no mint. -/
theorem balance_eq_zero {key : Pubkey} (hfresh : l.mint? key = none) (k : Pubkey) :
    l.balance key k = 0 := by
  refine Ledger.balance_eq_zero (fun haccount he => ?_) k
  obtain ⟨mint, hmint, -⟩ := h.account_mint haccount
  rw [he, hfresh] at hmint
  cases hmint

end TokensValid

end RwaTokenization
