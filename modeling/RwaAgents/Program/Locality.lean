import RwaAgents.Library.Locality
import RwaAgents.Program.Execution

/-!
# What a transaction touches

Every account an instruction uses is named in its account list, and the list says
which of them are writable (`mut` or `init` in the source).  The runtime relies on
that to run transactions side by side.  `accounts` and `writable` repeat the lists.

`programMachine_footprint` says that the program keeps to them: a transaction
changes nothing that it does not declare writable, and how it ends depends on the
accounts it names.  So transactions that do not conflict may be scheduled in any
order.
-/

namespace RwaTokenization

open EStateM

variable {Pubkey : Type}

/-! ## Account lists -/

/-- The account lists are in the order of the source, less the programs and the sysvars. -/
def Initialize.accounts (accs : Initialize Pubkey) : List Pubkey :=
  [accs.globalConfig, accs.authority]

def Initialize.writable (accs : Initialize Pubkey) : List Pubkey :=
  [accs.globalConfig, accs.authority]

def RegisterAsset.accounts (accs : RegisterAsset Pubkey) : List Pubkey :=
  [accs.globalConfig, accs.assetId, accs.asset, accs.owner]

/-- The counter and the fee are on the configuration, and the owner pays. -/
def RegisterAsset.writable (accs : RegisterAsset Pubkey) : List Pubkey :=
  [accs.globalConfig, accs.asset, accs.owner]

def TokenizeAsset.accounts (accs : TokenizeAsset Pubkey) : List Pubkey :=
  [accs.globalConfig, accs.asset, accs.mint, accs.tokenization, accs.ownerTokenAccount, accs.owner]

/-- All accounts are written. -/
def TokenizeAsset.writable (accs : TokenizeAsset Pubkey) : List Pubkey :=
  [accs.globalConfig, accs.asset, accs.mint, accs.tokenization, accs.ownerTokenAccount, accs.owner]

def TransferOwnership.accounts (accs : TransferOwnership Pubkey) : List Pubkey :=
  [accs.asset, accs.from, accs.fromTokenAccount, accs.toTokenAccount, accs.mint]

/-- Units move between two accounts.  The record of the asset and the mint are read only. -/
def TransferOwnership.writable (accs : TransferOwnership Pubkey) : List Pubkey :=
  [accs.from, accs.fromTokenAccount, accs.toTokenAccount]

def UpdateAssetMetadata.accounts (accs : UpdateAssetMetadata Pubkey) : List Pubkey :=
  [accs.asset, accs.owner]

def UpdateAssetMetadata.writable (accs : UpdateAssetMetadata Pubkey) : List Pubkey := [accs.asset]

def VerifyOwnership.accounts (accs : VerifyOwnership Pubkey) : List Pubkey :=
  [accs.asset, accs.tokenAccount, accs.owner]

/-- The source names the token account as `mut`, and nothing is written to it. -/
def VerifyOwnership.writable (accs : VerifyOwnership Pubkey) : List Pubkey := [accs.tokenAccount]

def RedeemAsset.accounts (accs : RedeemAsset Pubkey) : List Pubkey :=
  [accs.asset, accs.tokenization, accs.owner, accs.ownerTokenAccount, accs.mint]

/-- The source names the asset as `mut`, and a burn does not write it. -/
def RedeemAsset.writable (accs : RedeemAsset Pubkey) : List Pubkey :=
  [accs.asset, accs.owner, accs.ownerTokenAccount, accs.mint]

def SetAssetStatus.accounts (accs : SetAssetStatus Pubkey) : List Pubkey := [accs.asset, accs.owner]

def SetAssetStatus.writable (accs : SetAssetStatus Pubkey) : List Pubkey := [accs.asset]

/-- The accounts an instruction names. -/
def Instruction.accounts : Instruction Pubkey → List Pubkey
  | initializeConfig accs _ => accs.accounts
  | registerAsset accs _ => accs.accounts
  | tokenizeAsset accs _ => accs.accounts
  | transferOwnership accs _ => accs.accounts
  | updateAssetMetadata accs _ => accs.accounts
  | verifyOwnership accs => accs.accounts
  | redeemAsset accs _ => accs.accounts
  | setAssetStatus accs _ => accs.accounts

/-- The accounts an instruction names as writable. -/
def Instruction.writable : Instruction Pubkey → List Pubkey
  | initializeConfig accs _ => accs.writable
  | registerAsset accs _ => accs.writable
  | tokenizeAsset accs _ => accs.writable
  | transferOwnership accs _ => accs.writable
  | updateAssetMetadata accs _ => accs.writable
  | verifyOwnership accs => accs.writable
  | redeemAsset accs _ => accs.writable
  | setAssetStatus accs _ => accs.writable

variable [Runtime Pubkey]

/-- The accounts a call of a token program names. -/
def TokenInstruction.accounts (p : TokenProgram) : TokenInstruction Pubkey → List Pubkey
  | initializeMint payer mint _ _ _ => [payer, mint]
  | initializeAccount payer account mint owner => [payer, account, mint, owner]
  | createAssociated payer owner mint =>
      [payer, Runtime.associatedTokenAddress owner p mint, owner, mint]
  | mintTo mint destination authority _ => [mint, destination, authority]
  | transfer source destination authority _ none => [source, destination, authority]
  | transfer source destination authority _ (some (mint, _)) =>
      [source, mint, destination, authority]
  | burn source mint authority _ => [source, mint, authority]
  | setFrozen account mint authority _ => [account, mint, authority]

/-- The accounts a call of a token program names as writable. -/
def TokenInstruction.writable (p : TokenProgram) : TokenInstruction Pubkey → List Pubkey
  | initializeMint payer mint _ _ _ => [payer, mint]
  | initializeAccount payer account _ _ => [payer, account]
  | createAssociated payer owner mint => [payer, Runtime.associatedTokenAddress owner p mint]
  | mintTo mint destination _ _ => [mint, destination]
  | transfer source destination _ _ _ => [source, destination]
  | burn source mint _ _ => [source, mint]
  | setFrozen account _ _ _ => [account]

/-- The accounts an action names. -/
def Action.accounts : Action Pubkey → List Pubkey
  | program instruction => instruction.accounts
  | token p instruction => instruction.accounts p
  | systemTransfer source destination _ => [source, destination]

/-- The accounts an action names as writable. -/
def Action.writable : Action Pubkey → List Pubkey
  | program instruction => instruction.writable
  | token p instruction => instruction.writable p
  | systemTransfer source destination _ => [source, destination]

/-- What is writable is named. -/
theorem Action.writable_subset (action : Action Pubkey) : action.writable ⊆ action.accounts := by
  cases action with
  | program instruction =>
      cases instruction <;> simp [writable, accounts, Instruction.writable, Instruction.accounts,
        Initialize.writable, Initialize.accounts, RegisterAsset.writable, RegisterAsset.accounts,
        TokenizeAsset.writable, TokenizeAsset.accounts, TransferOwnership.writable,
        TransferOwnership.accounts, UpdateAssetMetadata.writable, UpdateAssetMetadata.accounts,
        VerifyOwnership.writable, VerifyOwnership.accounts, RedeemAsset.writable,
        RedeemAsset.accounts, SetAssetStatus.writable, SetAssetStatus.accounts]
  | token p instruction =>
      cases instruction with
      | transfer source destination authority amount checked =>
          rcases checked with _ | ⟨mint, decimals⟩ <;>
            simp [writable, accounts, TokenInstruction.writable, TokenInstruction.accounts]
      | _ => simp [writable, accounts, TokenInstruction.writable, TokenInstruction.accounts]
  | systemTransfer source destination amount => exact fun _ h => h

/-! ## What the ledger shows -/

variable [DecidableEq Pubkey]

/-- The lamports and the data at an address. -/
def Ledger.view (ledger : Ledger Pubkey) (key : Pubkey) : ℕ × Option (AccountData Pubkey) :=
  (ledger.lamports key, ledger.data? key)

section

variable {R W : List Pubkey} {l l' : Ledger Pubkey} {key : Pubkey}

omit [Runtime Pubkey]

/-- Writing data shows at its address only. -/
theorem Ledger.put_view (l : Ledger Pubkey) (key : Pubkey) (data : AccountData Pubkey)
    (k : Pubkey) :
    (l.put key data).view k = if k = key then (l.lamports key, some data) else l.view k := by
  rw [view, put_data?, Function.update_apply]
  split
  · next hk => rw [hk]; rfl
  · rfl

/-- A payment shows at its two ends only. -/
theorem Ledger.pay_view (l : Ledger Pubkey) (source destination : Pubkey) (n : ℕ) (k : Pubkey) :
    (l.pay source destination n).view k =
      ((l.pay source destination n).lamports k, (l.view k).2) := rfl

namespace Ledger

theorem lamports_of_sameAt (h : SameAt view R l l') (hkey : key ∈ R) :
    l.lamports key = l'.lamports key := congrArg Prod.fst (h key hkey)

theorem data?_of_sameAt (h : SameAt view R l l') (hkey : key ∈ R) : l.data? key = l'.data? key :=
  congrArg Prod.snd (h key hkey)

theorem read_of_sameAt {β : Type} (h : SameAt view R l l') (hkey : key ∈ R)
    (kind : AccountData Pubkey → Option β) : l.read kind key = l'.read kind key := by
  rw [read, read, data?_of_sameAt h hkey]

/-- Writing to a writable account. -/
theorem put_local (hsub : W ⊆ R) (hkey : key ∈ W) (data : AccountData Pubkey) :
    LocalUpdate view R W (·.put key data) where
  frame l k hk := by
    rw [put_view, if_neg]
    rintro rfl
    exact hk hkey
  congr {l l'} h k hk := by
    rw [put_view, put_view, h k hk, lamports_of_sameAt h (hsub hkey)]

/-- Paying between writable accounts. -/
theorem pay_local {source destination : Pubkey} (hsub : W ⊆ R) (hsource : source ∈ W)
    (hdestination : destination ∈ W) (n : ℕ) :
    LocalUpdate view R W (·.pay source destination n) where
  frame l k hk := by
    have hks : k ≠ source := fun he => hk (he ▸ hsource)
    have hkd : k ≠ destination := fun he => hk (he ▸ hdestination)
    rw [pay_view, pay_lamports_of_ne l n hks hkd]
    rfl
  congr {l l'} h k hk := by
    rw [pay_view, pay_view, h k hk, pay, pay]
    simp only [Function.update_apply, lamports_of_sameAt h (hsub hsource),
      lamports_of_sameAt h (hsub hdestination), lamports_of_sameAt h hk]

end Ledger

/-! ## The parts of an instruction -/

/-- Reading an account that is named. -/
theorem load_local {β : Type} (kind : AccountData Pubkey → Option β) (isTokenData : Bool)
    (hkey : key ∈ R) : (load kind isTokenData key).Local Ledger.view R W := by
  refine .get_bind (fun l => .orThrow) fun h => ?_
  simp only [Ledger.loadError, Ledger.read_of_sameAt h hkey, Ledger.data?_of_sameAt h hkey,
    Ledger.lamports_of_sameAt h hkey]

/-- A method of a record reads it and writes it back. -/
theorem onRecord_local {α β : Type} (kind : AccountData Pubkey → Option β)
    (wrap : β → AccountData Pubkey) (method : EStateM ProgramError β α) (hsub : W ⊆ R)
    (hkey : key ∈ W) : (onRecord kind wrap key method).Local Ledger.view R W := by
  refine .bind (load_local kind false (hsub hkey)) fun record => ?_
  cases method.run record with
  | ok a record' => exact .bind (.modify (Ledger.put_local hsub hkey _)) fun _ => .pure
  | error e record' => exact .bind (.modify (Ledger.put_local hsub hkey _)) fun _ => .throw

/-- Both ends of a transfer are writable. -/
theorem systemTransfer_local {source destination : Pubkey} (signers : List Pubkey) (amount : ℕ)
    (hsub : W ⊆ R) (hsource : source ∈ W) (hdestination : destination ∈ W) :
    (systemTransfer signers source destination amount).Local Ledger.view R W := by
  refine .get_bind (fun l => ?_) fun h => ?_
  · refine .bind .require fun _ => .bind .require fun _ => .bind .require fun _ => ?_
    exact .modify (Ledger.pay_local hsub hsource hdestination amount)
  · rw [Ledger.data?_of_sameAt h (hsub hsource), Ledger.lamports_of_sameAt h (hsub hsource)]

theorem payRent_local {payer : Pubkey} (signers : List Pubkey) (rent : ℕ) (hsub : W ⊆ R)
    (hpayer : payer ∈ W) (hkey : key ∈ W) :
    (payRent signers payer key rent).Local Ledger.view R W := by
  rw [payRent]
  split
  · exact .pure
  · exact systemTransfer_local signers rent hsub hpayer hkey

end

section

variable {R W : List Pubkey} {key payer : Pubkey} {p : TokenProgram} (signers : List Pubkey)

/-- The payer and the new account are writable. -/
theorem createAccount_local (space : ℕ) (data : AccountData Pubkey) (hsub : W ⊆ R)
    (hpayer : payer ∈ W) (hkey : key ∈ W) :
    (createAccount signers payer key space data).Local Ledger.view R W := by
  refine .get_bind (fun l => ?_) fun h => ?_
  · refine .bind (payRent_local signers _ hsub hpayer hkey) fun _ => .bind .require fun _ => ?_
    exact .modify (Ledger.put_local hsub hkey data)
  · rw [Ledger.data?_of_sameAt h (hsub hkey), Ledger.lamports_of_sameAt h (hsub hkey)]

omit [Runtime Pubkey] in
theorem ownMint_local (hkey : key ∈ R) : (p.ownMint key).Local Ledger.view R W := by
  refine .get_bind (fun l => .bind .orThrow fun _ => .bind .require fun _ => .pure) fun h => ?_
  simp only [Ledger.mint?, Ledger.read_of_sameAt h hkey]

omit [Runtime Pubkey] in
theorem ownAccount_local (hkey : key ∈ R) : (p.ownAccount key).Local Ledger.view R W := by
  refine .get_bind (fun l => .bind .orThrow fun _ => .bind .require fun _ => .pure) fun h => ?_
  simp only [Ledger.tokenAccount?, Ledger.read_of_sameAt h hkey]

omit [Runtime Pubkey] in
/-- A mint writes the supply and one account. -/
theorem mintTo_local {mint destination authority : Pubkey} (amount : ℕ) (hsub : W ⊆ R)
    (hmint : mint ∈ W) (hdestination : destination ∈ W) :
    (p.mintTo signers mint destination authority amount).Local Ledger.view R W := by
  refine .bind (ownAccount_local (hsub hdestination)) fun account => ?_
  refine .bind .require fun _ => .bind .require fun _ => ?_
  refine .bind (ownMint_local (hsub hmint)) fun record => ?_
  refine .bind .require fun _ => .bind .require fun _ => .bind .require fun _ => .modify ?_
  exact (Ledger.put_local hsub hmint _).comp (Ledger.put_local hsub hdestination _)

omit [Runtime Pubkey] in
/-- A transfer writes two accounts, and reads the mint where one is stated. -/
theorem transfer_local {source destination authority : Pubkey} (amount : ℕ)
    {checked : Option (Pubkey × ℕ)} (hsub : W ⊆ R) (hsource : source ∈ W)
    (hdestination : destination ∈ W) (hchecked : ∀ stated ∈ checked, stated.1 ∈ R) :
    (p.transfer signers source destination authority amount checked).Local Ledger.view R W := by
  have hmove : ∀ src dst : TokenAccount Pubkey,
      (TokenProgram.moveUnits source destination src dst amount).Local Ledger.view R W := by
    intro src dst
    rw [TokenProgram.moveUnits]
    split
    · exact .pure
    · refine .bind .require fun _ => .modify ?_
      exact (Ledger.put_local hsub hdestination _).comp (Ledger.put_local hsub hsource _)
  refine .bind (ownAccount_local (hsub hsource)) fun src => ?_
  refine .bind (ownAccount_local (hsub hdestination)) fun dst => ?_
  refine .bind .require fun _ => .bind .require fun _ => .bind .require fun _ => .bind ?_ fun _ =>
    .bind .require fun _ => hmove src dst
  cases checked with
  | none => exact .pure
  | some stated =>
      refine .bind .require fun _ => .bind (ownMint_local (hchecked stated rfl)) fun _ => ?_
      exact .require

omit [Runtime Pubkey] in
/-- A burn writes the supply and one account. -/
theorem burn_local {source mint authority : Pubkey} (amount : ℕ) (hsub : W ⊆ R)
    (hsource : source ∈ W) (hmint : mint ∈ W) :
    (p.burn signers source mint authority amount).Local Ledger.view R W := by
  refine .bind (ownAccount_local (hsub hsource)) fun account => ?_
  refine .bind (ownMint_local (hsub hmint)) fun record => ?_
  refine .bind .require fun _ => .bind .require fun _ => .bind .require fun _ =>
    .bind .require fun _ => .bind .require fun _ => .modify ?_
  exact (Ledger.put_local hsub hmint _).comp (Ledger.put_local hsub hsource _)

/-- A call of a token program keeps to its accounts. -/
theorem TokenInstruction.execute_local (ctx : Context Pubkey)
    (instruction : TokenInstruction Pubkey) :
    (instruction.execute ctx p).Local Ledger.view (instruction.accounts p)
      (instruction.writable p) := by
  have hsub : instruction.writable p ⊆ instruction.accounts p :=
    Action.writable_subset (.token p instruction)
  cases instruction with
  | initializeMint payer mint decimals mintAuthority freezeAuthority =>
      refine .bind .require fun _ => ?_
      exact createAccount_local _ _ _ hsub (by simp [writable]) (by simp [writable])
  | initializeAccount payer account mint owner =>
      refine .bind .require fun _ => .bind (ownMint_local (by simp [accounts])) fun _ => ?_
      exact createAccount_local _ _ _ hsub (by simp [writable]) (by simp [writable])
  | createAssociated payer owner mint =>
      refine .bind (ownMint_local (by simp [accounts])) fun _ => ?_
      exact createAccount_local _ _ _ hsub (by simp [writable]) (by simp [writable])
  | mintTo mint destination authority amount =>
      exact mintTo_local _ amount hsub (by simp [writable]) (by simp [writable])
  | transfer source destination authority amount checked =>
      refine transfer_local _ amount hsub ?_ ?_ ?_
      · simp [writable]
      · simp [writable]
      · rintro ⟨mint, decimals⟩ rfl
        simp [accounts]
  | burn source mint authority amount =>
      exact burn_local _ amount hsub (by simp [writable]) (by simp [writable])
  | setFrozen account mint authority isFrozen =>
      refine .bind (ownAccount_local (by simp [accounts])) fun _ => .bind .require fun _ =>
        .bind .require fun _ => .bind (ownMint_local (by simp [accounts])) fun _ => ?_
      refine .bind .require fun _ => .bind .require fun _ => .modify ?_
      exact Ledger.put_local hsub (by simp [writable]) _

end

/-! ## The instructions -/

section

variable (ctx : Context Pubkey)

theorem Initialize.tryAccounts_local (accs : Initialize Pubkey) :
    (accs.tryAccounts ctx).Local Ledger.view accs.accounts accs.writable := by
  refine .bind .require fun _ => .bind .require fun _ => ?_
  exact createAccount_local _ _ _ (fun _ h => h) (by simp [writable]) (by simp [writable])

omit [Runtime Pubkey] in
theorem Initialize.process_local (accs : Initialize Pubkey) (params : InitializeParams) :
    (accs.process params).Local Ledger.view accs.accounts accs.writable := by
  refine .bind .require fun _ => .bind ?_ fun _ => .pure
  exact onRecord_local _ _ _ (fun _ h => h) (by simp [writable])

theorem RegisterAsset.tryAccounts_local (accs : RegisterAsset Pubkey) :
    (accs.tryAccounts ctx).Local Ledger.view accs.accounts accs.writable := by
  have hsub : accs.writable ⊆ accs.accounts := by simp [writable, accounts]
  refine .bind (load_local _ _ (by simp [accounts])) fun _ => ?_
  refine .bind .require fun _ => .bind .require fun _ => .bind ?_ fun _ => .require
  exact createAccount_local _ _ _ hsub (by simp [writable]) (by simp [writable])

theorem RegisterAsset.process_local (accs : RegisterAsset Pubkey) (args : RegisterAssetArgs) :
    (accs.process ctx args).Local Ledger.view accs.accounts accs.writable := by
  have hsub : accs.writable ⊆ accs.accounts := by simp [writable, accounts]
  have hconfig : accs.globalConfig ∈ accs.writable := by simp [writable]
  have hasset : accs.asset ∈ accs.writable := by simp [writable]
  have howner : accs.owner ∈ accs.writable := by simp [writable]
  refine .bind (by simp [validateName, validateText]) fun _ => ?_
  refine .bind (by simp [validateSymbol, validateText]) fun _ => ?_
  refine .bind .require fun _ => ?_
  refine .bind (by simp [validateUri, validateText]) fun _ => ?_
  refine .bind .require fun _ => .bind (load_local _ _ (hsub hconfig)) fun config => ?_
  refine .get_bind (fun l => .bind .require fun _ => ?_) fun h => ?_
  · refine .bind (systemTransfer_local _ _ hsub howner hconfig) fun _ => ?_
    refine .bind (onRecord_local _ _ _ hsub hasset) fun _ => ?_
    exact .bind (onRecord_local _ _ _ hsub hconfig) fun _ => .pure
  · rw [Ledger.lamports_of_sameAt h (hsub howner)]

/-- The three new accounts are writable, and so is the owner who pays for them. -/
theorem TokenizeAsset.tryAccounts_local (accs : TokenizeAsset Pubkey) :
    (accs.tryAccounts ctx).Local Ledger.view accs.accounts accs.writable := by
  have hsub : accs.writable ⊆ accs.accounts := fun _ h => h
  refine .bind (load_local _ _ (by simp [accounts])) fun _ => ?_
  refine .bind (load_local _ _ (by simp [accounts])) fun asset => .bind .require fun _ => ?_
  refine .bind (.bind .require fun _ => ?_) fun _ => .bind (.bind .require fun _ => ?_) fun _ =>
    .bind ?_ fun _ => .bind .require fun _ => .bind .require fun _ => .bind .require fun _ => .require
  · exact createAccount_local _ _ _ hsub (by simp [writable]) (by simp [writable])
  · exact createAccount_local _ _ _ hsub (by simp [writable]) (by simp [writable])
  · refine .require_bind fun hata => .bind (ownMint_local (by simp [accounts])) fun _ => ?_
    rw [← hata]
    exact createAccount_local _ _ _ hsub (by simp [writable]) (by simp [writable])

theorem TokenizeAsset.process_local (accs : TokenizeAsset Pubkey) (totalSupply : ℕ) :
    (accs.process ctx totalSupply).Local Ledger.view accs.accounts accs.writable := by
  have hsub : accs.writable ⊆ accs.accounts := fun _ h => h
  have hconfig : accs.globalConfig ∈ accs.writable := by simp [writable]
  have hasset : accs.asset ∈ accs.writable := by simp [writable]
  have howner : accs.owner ∈ accs.writable := by simp [writable]
  refine .bind .require fun _ => .bind (load_local _ _ (hsub hconfig)) fun config => ?_
  refine .get_bind (fun l => .bind .require fun _ => ?_) fun h => ?_
  · refine .bind (systemTransfer_local _ _ hsub howner hconfig) fun _ => ?_
    refine .bind (onRecord_local _ _ _ hsub (by simp [writable])) fun _ => ?_
    refine .bind (mintTo_local _ _ hsub (by simp [writable]) (by simp [writable])) fun _ => ?_
    refine .bind (onRecord_local _ _ _ hsub hasset) fun _ => ?_
    exact .bind (onRecord_local _ _ _ hsub hconfig) fun _ => .pure
  · rw [Ledger.lamports_of_sameAt h (hsub howner)]

theorem TransferOwnership.tryAccounts_local (accs : TransferOwnership Pubkey) :
    (accs.tryAccounts ctx).Local Ledger.view accs.accounts accs.writable := by
  refine .bind (load_local _ _ (by simp [accounts])) fun asset => .bind .require fun _ => ?_
  refine .bind (load_local _ _ (by simp [accounts])) fun src => ?_
  refine .bind (load_local _ _ (by simp [accounts])) fun dst => ?_
  refine .bind (load_local _ _ (by simp [accounts])) fun _ => ?_
  refine .bind .require fun _ => .bind .require fun _ => .bind .require fun _ => ?_
  refine .bind .require fun _ => .bind .require fun _ => .bind .require fun _ => ?_
  exact .bind .require fun _ => .require

theorem TransferOwnership.process_local (accs : TransferOwnership Pubkey) (amount : ℕ) :
    (accs.process ctx amount).Local Ledger.view accs.accounts accs.writable := by
  have hsub : accs.writable ⊆ accs.accounts := by simp [writable, accounts]
  have hmint : accs.mint ∈ accs.accounts := by simp [accounts]
  refine .bind .require fun _ => .bind (load_local _ _ hmint) fun mint => .bind ?_ fun _ => .pure
  refine transfer_local _ amount hsub (by simp [writable]) (by simp [writable]) ?_
  rintro stated ⟨⟩
  exact hmint

/-- One record is read and written back. -/
theorem UpdateAssetMetadata.execute_local (accs : UpdateAssetMetadata Pubkey)
    (args : UpdateAssetMetadataArgs) :
    (do accs.tryAccounts ctx; accs.process ctx args : ProgramM Pubkey (Option (Event Pubkey))).Local
      Ledger.view accs.accounts accs.writable := by
  have hsub : accs.writable ⊆ accs.accounts := by simp [writable, accounts]
  have hasset : accs.asset ∈ accs.writable := by simp [writable]
  have hvalidate : ∀ (validate : String → ProgramM Pubkey Unit) (text : Option String),
      (∀ t, (validate t).Local Ledger.view accs.accounts accs.writable) →
        (validateIfProvided validate text).Local Ledger.view accs.accounts accs.writable := by
    intro validate text h
    cases text with
    | none => exact .pure
    | some t => exact h t
  refine .bind ?_ fun _ => ?_
  · refine .bind (load_local _ _ (hsub hasset)) fun asset => .bind .require fun _ => ?_
    exact .bind .require fun _ => .require
  · refine .bind (hvalidate _ _ fun t => .bind .require fun _ => .require) fun _ => ?_
    refine .bind (hvalidate _ _ fun t => .require) fun _ => ?_
    refine .bind (hvalidate _ _ fun t => .bind .require fun _ => .require) fun _ => ?_
    exact .bind (onRecord_local _ _ _ hsub hasset) fun _ => .pure

/-- One record is read. -/
theorem VerifyOwnership.execute_local (accs : VerifyOwnership Pubkey) :
    (do accs.tryAccounts; accs.process ctx : ProgramM Pubkey (Option (Event Pubkey))).Local
      Ledger.view accs.accounts accs.writable := by
  refine .bind (.bind (load_local _ _ (by simp [accounts])) fun asset => ?_) fun _ => .pure
  exact .bind .require fun _ => .require

theorem RedeemAsset.tryAccounts_local (accs : RedeemAsset Pubkey) :
    (accs.tryAccounts ctx).Local Ledger.view accs.accounts accs.writable := by
  refine .bind (load_local _ _ (by simp [accounts])) fun asset => ?_
  refine .bind (load_local _ _ (by simp [accounts])) fun tokenization => .bind .require fun _ => ?_
  refine .bind (load_local _ _ (by simp [accounts])) fun account => ?_
  refine .bind (load_local _ _ (by simp [accounts])) fun _ => ?_
  refine .bind .require fun _ => .bind .require fun _ => .bind .require fun _ => ?_
  refine .bind .require fun _ => .bind .require fun _ => .bind .require fun _ => ?_
  exact .require

theorem RedeemAsset.process_local (accs : RedeemAsset Pubkey) (amount : ℕ) :
    (accs.process ctx amount).Local Ledger.view accs.accounts accs.writable := by
  have hsub : accs.writable ⊆ accs.accounts := by simp [writable, accounts]
  refine .bind .require fun _ => .bind ?_ fun _ => .pure
  exact burn_local _ amount hsub (by simp [writable]) (by simp [writable])

/-- One record is read and written back, after the old status was judged. -/
theorem SetAssetStatus.execute_local (accs : SetAssetStatus Pubkey) (status : AssetStatus) :
    (do accs.tryAccounts ctx; accs.process status : ProgramM Pubkey (Option (Event Pubkey))).Local
      Ledger.view accs.accounts accs.writable := by
  have hsub : accs.writable ⊆ accs.accounts := by simp [writable, accounts]
  have hasset : accs.asset ∈ accs.writable := by simp [writable]
  refine .bind ?_ fun _ => .bind (load_local _ _ (hsub hasset)) fun asset => ?_
  · refine .bind (load_local _ _ (hsub hasset)) fun asset => .bind .require fun _ => ?_
    exact .bind .require fun _ => .require
  · refine .bind ?_ fun _ => .bind (onRecord_local _ _ _ hsub hasset) fun _ => .pure
    cases asset.status with
    | liquidated => exact .throw
    | redeemed => exact .throw
    | _ => exact .pure

/-- An action keeps to the accounts it names. -/
theorem Action.execute_local (action : Action Pubkey) :
    (action.execute ctx).Local Ledger.view action.accounts action.writable := by
  cases action with
  | program instruction =>
      cases instruction with
      | initializeConfig accs params =>
          exact .bind (accs.tryAccounts_local ctx) fun _ => accs.process_local params
      | registerAsset accs args =>
          exact .bind (accs.tryAccounts_local ctx) fun _ => accs.process_local ctx args
      | tokenizeAsset accs totalSupply =>
          exact .bind (accs.tryAccounts_local ctx) fun _ => accs.process_local ctx totalSupply
      | transferOwnership accs amount =>
          exact .bind (accs.tryAccounts_local ctx) fun _ => accs.process_local ctx amount
      | updateAssetMetadata accs args => exact accs.execute_local ctx args
      | verifyOwnership accs => exact accs.execute_local ctx
      | redeemAsset accs amount =>
          exact .bind (accs.tryAccounts_local ctx) fun _ => accs.process_local ctx amount
      | setAssetStatus accs status => exact accs.execute_local ctx status
  | token p instruction => exact .bind (instruction.execute_local ctx) fun _ => .pure
  | systemTransfer source destination amount =>
      refine .bind ?_ fun _ => .pure
      exact systemTransfer_local _ _ (fun _ h => h) (by simp [writable]) (by simp [writable])

end

/-! ## Schedules -/

/-- A transaction that fails is rolled back, so only its answer differs from the run. -/
theorem transact_eq_settle (ledger : Ledger Pubkey) (tx : Transaction Pubkey) :
    transact ledger tx =
      match (tx.action.execute tx.ctx).settle ledger with
      | (.ok event, after) => (after, .ok event)
      | (.error e, _) => (ledger, .error e) := by
  rw [transact, settle]
  cases (tx.action.execute tx.ctx).run ledger <;> rfl

/-- A transaction changes nothing that it does not name as writable, and how it ends
depends on the accounts it names. -/
theorem programMachine_footprint :
    (programMachine : Machine (Ledger Pubkey) _ _).Footprint Ledger.view (·.action.accounts)
      (·.action.writable) where
  subset tx := tx.action.writable_subset
  frame ledger tx k hk := by
    have hframe := (tx.action.execute_local tx.ctx).frame ledger k hk
    change (transact ledger tx).1.view k = ledger.view k
    rw [transact_eq_settle]
    generalize (tx.action.execute tx.ctx).settle ledger = r at hframe
    obtain ⟨e | event, after⟩ := r
    · rfl
    · exact hframe
  output tx l l' h := by
    have hcongr := ((tx.action.execute_local tx.ctx).congr h).1
    change (transact l tx).2 = (transact l' tx).2
    rw [transact_eq_settle, transact_eq_settle]
    generalize (tx.action.execute tx.ctx).settle l = r,
      (tx.action.execute tx.ctx).settle l' = r' at hcongr
    obtain ⟨e | event, after⟩ := r <;> obtain ⟨e' | event', after'⟩ := r' <;> cases hcongr <;> rfl
  effect tx l l' h := by
    obtain ⟨hanswer, hsame⟩ := (tx.action.execute_local tx.ctx).congr h
    change SameAt Ledger.view _ (transact l tx).1 (transact l' tx).1
    rw [transact_eq_settle, transact_eq_settle]
    generalize (tx.action.execute tx.ctx).settle l = r,
      (tx.action.execute tx.ctx).settle l' = r' at hanswer hsame
    obtain ⟨e | event, after⟩ := r <;> obtain ⟨e' | event', after'⟩ := r' <;> cases hanswer
    · exact h
    · exact hsame

/-- One of the transactions names an account that the other names as writable. -/
def Transaction.Conflict (tx tx' : Transaction Pubkey) : Prop :=
  (∃ key ∈ tx.action.writable, key ∈ tx'.action.accounts) ∨
    ∃ key ∈ tx'.action.writable, key ∈ tx.action.accounts

instance (tx tx' : Transaction Pubkey) : Decidable (tx.Conflict tx') :=
  inferInstanceAs (Decidable (_ ∨ _))

omit [DecidableEq Pubkey] in
/-- Without a conflict, neither transaction writes what the other names. -/
theorem Transaction.not_conflict {tx tx' : Transaction Pubkey} :
    ¬ tx.Conflict tx' ↔
      Machine.Independent (·.action.accounts) (·.action.writable) tx tx' := by
  rw [Conflict, Machine.Independent, not_or]
  push Not
  rfl

/-- What a transaction does not name as writable it leaves alone, whether it succeeds or
not, and two ledgers that agree on the accounts it names give the same answer and agree
on these accounts afterwards.  The transactions are the eight instructions and the token
and system instructions of `Action`. -/
theorem transact_locality (ledger ledger' : Ledger Pubkey) (tx : Transaction Pubkey) :
    (∀ key, key ∉ tx.action.writable → (transact ledger tx).1.view key = ledger.view key) ∧
      ((∀ key ∈ tx.action.accounts, ledger.view key = ledger'.view key) →
        (transact ledger tx).2 = (transact ledger' tx).2 ∧
          ∀ key ∈ tx.action.accounts,
            (transact ledger tx).1.view key = (transact ledger' tx).1.view key) :=
  ⟨programMachine_footprint.frame ledger tx, fun h =>
    ⟨programMachine_footprint.output tx h, programMachine_footprint.effect tx h⟩⟩

theorem transact_locality_house :
    (transact (Address.tokenizedHouse.pay (.key 30) (.key 31) 5)
      (Address.setHouseStatus .frozen)).2 =
        (transact Address.tokenizedHouse (Address.setHouseStatus .frozen)).2 :=
  ((transact_locality _ _ _).2 (by decide)).1

/-- Two schedules of the same transactions that order all conflicts alike: every transaction
gets the same answer in both, and the ledgers show the same in the end. -/
theorem schedules_agree {ι : Type} {txs : ι → Transaction Pubkey} {order order' : List ι}
    (hnodup : order.Nodup) (hperm : order.Perm order')
    (hconflicts : ∀ i j, (txs i).Conflict (txs j) → [i, j].Sublist order → [i, j].Sublist order')
    (ledger : Ledger Pubkey) :
    ((programMachine.relabel txs).answers ledger order).Perm
        ((programMachine.relabel txs).answers ledger order') ∧
      (programMachine.run ledger (order.map txs)).view =
        (programMachine.run ledger (order'.map txs)).view := by
  have hreorder : Reorder (Machine.Independent (fun i => (txs i).action.accounts)
      fun i => (txs i).action.writable) order order' := by
    refine .of_order hnodup hperm fun i j hdep => hconflicts i j ?_
    by_contra hfree
    exact hdep (Transaction.not_conflict.mp hfree)
  obtain ⟨hanswers, hview⟩ := (programMachine_footprint.relabel txs).run_reorder hreorder ledger
  rw [Machine.run_relabel, Machine.run_relabel] at hview
  exact ⟨hanswers.perm, hview⟩

/-- Two changes of the sample asset, and a transfer of lamports between others. -/
def Address.houseSchedule : Fin 3 → Transaction Address
  | 0 => setHouseStatus .frozen
  | 1 => ⟨signedBy [30], .systemTransfer (key 30) (key 31) 5⟩
  | 2 => setHouseStatus .liquidated

theorem schedules_agree_house :
    (programMachine.run Address.tokenizedHouse ([0, 1, 2].map Address.houseSchedule)).view =
      (programMachine.run Address.tokenizedHouse ([1, 0, 2].map Address.houseSchedule)).view :=
  (schedules_agree (by decide) (by decide) (by decide) _).2

end RwaTokenization
