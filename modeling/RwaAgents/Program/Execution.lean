import RwaAgents.Library.Machine
import RwaAgents.Program.Instructions

/-!
# Transactions and runs

A transaction is one instruction of the program, one direct call of a token
program or one lamport transfer, with the context it runs in.  A transaction
that fails leaves the ledger as it was (`transact`).

A run starts from a ledger without accounts.  Who holds how many lamports at the
start is left open.
-/

namespace RwaTokenization

/-- An instruction of the program, with its accounts and arguments. -/
inductive Instruction (Pubkey : Type)
  | initializeConfig (accs : Initialize Pubkey) (params : InitializeParams)
  | registerAsset (accs : RegisterAsset Pubkey) (args : RegisterAssetArgs)
  | tokenizeAsset (accs : TokenizeAsset Pubkey) (totalSupply : ℕ)
  | transferOwnership (accs : TransferOwnership Pubkey) (amount : ℕ)
  | updateAssetMetadata (accs : UpdateAssetMetadata Pubkey) (args : UpdateAssetMetadataArgs)
  | verifyOwnership (accs : VerifyOwnership Pubkey)
  | redeemAsset (accs : RedeemAsset Pubkey) (amount : ℕ)
  | setAssetStatus (accs : SetAssetStatus Pubkey) (status : AssetStatus)

/-- A call of a token program from outside the program.  These are the calls that create
mints and accounts, move units or freeze.  Delegates, changes of an authority and closing
are left out. -/
inductive TokenInstruction (Pubkey : Type)
  | initializeMint (payer mint : Pubkey) (decimals : ℕ) (mintAuthority : Pubkey)
      (freezeAuthority : Option Pubkey)
  | initializeAccount (payer account mint owner : Pubkey)
  | createAssociated (payer owner mint : Pubkey)
  | mintTo (mint destination authority : Pubkey) (amount : ℕ)
  | transfer (source destination authority : Pubkey) (amount : ℕ) (checked : Option (Pubkey × ℕ))
  | burn (source mint authority : Pubkey) (amount : ℕ)
  | setFrozen (account mint authority : Pubkey) (isFrozen : Bool)

inductive Action (Pubkey : Type)
  | program (instruction : Instruction Pubkey)
  | token (tokenProgram : TokenProgram) (instruction : TokenInstruction Pubkey)
  | systemTransfer (source destination : Pubkey) (amount : ℕ)

variable {Pubkey : Type} [DecidableEq Pubkey] [Runtime Pubkey]

def Instruction.execute (ctx : Context Pubkey) :
    Instruction Pubkey → ProgramM Pubkey (Option (Event Pubkey))
  | initializeConfig accs params => do accs.tryAccounts ctx; accs.process params
  | registerAsset accs args => do accs.tryAccounts ctx; accs.process ctx args
  | tokenizeAsset accs totalSupply => do accs.tryAccounts ctx; accs.process ctx totalSupply
  | transferOwnership accs amount => do accs.tryAccounts ctx; accs.process ctx amount
  | updateAssetMetadata accs args => do accs.tryAccounts ctx; accs.process ctx args
  | verifyOwnership accs => do accs.tryAccounts; accs.process ctx
  | redeemAsset accs amount => do accs.tryAccounts ctx; accs.process ctx amount
  | setAssetStatus accs status => do accs.tryAccounts ctx; accs.process status

def TokenInstruction.execute (ctx : Context Pubkey) (p : TokenProgram) :
    TokenInstruction Pubkey → ProgramM Pubkey Unit
  | initializeMint payer mint decimals mintAuthority freezeAuthority =>
      p.initializeMint ctx.signers payer mint decimals mintAuthority freezeAuthority
  | initializeAccount payer account mint owner =>
      p.initializeAccount ctx.signers payer account mint owner
  | createAssociated payer owner mint => p.createAssociated ctx.signers payer owner mint
  | mintTo mint destination authority amount =>
      p.mintTo ctx.signers mint destination authority amount
  | transfer source destination authority amount checked =>
      p.transfer ctx.signers source destination authority amount checked
  | burn source mint authority amount => p.burn ctx.signers source mint authority amount
  | setFrozen account mint authority isFrozen =>
      p.setFrozen ctx.signers account mint authority isFrozen

def Action.execute (ctx : Context Pubkey) :
    Action Pubkey → ProgramM Pubkey (Option (Event Pubkey))
  | program instruction => instruction.execute ctx
  | token p instruction => do instruction.execute ctx p; return none
  | systemTransfer source destination amount => do
      RwaTokenization.systemTransfer ctx.signers source destination amount; return none

structure Transaction (Pubkey : Type) [Runtime Pubkey] where
  ctx : Context Pubkey
  action : Action Pubkey

/-- What a transaction answers: the event it emitted, if any, or why it failed. -/
abbrev Answer (Pubkey : Type) := Except ProgramError (Option (Event Pubkey))

/-- Run a transaction.  One that fails is rolled back. -/
def transact (ledger : Ledger Pubkey) (tx : Transaction Pubkey) : Ledger Pubkey × Answer Pubkey :=
  match (tx.action.execute tx.ctx).run ledger with
  | .ok event after => (after, .ok event)
  | .error e _ => (ledger, .error e)

/-- A call of a token program emits nothing. -/
theorem Action.token_ok {ctx : Context Pubkey} {p : TokenProgram}
    {instruction : TokenInstruction Pubkey} {ledger after : Ledger Pubkey}
    {event : Option (Event Pubkey)} :
    ((Action.token p instruction).execute ctx).run ledger = .ok event after ↔
      event = none ∧ (instruction.execute ctx p).run ledger = .ok () after := by
  rw [execute, EStateM.bind_ok]
  constructor
  · intro h
    obtain ⟨_, _, hrun, hreturn⟩ := h
    obtain ⟨rfl, rfl⟩ := EStateM.pure_ok.mp hreturn
    exact ⟨rfl, hrun⟩
  · intro h
    obtain ⟨rfl, hrun⟩ := h
    exact ⟨(), after, hrun, EStateM.pure_ok.mpr ⟨rfl, rfl⟩⟩

/-- A transfer of lamports emits nothing, and its source is no account of a program. -/
theorem Action.systemTransfer_ok {ctx : Context Pubkey} {source destination : Pubkey} {amount : ℕ}
    {ledger after : Ledger Pubkey} {event : Option (Event Pubkey)} :
    ((Action.systemTransfer source destination amount).execute ctx).run ledger = .ok event after ↔
      event = none ∧ source ∈ ctx.signers ∧ ledger.data? source = none ∧
        amount ≤ ledger.lamports source ∧ after = ledger.pay source destination amount := by
  rw [execute, systemTransfer_bind_ok, EStateM.pure_ok]
  constructor
  · intro h
    obtain ⟨⟨hsigned, hdata, hfunds⟩, rfl, rfl⟩ := h
    exact ⟨rfl, hsigned, hdata, hfunds, rfl⟩
  · intro h
    obtain ⟨rfl, hsigned, hdata, hfunds, rfl⟩ := h
    exact ⟨⟨hsigned, hdata, hfunds⟩, rfl, rfl⟩

theorem transact_of_ok {ledger after : Ledger Pubkey} {ctx : Context Pubkey}
    {action : Action Pubkey} {event : Option (Event Pubkey)}
    (h : (action.execute ctx).run ledger = .ok event after) :
    transact ledger ⟨ctx, action⟩ = (after, .ok event) := by
  rw [transact, h]

/-- The runs of the program. -/
def programMachine : Machine (Ledger Pubkey) (Transaction Pubkey) (Answer Pubkey) :=
  ⟨fun ledger => ledger.accounts = .empty, transact⟩

/-- The ledgers a run reaches. -/
abbrev Reachable (ledger : Ledger Pubkey) : Prop := programMachine.Reachable ledger

abbrev ProgramStep (Pubkey : Type) [Runtime Pubkey] :=
  Machine.Step (Ledger Pubkey) (Transaction Pubkey) (Answer Pubkey)

/-- A transaction succeeds, or it changes nothing. -/
theorem transact_cases (ledger : Ledger Pubkey) (tx : Transaction Pubkey) :
    (∃ event after, (tx.action.execute tx.ctx).run ledger = .ok event after ∧
        transact ledger tx = (after, .ok event)) ∨
      ∃ e, transact ledger tx = (ledger, .error e) := by
  rw [transact]
  cases (tx.action.execute tx.ctx).run ledger with
  | ok event after => exact .inl ⟨event, after, rfl, rfl⟩
  | error e after => exact .inr ⟨e, rfl⟩

/-- A transaction that fails leaves the ledger as it was. -/
theorem next_of_error {ledger : Ledger Pubkey} {tx : Transaction Pubkey} {e : ProgramError}
    (h : transact ledger tx = (ledger, .error e)) : programMachine.next ledger tx = ledger :=
  congrArg Prod.fst h

theorem output_of_error {ledger : Ledger Pubkey} {tx : Transaction Pubkey} {e : ProgramError}
    (h : transact ledger tx = (ledger, .error e)) : programMachine.output ledger tx = .error e :=
  congrArg Prod.snd h

/-! ## Symbolic addresses -/

/-- Addresses as terms: keys with a holder, and derived addresses. -/
inductive Address
  | key (n : ℕ)
  | pda (literal : String)
  | pdaOf (literal : String) (seed : Address)
  | associated (owner : Address) (tokenProgram : TokenProgram) (mint : Address)
deriving DecidableEq, Repr

namespace Address

def findProgramAddress : Seeds Address → Address
  | ⟨literal, none⟩ => pda literal
  | ⟨literal, some seed⟩ => pdaOf literal seed

instance : Runtime Address where
  zero := key 0
  findProgramAddress := findProgramAddress
  findProgramAddress_injective := by
    rintro ⟨s, _ | a⟩ ⟨t, _ | b⟩ - - h
    all_goals simp_all [findProgramAddress]
  associatedTokenAddress := associated
  minimumBalance space := (128 + space) * 6960

/-- A context in which holders of keys sign. -/
def signedBy (holders : List ℕ) (unixTimestamp : ℤ := 0) : Context Address where
  signers := holders.map key
  unixTimestamp
  signers_external := by
    rintro ⟨literal, _ | seed⟩ h
    all_goals
      obtain ⟨n, -, hn⟩ := List.mem_map.mp h
      cases hn

/-- No accounts, and lamports enough for everyone. -/
def genesis : Ledger Address := ⟨fun _ => 10 ^ 12, .empty⟩

/-! ### A sample asset -/

def houseId : Address := key 50

def house : Address := assetPda houseId

def houseMint : Address := key 20

/-- The associated account of a holder of the sample asset. -/
def houseAccount (holder : ℕ) : Address := associated (key holder) .token houseMint

/-- A transaction of the program signed by some holders. -/
def program (holders : List ℕ) (instruction : Instruction Address) : Transaction Address :=
  ⟨signedBy holders, .program instruction⟩

def registerHouse : List (Transaction Address) :=
  [program [9] (.initializeConfig ⟨globalConfigPda, key 9⟩ ⟨1000, 2000, 100⟩),
    program [10] (.registerAsset ⟨globalConfigPda, houseId, house, key 10⟩
      ⟨.realEstate, "House", "HSE", "", "uri", 5⟩)]

def tokenizeHouse : Transaction Address :=
  program [10, 20] (.tokenizeAsset ⟨globalConfigPda, house, houseMint, tokenizationPda house,
    houseAccount 10, key 10, .token⟩ 100)

def setHouseStatus (status : AssetStatus) : Transaction Address :=
  program [10] (.setAssetStatus ⟨house, key 10⟩ status)

/-- A direct call of the token program signed by some holders. -/
def token (holders : List ℕ) (instruction : TokenInstruction Address) : Transaction Address :=
  ⟨signedBy holders, .token .token instruction⟩

/-- A token account for another holder of the sample asset. -/
def openHouseAccount (holder : ℕ) : Transaction Address :=
  token [10] (.createAssociated (key 10) (key holder) houseMint)

def redeemHouse (amount : ℕ) : Transaction Address :=
  program [10] (.redeemAsset ⟨house, tokenizationPda house, key 10, houseAccount 10, houseMint,
    .token⟩ amount)

def tokenizedHouse : Ledger Address :=
  programMachine.run genesis (registerHouse ++ [tokenizeHouse])

/-- The record of the sample asset once tokenized. -/
def houseAsset : RwaAsset Address :=
  ⟨houseId, key 10, .realEstate, .active, "House", "HSE", "", "uri", 5, 0, some 0, some houseMint,
    true⟩

theorem tokenizedHouse_rwaAsset? : tokenizedHouse.rwaAsset? house = some houseAsset := by decide

theorem reachable_genesis : Reachable genesis := .start rfl

theorem reachable_run_genesis (txs : List (Transaction Address)) :
    Reachable (programMachine.run genesis txs) :=
  reachable_genesis.run txs

end Address

end RwaTokenization
