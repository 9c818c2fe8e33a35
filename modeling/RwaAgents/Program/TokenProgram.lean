import RwaAgents.Program.Ledger

/-!
# The two token programs

What the program relies on of SPL Token and Token-2022, for mints without
extensions.  The two run the same code.  Their code is not part of the
repository, and these are the documented laws the definitions write down.

* A token program reads and writes only accounts that it owns.
* A mint is created with the authorities it is given and no supply, and an
  account with no units, each at an address that signs or, for an associated
  account, at the derived one.
* Only the mint authority mints.  Only the freeze authority freezes or thaws,
  and where there is none nobody does.
* A transfer and a burn need the signature of the owner of the account, the
  units, and accounts of one mint that are not frozen.
* A mint adds its units to the account and to the supply, a transfer moves them
  and a burn takes them from both.  No amount leaves the range of a `u64`.

`mintTo`, `transfer` and `burn` are the only ways units come into being, move
and cease.  Each has a lemma that says when it succeeds and what it leaves.

The model ends there.  A delegate is never set, so the authority over a token
account is its owner, and an owner is one key and not a multisig account.  No
account is closed.  Nobody burns from an account of the system program or of the
incinerator without a signature, as the programs on the chain allow.
-/

namespace RwaTokenization

open EStateM

variable {Pubkey : Type} [DecidableEq Pubkey]

def mintSize : ℕ := 82

def tokenAccountSize : ℕ := 165

/-- Token-2022 adds an extension to an associated account. -/
def associatedAccountSize : TokenProgram → ℕ
  | .token => tokenAccountSize
  | .token2022 => tokenAccountSize + 5

namespace TokenProgram

variable (p : TokenProgram)

/-- A mint of the token program. -/
def ownMint (key : Pubkey) : ProgramM Pubkey (Mint Pubkey) := do
  let mint ← orThrow ((← get).mint? key) (.token .invalidState)
  require (mint.program = p) (.token .incorrectProgramId)
  return mint

/-- A token account of the token program. -/
def ownAccount (key : Pubkey) : ProgramM Pubkey (TokenAccount Pubkey) := do
  let account ← orThrow ((← get).tokenAccount? key) (.token .invalidState)
  require (account.program = p) (.token .incorrectProgramId)
  return account

/-- `initializeMint2` on an account created for it.  The new account signs. -/
def initializeMint [Runtime Pubkey] (signers : List Pubkey) (payer mint : Pubkey) (decimals : ℕ)
    (mintAuthority : Pubkey) (freezeAuthority : Option Pubkey) : ProgramM Pubkey Unit := do
  require (mint ∈ signers) (.system .missingSignature)
  createAccount signers payer mint mintSize
    (.mint ⟨p, some mintAuthority, 0, decimals, freezeAuthority⟩)

/-- `initializeAccount3` on an account created for it.  The new account signs. -/
def initializeAccount [Runtime Pubkey] (signers : List Pubkey) (payer account mint owner : Pubkey) :
    ProgramM Pubkey Unit := do
  require (account ∈ signers) (.system .missingSignature)
  let _ ← p.ownMint mint
  createAccount signers payer account tokenAccountSize (.tokenAccount ⟨p, mint, owner, 0, false⟩)

/-- `create` of the associated token program. -/
def createAssociated [Runtime Pubkey] (signers : List Pubkey) (payer owner mint : Pubkey) :
    ProgramM Pubkey Unit := do
  let _ ← p.ownMint mint
  createAccount signers payer (Runtime.associatedTokenAddress owner p mint)
    (associatedAccountSize p) (.tokenAccount ⟨p, mint, owner, 0, false⟩)

def mintTo (signers : List Pubkey) (mint destination authority : Pubkey) (amount : ℕ) :
    ProgramM Pubkey Unit := do
  let account ← p.ownAccount destination
  require (account.isFrozen = false) (.token .accountFrozen)
  require (account.mint = mint) (.token .mintMismatch)
  let record ← p.ownMint mint
  require (record.mintAuthority = some authority ∧ authority ∈ signers) (.token .ownerMismatch)
  require (account.amount + amount < u64Bound) (.token .overflow)
  require (record.supply + amount < u64Bound) (.token .overflow)
  modify fun ledger =>
    (ledger.setAmount destination account (account.amount + amount)).setSupply mint record
      (record.supply + amount)

/-- The mint and the decimals a checked transfer states. -/
def checkMint (account : TokenAccount Pubkey) : Option (Pubkey × ℕ) → ProgramM Pubkey Unit
  | none => pure ()
  | some (mint, decimals) => do
      require (account.mint = mint) (.token .mintMismatch)
      let record ← p.ownMint mint
      require (record.decimals = decimals) (.token .mintDecimalsMismatch)

/-- A transfer to the same account is checked and moves nothing. -/
def moveUnits (source destination : Pubkey) (sourceAccount destinationAccount : TokenAccount Pubkey)
    (amount : ℕ) : ProgramM Pubkey Unit :=
  if source = destination then pure () else do
    require (destinationAccount.amount + amount < u64Bound) (.token .overflow)
    modify fun ledger =>
      (ledger.setAmount source sourceAccount (sourceAccount.amount - amount)).setAmount
        destination destinationAccount (destinationAccount.amount + amount)

/-- `transfer`, and `transfer_checked` when a mint and decimals are stated. -/
def transfer (signers : List Pubkey) (source destination authority : Pubkey) (amount : ℕ)
    (checked : Option (Pubkey × ℕ)) : ProgramM Pubkey Unit := do
  let sourceAccount ← p.ownAccount source
  let destinationAccount ← p.ownAccount destination
  require (sourceAccount.isFrozen = false ∧ destinationAccount.isFrozen = false)
    (.token .accountFrozen)
  require (amount ≤ sourceAccount.amount) (.token .insufficientFunds)
  require (sourceAccount.mint = destinationAccount.mint) (.token .mintMismatch)
  p.checkMint sourceAccount checked
  require (sourceAccount.owner = authority ∧ authority ∈ signers) (.token .ownerMismatch)
  moveUnits source destination sourceAccount destinationAccount amount

def burn (signers : List Pubkey) (source mint authority : Pubkey) (amount : ℕ) :
    ProgramM Pubkey Unit := do
  let account ← p.ownAccount source
  let record ← p.ownMint mint
  require (account.isFrozen = false) (.token .accountFrozen)
  require (amount ≤ account.amount) (.token .insufficientFunds)
  require (account.mint = mint) (.token .mintMismatch)
  require (account.owner = authority ∧ authority ∈ signers) (.token .ownerMismatch)
  require (amount ≤ record.supply) (.token .overflow)
  modify fun ledger =>
    (ledger.setAmount source account (account.amount - amount)).setSupply mint record
      (record.supply - amount)

/-- `freeze_account` and `thaw_account`. -/
def setFrozen (signers : List Pubkey) (key mint authority : Pubkey) (isFrozen : Bool) :
    ProgramM Pubkey Unit := do
  let account ← p.ownAccount key
  require (account.isFrozen ≠ isFrozen) (.token .invalidState)
  require (account.mint = mint) (.token .mintMismatch)
  let record ← p.ownMint mint
  require (record.freezeAuthority.isSome) (.token .mintCannotFreeze)
  require (record.freezeAuthority = some authority ∧ authority ∈ signers) (.token .ownerMismatch)
  modify (·.put key (.tokenAccount { account with isFrozen }))

end TokenProgram

/-! ## When a call succeeds -/

namespace Ledger

/-- The mint and the decimals a checked transfer states are those of the account. -/
def Checked (l : Ledger Pubkey) (p : TokenProgram) (account : TokenAccount Pubkey) :
    Option (Pubkey × ℕ) → Prop
  | none => True
  | some (mint, decimals) => account.mint = mint ∧
      ∃ record, l.mint? mint = some record ∧ record.program = p ∧ record.decimals = decimals

/-- A token program accepts to mint units into an account. -/
structure MintAccepted (l : Ledger Pubkey) (p : TokenProgram) (signers : List Pubkey)
    (mint destination authority : Pubkey) (amount : ℕ) (account : TokenAccount Pubkey)
    (record : Mint Pubkey) : Prop where
  account_eq : l.tokenAccount? destination = some account
  account_program : account.program = p
  thawed : account.isFrozen = false
  mint_eq : account.mint = mint
  record_eq : l.mint? mint = some record
  record_program : record.program = p
  authority_eq : record.mintAuthority = some authority
  signed : authority ∈ signers
  room : account.amount + amount < u64Bound
  supply_room : record.supply + amount < u64Bound

/-- A token program accepts to move units from one account to another. -/
structure TransferAccepted (l : Ledger Pubkey) (p : TokenProgram) (signers : List Pubkey)
    (source destination authority : Pubkey) (amount : ℕ) (checked : Option (Pubkey × ℕ))
    (sourceAccount destinationAccount : TokenAccount Pubkey) : Prop where
  source_eq : l.tokenAccount? source = some sourceAccount
  source_program : sourceAccount.program = p
  source_thawed : sourceAccount.isFrozen = false
  destination_eq : l.tokenAccount? destination = some destinationAccount
  destination_program : destinationAccount.program = p
  destination_thawed : destinationAccount.isFrozen = false
  funds : amount ≤ sourceAccount.amount
  mint_eq : sourceAccount.mint = destinationAccount.mint
  checked_by : l.Checked p sourceAccount checked
  owner_eq : sourceAccount.owner = authority
  signed : authority ∈ signers
  room : source ≠ destination → destinationAccount.amount + amount < u64Bound

/-- A token program accepts to burn units of an account. -/
structure BurnAccepted (l : Ledger Pubkey) (p : TokenProgram) (signers : List Pubkey)
    (source mint authority : Pubkey) (amount : ℕ) (account : TokenAccount Pubkey)
    (record : Mint Pubkey) : Prop where
  account_eq : l.tokenAccount? source = some account
  account_program : account.program = p
  record_eq : l.mint? mint = some record
  record_program : record.program = p
  thawed : account.isFrozen = false
  funds : amount ≤ account.amount
  mint_eq : account.mint = mint
  owner_eq : account.owner = authority
  signed : authority ∈ signers
  supply_funds : amount ≤ record.supply

/-- The ledger after units moved.  Moving to the same account moves nothing. -/
def moved (l : Ledger Pubkey) (source destination : Pubkey)
    (sourceAccount destinationAccount : TokenAccount Pubkey) (amount : ℕ) : Ledger Pubkey :=
  if source = destination then l
  else (l.setAmount source sourceAccount (sourceAccount.amount - amount)).setAmount destination
    destinationAccount (destinationAccount.amount + amount)

end Ledger

namespace TokenProgram

section

variable {p : TokenProgram} {signers : List Pubkey} {l l' : Ledger Pubkey} {u : Unit}

theorem ownMint_bind_ok {α : Type} {key : Pubkey} {f : Mint Pubkey → ProgramM Pubkey α} {a : α} :
    (p.ownMint key >>= f).run l = .ok a l' ↔
      ∃ mint, l.mint? key = some mint ∧ mint.program = p ∧ (f mint).run l = .ok a l' := by
  simp only [ownMint, bind_assoc, get_bind_ok, orThrow_bind_ok, require_bind_ok, pure_bind]

theorem ownAccount_bind_ok {α : Type} {key : Pubkey} {f : TokenAccount Pubkey → ProgramM Pubkey α}
    {a : α} :
    (p.ownAccount key >>= f).run l = .ok a l' ↔
      ∃ account, l.tokenAccount? key = some account ∧ account.program = p ∧
        (f account).run l = .ok a l' := by
  simp only [ownAccount, bind_assoc, get_bind_ok, orThrow_bind_ok, require_bind_ok, pure_bind]

theorem checkMint_bind_ok {α : Type} {account : TokenAccount Pubkey}
    {checked : Option (Pubkey × ℕ)} {f : Unit → ProgramM Pubkey α} {a : α} :
    (p.checkMint account checked >>= f).run l = .ok a l' ↔
      l.Checked p account checked ∧ (f ()).run l = .ok a l' := by
  cases checked with
  | none => simp only [checkMint, pure_bind, Ledger.Checked, true_and]
  | some stated =>
      simp only [checkMint, bind_assoc, require_bind_ok, ownMint_bind_ok, Ledger.Checked]
      constructor
      · rintro ⟨hmint, record, hrecord, hprogram, hdecimals, h⟩
        exact ⟨⟨hmint, record, hrecord, hprogram, hdecimals⟩, h⟩
      · rintro ⟨⟨hmint, record, hrecord, hprogram, hdecimals⟩, h⟩
        exact ⟨hmint, record, hrecord, hprogram, hdecimals, h⟩

theorem mintTo_ok {mint destination authority : Pubkey} {amount : ℕ} :
    (p.mintTo signers mint destination authority amount).run l = .ok u l' ↔
      ∃ account record, l.MintAccepted p signers mint destination authority amount account record ∧
        l' = (l.setAmount destination account (account.amount + amount)).setSupply mint record
          (record.supply + amount) := by
  simp only [mintTo, ownAccount_bind_ok, require_bind_ok, ownMint_bind_ok, modify_ok]
  constructor
  · rintro ⟨account, haccount, haccountProgram, hthawed, hmint, record, hrecord, hrecordProgram,
      ⟨hauthority, hsigned⟩, hroom, hsupplyRoom, rfl⟩
    exact ⟨account, record, ⟨haccount, haccountProgram, hthawed, hmint, hrecord, hrecordProgram,
      hauthority, hsigned, hroom, hsupplyRoom⟩, rfl⟩
  · rintro ⟨account, record, h, rfl⟩
    exact ⟨account, h.account_eq, h.account_program, h.thawed, h.mint_eq, record, h.record_eq,
      h.record_program, ⟨h.authority_eq, h.signed⟩, h.room, h.supply_room, rfl⟩

theorem mintTo_bind_ok {α : Type} {mint destination authority : Pubkey} {amount : ℕ}
    {f : Unit → ProgramM Pubkey α} {a : α} :
    (p.mintTo signers mint destination authority amount >>= f).run l = .ok a l' ↔
      ∃ account record, l.MintAccepted p signers mint destination authority amount account record ∧
        (f ()).run ((l.setAmount destination account (account.amount + amount)).setSupply mint
          record (record.supply + amount)) = .ok a l' := by
  rw [bind_ok]
  constructor
  · rintro ⟨_, _, hrun, h⟩
    obtain ⟨account, record, haccepted, rfl⟩ := mintTo_ok.mp hrun
    exact ⟨account, record, haccepted, h⟩
  · rintro ⟨account, record, haccepted, h⟩
    exact ⟨(), _, mintTo_ok.mpr ⟨account, record, haccepted, rfl⟩, h⟩

theorem transfer_ok {source destination authority : Pubkey} {amount : ℕ}
    {checked : Option (Pubkey × ℕ)} :
    (p.transfer signers source destination authority amount checked).run l = .ok u l' ↔
      ∃ sourceAccount destinationAccount,
        l.TransferAccepted p signers source destination authority amount checked sourceAccount
          destinationAccount ∧
        l' = l.moved source destination sourceAccount destinationAccount amount := by
  simp only [transfer, ownAccount_bind_ok, require_bind_ok, checkMint_bind_ok]
  constructor
  · rintro ⟨src, hsrc, hsrcProgram, dst, hdst, hdstProgram, ⟨hsrcThawed, hdstThawed⟩, hfunds, hmint,
      hchecked, ⟨howner, hsigned⟩, h⟩
    by_cases hsame : source = destination
    · rw [moveUnits, if_pos hsame, pure_ok] at h
      refine ⟨src, dst, ⟨hsrc, hsrcProgram, hsrcThawed, hdst, hdstProgram, hdstThawed, hfunds,
        hmint, hchecked, howner, hsigned, fun hne => absurd hsame hne⟩, ?_⟩
      rw [Ledger.moved, if_pos hsame, h.2]
    · rw [moveUnits, if_neg hsame, require_bind_ok, modify_ok] at h
      obtain ⟨hroom, rfl⟩ := h
      refine ⟨src, dst, ⟨hsrc, hsrcProgram, hsrcThawed, hdst, hdstProgram, hdstThawed, hfunds,
        hmint, hchecked, howner, hsigned, fun _ => hroom⟩, ?_⟩
      rw [Ledger.moved, if_neg hsame]
  · rintro ⟨src, dst, h, rfl⟩
    refine ⟨src, h.source_eq, h.source_program, dst, h.destination_eq, h.destination_program,
      ⟨h.source_thawed, h.destination_thawed⟩, h.funds, h.mint_eq, h.checked_by,
      ⟨h.owner_eq, h.signed⟩, ?_⟩
    by_cases hsame : source = destination
    · rw [moveUnits, if_pos hsame, pure_ok, Ledger.moved, if_pos hsame]
      exact ⟨rfl, rfl⟩
    · rw [moveUnits, if_neg hsame, require_bind_ok, modify_ok, Ledger.moved, if_neg hsame]
      exact ⟨h.room hsame, rfl⟩

theorem burn_ok {source mint authority : Pubkey} {amount : ℕ} :
    (p.burn signers source mint authority amount).run l = .ok u l' ↔
      ∃ account record, l.BurnAccepted p signers source mint authority amount account record ∧
        l' = (l.setAmount source account (account.amount - amount)).setSupply mint record
          (record.supply - amount) := by
  simp only [burn, ownAccount_bind_ok, ownMint_bind_ok, require_bind_ok, modify_ok]
  constructor
  · rintro ⟨account, haccount, haccountProgram, record, hrecord, hrecordProgram, hthawed, hfunds,
      hmint, ⟨howner, hsigned⟩, hsupply, rfl⟩
    exact ⟨account, record, ⟨haccount, haccountProgram, hrecord, hrecordProgram, hthawed, hfunds,
      hmint, howner, hsigned, hsupply⟩, rfl⟩
  · rintro ⟨account, record, h, rfl⟩
    exact ⟨account, h.account_eq, h.account_program, record, h.record_eq, h.record_program,
      h.thawed, h.funds, h.mint_eq, ⟨h.owner_eq, h.signed⟩, h.supply_funds, rfl⟩

theorem setFrozen_ok {key mint authority : Pubkey} {isFrozen : Bool}
    (h : (p.setFrozen signers key mint authority isFrozen).run l = .ok u l') :
    ∃ account record, l.tokenAccount? key = some account ∧ l.mint? account.mint = some record ∧
      record.freezeAuthority = some authority ∧ authority ∈ signers ∧
      l' = l.put key (.tokenAccount { account with isFrozen }) := by
  simp only [setFrozen, ownAccount_bind_ok, ownMint_bind_ok, require_bind_ok, modify_ok] at h
  obtain ⟨account, haccount, -, -, rfl, record, hrecord, -, -, ⟨hauthority, hsigned⟩, rfl⟩ := h
  exact ⟨account, record, haccount, hrecord, hauthority, hsigned, rfl⟩

variable [Runtime Pubkey]

theorem initializeMint_ok {payer mint mintAuthority : Pubkey} {decimals : ℕ}
    {freezeAuthority : Option Pubkey}
    (h : (p.initializeMint signers payer mint decimals mintAuthority freezeAuthority).run l =
      .ok u l') :
    mint ∈ signers ∧ l.data? mint = none ∧ l'.data? = Function.update l.data? mint
      (some (.mint ⟨p, some mintAuthority, 0, decimals, freezeAuthority⟩)) := by
  rw [initializeMint, require_bind_ok] at h
  exact ⟨h.1, createAccount_ok h.2⟩

theorem initializeAccount_ok {payer account mint owner : Pubkey}
    (h : (p.initializeAccount signers payer account mint owner).run l = .ok u l') :
    ∃ record, l.mint? mint = some record ∧ record.program = p ∧ l.data? account = none ∧
      l'.data? =
        Function.update l.data? account (some (.tokenAccount ⟨p, mint, owner, 0, false⟩)) := by
  rw [initializeAccount, require_bind_ok, ownMint_bind_ok] at h
  obtain ⟨-, record, hrecord, hprogram, h⟩ := h
  exact ⟨record, hrecord, hprogram, createAccount_ok h⟩

theorem createAssociated_ok {payer owner mint : Pubkey}
    (h : (p.createAssociated signers payer owner mint).run l = .ok u l') :
    ∃ record, l.mint? mint = some record ∧ record.program = p ∧
      l.data? (Runtime.associatedTokenAddress owner p mint) = none ∧
      l'.data? = Function.update l.data? (Runtime.associatedTokenAddress owner p mint)
        (some (.tokenAccount ⟨p, mint, owner, 0, false⟩)) := by
  rw [createAssociated, ownMint_bind_ok] at h
  obtain ⟨record, hrecord, hprogram, h⟩ := h
  exact ⟨record, hrecord, hprogram, createAccount_ok h⟩

end

end TokenProgram

end RwaTokenization
