import RwaAgents.Program.EventLog
import RwaAgents.Program.Freeze

/-!
# The wallets behind an asset

An indexer that wants to know who owns an asset opens a book when the asset is
tokenized, with all units in the wallet of its owner, and moves units between
wallets as the transfers announce.  On the chain a wallet owns what its token
accounts hold together.

A transfer announces the wallet it takes units from and the token account it gives
them to.  So the book is right as long as units only go to token accounts that own
themselves (`ownership_log_iff`).
-/

namespace RwaTokenization

variable {Pubkey : Type} [DecidableEq Pubkey] {l l' : Ledger Pubkey}

/-! ## What a wallet holds -/

namespace Ledger

/-- The units of a mint all token accounts of a wallet hold together. -/
def walletHoldings (l : Ledger Pubkey) (mint wallet : Pubkey) : ℕ :=
  l.total AccountData.tokenAccount? fun account =>
    if account.mint = mint ∧ account.owner = wallet then account.amount else 0

section

variable {key source destination : Pubkey} {account src dst : TokenAccount Pubkey}

theorem walletHoldings_congr (h : l'.tokenAccount? = l.tokenAccount?) (mint wallet : Pubkey) :
    l'.walletHoldings mint wallet = l.walletHoldings mint wallet :=
  total_congr h _

/-- A new account adds what it holds. -/
theorem walletHoldings_of_new
    (h : l'.tokenAccount? = Function.update l.tokenAccount? key (some account))
    (hfresh : l.tokenAccount? key = none) (mint wallet : Pubkey) :
    l'.walletHoldings mint wallet = l.walletHoldings mint wallet +
      if account.mint = mint ∧ account.owner = wallet then account.amount else 0 := by
  have htotal := total_of_update h fun account =>
    if account.mint = mint ∧ account.owner = wallet then account.amount else 0
  rwa [show l.read AccountData.tokenAccount? key = none from hfresh, Option.elim_none,
    Nat.add_zero] at htotal

/-- A rewritten account adds what it holds and takes away what it held. -/
theorem walletHoldings_of_update {account' : TokenAccount Pubkey}
    (h : l'.tokenAccount? = Function.update l.tokenAccount? key (some account'))
    (hread : l.tokenAccount? key = some account) (mint wallet : Pubkey) :
    l'.walletHoldings mint wallet +
        (if account.mint = mint ∧ account.owner = wallet then account.amount else 0) =
      l.walletHoldings mint wallet +
        if account'.mint = mint ∧ account'.owner = wallet then account'.amount else 0 := by
  have htotal := total_of_update h fun account =>
    if account.mint = mint ∧ account.owner = wallet then account.amount else 0
  rwa [show l.read AccountData.tokenAccount? key = some account from hread,
    Option.elim_some] at htotal

/-- Nothing is held where there is no account of the mint. -/
theorem walletHoldings_eq_zero {mint : Pubkey}
    (h : ∀ {key account}, l.tokenAccount? key = some account → account.mint ≠ mint)
    (wallet : Pubkey) : l.walletHoldings mint wallet = 0 := by
  have hempty : ∀ k, (l.accounts.get? k).elim 0 (fun data => (data.tokenAccount?).elim 0
      fun account => if account.mint = mint ∧ account.owner = wallet then account.amount else 0) =
        0 := by
    intro k
    rw [elim_data?]
    cases hread : l.read AccountData.tokenAccount? k with
    | none => rfl
    | some account => exact if_neg fun he => h hread he.1
  have hsum : l.walletHoldings mint wallet = (l.accounts.get? mint).elim 0 _ :=
    OrderedMap.sum_eq_of_single fun k _ => hempty k
  exact hsum.trans (hempty mint)

/-- A transfer takes units from the wallet of the source and gives them to the wallet
of the destination. -/
theorem moved_walletHoldings (hsrc : l.tokenAccount? source = some src)
    (hdst : l.tokenAccount? destination = some dst) {n : ℕ} (hfunds : n ≤ src.amount)
    (mint wallet : Pubkey) :
    ((l.moved source destination src dst n).walletHoldings mint wallet : ℤ) =
      l.walletHoldings mint wallet - (if src.mint = mint ∧ src.owner = wallet then n else 0) +
        if dst.mint = mint ∧ dst.owner = wallet then n else 0 := by
  by_cases hne : source = destination
  · rw [hne, hdst] at hsrc
    cases hsrc
    rw [moved, if_pos hne]
    omega
  · have hdst' :
        (l.setAmount source src (src.amount - n)).tokenAccount? destination = some dst := by
      rwa [setAmount_tokenAccount?, Function.update_of_ne (Ne.symm hne)]
    have hdebit := walletHoldings_of_update
      (setAmount_tokenAccount? l source src (src.amount - n)) hsrc mint wallet
    have hcredit := walletHoldings_of_update
      (setAmount_tokenAccount? _ destination dst (dst.amount + n)) hdst' mint wallet
    rw [moved, if_neg hne]
    simp only at hdebit hcredit
    split_ifs at hdebit hcredit ⊢ <;> omega

end

end Ledger

/-! ## The book of an indexer -/

/-- The owners of the assets, and what the book of each asset says of each wallet. -/
structure WalletBook (Pubkey : Type) where
  owners : Pubkey → Option Pubkey
  units : Pubkey → Pubkey → ℤ

/-- Debit one wallet and credit another. -/
def moveUnits (units : Pubkey → ℤ) («from» «to» : Pubkey) (amount : ℕ) : Pubkey → ℤ :=
  fun wallet => units wallet - (if wallet = «from» then amount else 0) +
    if wallet = «to» then amount else 0

namespace WalletBook

def empty : WalletBook Pubkey := ⟨fun _ => none, fun _ _ => 0⟩

/-- What the indexer makes of an event. -/
def apply (book : WalletBook Pubkey) : Event Pubkey → WalletBook Pubkey
  | .assetRegistered asset owner _ _ _ =>
      { book with owners := Function.update book.owners asset (some owner) }
  | .assetTokenized asset _ totalSupply _ =>
      { book with
        units := Function.update book.units asset fun wallet =>
          if book.owners asset = some wallet then totalSupply else 0 }
  | .ownershipTransferred asset «from» «to» amount =>
      { book with
        units := Function.update book.units asset
          (moveUnits (book.units asset) «from» «to» amount) }
  | _ => book

/-- The book knows who registered the assets. -/
def KnowsOwners (book : WalletBook Pubkey) (l : Ledger Pubkey) : Prop :=
  ∀ key asset, l.rwaAsset? key = some asset → book.owners key = some asset.owner

/-- The book of every tokenized asset says of every wallet what it holds. -/
def Agrees (book : WalletBook Pubkey) (l : Ledger Pubkey) : Prop :=
  ∀ key mint, l.TokenizedWith (fun _ => True) key mint →
    ∀ wallet, book.units key wallet = l.walletHoldings mint wallet

end WalletBook

/-- The book of an indexer after some steps. -/
def walletBook [Runtime Pubkey] (es : List (ProgramStep Pubkey)) : WalletBook Pubkey :=
  (Machine.events Answer.event? es).foldl WalletBook.apply .empty

/-- Does the event change the book? -/
def Event.writesBook : Event Pubkey → Bool
  | assetRegistered _ _ _ _ _ => true
  | assetTokenized _ _ _ _ => true
  | ownershipTransferred _ _ _ _ => true
  | _ => false

omit [DecidableEq Pubkey] in
theorem WalletBook.apply_of_quiet [DecidableEq Pubkey] {e : Event Pubkey}
    (h : e.writesBook = false) (book : WalletBook Pubkey) : book.apply e = book := by
  cases e with
  | assetRegistered => cases h
  | assetTokenized => cases h
  | ownershipTransferred => cases h
  | _ => rfl

/-! ## What a step does to the wallets -/

/-- Who registered an asset, and the mint it is tokenized with. -/
def RwaAsset.title (asset : RwaAsset Pubkey) : Pubkey × Bool × Option Pubkey :=
  (asset.owner, asset.isTokenized, asset.mint)

/-- The titles of the assets, and what wallets hold of the tokenized ones, are as they
were. -/
structure SameWallets (l l' : Ledger Pubkey) : Prop where
  titles : ∀ key, (l'.rwaAsset? key).map RwaAsset.title = (l.rwaAsset? key).map RwaAsset.title
  holdings : ∀ {key mint}, l.TokenizedWith (fun _ => True) key mint →
    ∀ wallet, l'.walletHoldings mint wallet = l.walletHoldings mint wallet

namespace SameWallets

theorem of_same (hassets : l'.rwaAsset? = l.rwaAsset?)
    (haccounts : l'.tokenAccount? = l.tokenAccount?) : SameWallets l l' :=
  ⟨fun key => by rw [hassets], fun _ wallet => Ledger.walletHoldings_congr haccounts _ wallet⟩

/-- An asset rewritten under its title. -/
theorem put {key : Pubkey} {asset asset' : RwaAsset Pubkey} (h : l.rwaAsset? key = some asset)
    (htitle : asset'.title = asset.title) : SameWallets l (l.put key (.rwaAsset asset')) where
  titles k := by
    rw [Ledger.putAsset_rwaAsset?, Function.update_apply]
    split
    · next hk => rw [hk, h, Option.map_some, Option.map_some, htitle]
    · rfl
  holdings _ wallet := Ledger.walletHoldings_congr (SameTokens.put_rwaAsset h asset').accounts _
    wallet

variable (h : SameWallets l l')

include h

theorem asset_of_after {key : Pubkey} {asset' : RwaAsset Pubkey}
    (hread : l'.rwaAsset? key = some asset') :
    ∃ asset, l.rwaAsset? key = some asset ∧ asset.title = asset'.title := by
  have htitle := (h.titles key).symm
  rwa [hread, Option.map_some, Option.map_eq_some_iff] at htitle

theorem tokenized_of_after {key mint : Pubkey}
    (htokenized : l'.TokenizedWith (fun _ => True) key mint) :
    l.TokenizedWith (fun _ => True) key mint := by
  obtain ⟨asset', hread, hisTokenized, hmint, -⟩ := htokenized
  obtain ⟨asset, hbefore, htitle⟩ := h.asset_of_after hread
  simp only [RwaAsset.title, Prod.mk.injEq] at htitle
  exact ⟨asset, hbefore, htitle.2.1.trans hisTokenized, htitle.2.2.trans hmint, trivial⟩

theorem knowsOwners {book : WalletBook Pubkey} (hknows : book.KnowsOwners l) :
    book.KnowsOwners l' := by
  intro key asset' hread
  obtain ⟨asset, hbefore, htitle⟩ := h.asset_of_after hread
  simp only [RwaAsset.title, Prod.mk.injEq] at htitle
  rw [hknows key asset hbefore, htitle.1]

theorem agrees {book : WalletBook Pubkey} (hagrees : book.Agrees l) : book.Agrees l' := by
  intro key mint htokenized wallet
  have hbefore := h.tokenized_of_after htokenized
  rw [hagrees key mint hbefore wallet, h.holdings hbefore]

end SameWallets

variable [Runtime Pubkey] {ctx : Context Pubkey} {action : Action Pubkey}
  {event : Option (Event Pubkey)}

/-- Does the action take units from a wallet without announcing a transfer? -/
def Action.bypassesBook : Action Pubkey → Bool
  | program (.redeemAsset _ _) => true
  | token _ (.transfer _ _ _ _ _) => true
  | token _ (.burn _ _ _ _) => true
  | _ => false

def Action.isTransferOwnership : Action Pubkey → Bool
  | program (.transferOwnership _ _) => true
  | _ => false

inductive WalletStep (ctx : Context Pubkey) (l l' : Ledger Pubkey) :
    Action Pubkey → Option (Event Pubkey) → Prop
  | quiet {action : Action Pubkey} {event : Option (Event Pubkey)}
      (other : action.isTransferOwnership = false) (same : SameWallets l l')
      (silent : ∀ e ∈ event, e.writesBook = false) : WalletStep ctx l l' action event
  | register {accs : RegisterAsset Pubkey} {args : RegisterAssetArgs}
      {config : GlobalConfig Pubkey} (effect : accs.Effect ctx args config l l') :
      WalletStep ctx l l' (.program (.registerAsset accs args))
        (some (.assetRegistered accs.asset accs.owner args.assetType args.name ctx.unixTimestamp))
  | tokenize {accs : TokenizeAsset Pubkey} {totalSupply : ℕ} {config : GlobalConfig Pubkey}
      {asset : RwaAsset Pubkey} (effect : accs.Effect ctx totalSupply config asset l l') :
      WalletStep ctx l l' (.program (.tokenizeAsset accs totalSupply))
        (some (.assetTokenized accs.asset accs.mint totalSupply ctx.unixTimestamp))
  | transfer {accs : TransferOwnership Pubkey} {amount : ℕ} {asset : RwaAsset Pubkey}
      {mint : Mint Pubkey} {src dst : TokenAccount Pubkey}
      (accepted : accs.Accepted ctx amount asset mint src dst l)
      (after : l' = l.moved accs.fromTokenAccount accs.toTokenAccount src dst amount) :
      WalletStep ctx l l' (.program (.transferOwnership accs amount))
        (some (.ownershipTransferred accs.asset accs.from accs.toTokenAccount amount))

theorem SameWallets.walletStep (h : SameWallets l l')
    (hother : action.isTransferOwnership = false) : WalletStep ctx l l' action none :=
  .quiet hother h fun _ he => absurd he (Option.not_mem_none _)

/-- A call of a token program leaves the wallets alone, unless it is a transfer or a
burn. -/
theorem TokenInstruction.sameWallets (hvalid : LedgerValid l) {p : TokenProgram}
    {instruction : TokenInstruction Pubkey} {u : Unit}
    (hbook : (Action.token p instruction).bypassesBook = false)
    (h : (instruction.execute ctx p).run l = .ok u l') : SameWallets l l' := by
  have hassets := (TokenInstruction.sameRecords h).assets
  cases TokenInstruction.tokenStep h with
  | idle quiet _ => cases quiet
  | newMint fresh data =>
      exact .of_same hassets ((Ledger.read_update data _).trans
        (Ledger.update_none (Ledger.read_of_data?_eq_none fresh _)))
  | newAccount _ _ _ fresh data =>
      refine ⟨fun key => by rw [hassets], fun _ wallet => ?_⟩
      rw [Ledger.walletHoldings_of_new (Ledger.read_update data AccountData.tokenAccount?)
        (Ledger.read_of_data?_eq_none fresh _), ite_self, Nat.add_zero]
  | @mintTo _ mint destination authority amount account record accepted after =>
      refine ⟨fun key => by rw [hassets], fun {key mint'} htokenized wallet => ?_⟩
      obtain ⟨tokenization, _, ht, hsame, -⟩ := hvalid.exists_mint htokenized
      have hne : account.mint ≠ mint' := by
        rw [accepted.mint_eq, ← hsame]
        exact (hvalid.mint_ne accepted ht).symm
      rw [after]
      have hholdings := Ledger.walletHoldings_of_update (Ledger.adjusted_tokenAccount?
        accepted.account_eq accepted.record_eq (account.amount + amount) (record.supply + amount))
        accepted.account_eq mint' wallet
      rwa [if_neg fun he => hne he.1, if_neg fun he => hne he.1] at hholdings
  | @setFrozen _ key mint authority isFrozen account record account_eq _ _ after =>
      refine ⟨fun key => by rw [hassets], fun {_ mint'} _ wallet => ?_⟩
      rw [after]
      have hholdings := Ledger.walletHoldings_of_update (Ledger.putAccount_tokenAccount? l key
        { account with isFrozen }) account_eq mint' wallet
      exact Nat.add_right_cancel hholdings
  | transfer _ _ => cases hbook
  | burn _ _ => cases hbook

/-- A successful action is a wallet step, unless it bypasses the book. -/
theorem Action.walletStep (hvalid : LedgerValid l) (hbook : action.bypassesBook = false)
    (h : (action.execute ctx).run l = .ok event l') : WalletStep ctx l l' action event := by
  cases action with
  | program instruction =>
      cases instruction with
      | initializeConfig accs params =>
          obtain ⟨rfl, heffect⟩ := Initialize.effect h
          have hsame := SameWallets.of_same heffect.rwaAsset? (heffect.read_eq fun _ => rfl)
          exact hsame.walletStep rfl
      | registerAsset accs args =>
          obtain ⟨rfl, config, heffect⟩ := RegisterAsset.effect h
          exact .register heffect
      | tokenizeAsset accs totalSupply =>
          obtain ⟨rfl, config, asset, heffect⟩ := TokenizeAsset.effect h
          exact .tokenize heffect
      | transferOwnership accs amount =>
          obtain ⟨_, _, _, _, haccepted, rfl, hafter⟩ := TransferOwnership.execute_ok.mp h
          exact .transfer haccepted hafter
      | updateAssetMetadata accs args =>
          obtain ⟨asset, haccepted, rfl, rfl⟩ := UpdateAssetMetadata.execute_ok.mp h
          refine .quiet rfl (.put haccepted.asset_read rfl) fun e he => ?_
          cases he
          rfl
      | verifyOwnership accs =>
          obtain ⟨-, rfl, rfl⟩ := VerifyOwnership.execute_ok.mp h
          refine .quiet rfl (.of_same rfl rfl) fun e he => ?_
          cases he
          rfl
      | redeemAsset accs amount => cases hbook
      | setAssetStatus accs status =>
          obtain ⟨asset, haccepted, rfl, rfl⟩ := SetAssetStatus.execute_ok.mp h
          refine .quiet rfl (.put haccepted.asset_read rfl) fun e he => ?_
          cases he
          rfl
  | token p instruction =>
      obtain ⟨rfl, hrun⟩ := Action.token_ok.mp h
      exact (TokenInstruction.sameWallets hvalid hbook hrun).walletStep rfl
  | systemTransfer source destination amount =>
      obtain ⟨rfl, -, -, -, rfl⟩ := Action.systemTransfer_ok.mp h
      exact SameWallets.walletStep (.of_same rfl rfl) rfl

/-! ## The book along a run -/

variable {book : WalletBook Pubkey}

/-- A step keeps the owners known. -/
theorem WalletStep.knowsOwners (h : WalletStep ctx l l' action event)
    (hknows : book.KnowsOwners l) : (event.elim book book.apply).KnowsOwners l' := by
  cases h with
  | quiet _ same silent =>
      cases event with
      | none => exact same.knowsOwners hknows
      | some e =>
          rw [Option.elim_some, WalletBook.apply_of_quiet (silent e rfl)]
          exact same.knowsOwners hknows
  | register effect =>
      intro key asset hread
      show Function.update book.owners _ _ key = _
      rw [effect.rwaAsset?, Function.update_apply] at hread
      rw [Function.update_apply]
      split at hread
      · next hkey =>
        cases hread
        rw [if_pos hkey]
        rfl
      · next hkey =>
        rw [if_neg hkey]
        exact hknows key asset hread
  | tokenize effect =>
      intro key asset hread
      show book.owners key = _
      rw [effect.rwaAsset?, Function.update_apply] at hread
      split at hread
      · next hkey =>
        cases hread
        have howner := hknows _ _ effect.asset_read
        rw [hkey]
        exact howner
      · exact hknows key asset hread
  | transfer accepted after =>
      intro key asset hread
      have htransfer := accepted.transfer
      rw [after, (SameRecords.moved htransfer.source_eq htransfer.destination_eq _).assets] at hread
      exact hknows key asset hread

/-- If the action is a transfer of ownership the program accepts, it gives the units
to a token account that owns itself. -/
def Action.CreditsItself (ctx : Context Pubkey) (l : Ledger Pubkey) : Action Pubkey → Prop
  | program (.transferOwnership accs amount) => ∀ asset mint src dst,
      accs.Accepted ctx amount asset mint src dst l → dst.owner = accs.toTokenAccount
  | _ => True

section

variable (hvalid : LedgerValid l) (hagrees : book.Agrees l)

include hvalid hagrees

omit hvalid in
/-- A registration leaves the books of the tokenized assets alone. -/
theorem WalletBook.Agrees.register {accs : RegisterAsset Pubkey} {args : RegisterAssetArgs}
    {config : GlobalConfig Pubkey} (heffect : accs.Effect ctx args config l l')
    (owners : Pubkey → Option Pubkey) :
    WalletBook.Agrees { book with owners } l' := by
  intro key mint htokenized wallet
  obtain ⟨asset, hread, hisTokenized, hmint, -⟩ := htokenized
  rw [heffect.rwaAsset?, Function.update_apply] at hread
  split at hread
  · cases hread
    cases hisTokenized
  · rw [Ledger.walletHoldings_congr heffect.sameTokens.accounts]
    exact hagrees key mint ⟨asset, hread, hisTokenized, hmint, trivial⟩ wallet

/-- A tokenization opens the book of its asset with what the owner holds. -/
theorem WalletBook.Agrees.tokenize {accs : TokenizeAsset Pubkey} {totalSupply : ℕ}
    {config : GlobalConfig Pubkey} {asset : RwaAsset Pubkey} (hknows : book.KnowsOwners l)
    (heffect : accs.Effect ctx totalSupply config asset l l') :
    (book.apply (.assetTokenized accs.asset accs.mint totalSupply ctx.unixTimestamp)).Agrees
      l' := by
  intro key mint htokenized wallet
  obtain ⟨asset', hread, hisTokenized, hmint, -⟩ := htokenized
  have hnew := Ledger.walletHoldings_of_new heffect.tokenAccount?
    (Ledger.read_of_data?_eq_none heffect.account_fresh _) mint wallet
  show Function.update book.units accs.asset _ key wallet = _
  rw [heffect.rwaAsset?, Function.update_apply] at hread
  rw [hnew, Function.update_apply]
  split at hread
  · next hkey =>
    cases hread
    cases hmint
    -- Nobody held units of the mint before it existed.
    have hnone : l.walletHoldings accs.mint wallet = 0 := by
      refine Ledger.walletHoldings_eq_zero (fun haccount he => ?_) wallet
      obtain ⟨record, hrecord, -⟩ := hvalid.tokens.account_mint haccount
      exact Ledger.ne_of_read hrecord heffect.mint_fresh he
    rw [if_pos hkey, hknows _ _ heffect.asset_read, heffect.owner_eq, hnone, Nat.zero_add]
    show (if some accs.owner = some wallet then (totalSupply : ℤ) else 0) =
      ((if accs.mint = accs.mint ∧ accs.owner = wallet then totalSupply else 0 : ℕ) : ℤ)
    simp only [Option.some.injEq, true_and]
    split <;> rfl
  · next hkey =>
    have hasset : l.TokenizedWith (fun _ => True) key mint :=
      ⟨asset', hread, hisTokenized, hmint, trivial⟩
    obtain ⟨-, record, -, -, hrecord, -⟩ := hvalid.exists_mint hasset
    have hne : (accs.newAccount totalSupply).mint ≠ mint :=
      (Ledger.ne_of_read hrecord heffect.mint_fresh).symm
    rw [if_neg hkey, if_neg fun he => hne he.1, Nat.add_zero]
    exact hagrees key mint hasset wallet

/-- A transfer keeps the books right exactly if it gives the units to a token account
that owns itself. -/
theorem WalletBook.Agrees.transfer_iff {accs : TransferOwnership Pubkey} {amount : ℕ}
    {asset : RwaAsset Pubkey} {record : Mint Pubkey} {src dst : TokenAccount Pubkey}
    (haccepted : accs.Accepted ctx amount asset record src dst l) :
    (book.apply (.ownershipTransferred accs.asset accs.from accs.toTokenAccount amount)).Agrees
        (l.moved accs.fromTokenAccount accs.toTokenAccount src dst amount) ↔
      dst.owner = accs.toTokenAccount := by
  have htransfer := haccepted.transfer
  have hassets :=
    (SameRecords.moved htransfer.source_eq htransfer.destination_eq amount).assets
  have hmoved := Ledger.moved_walletHoldings htransfer.source_eq htransfer.destination_eq
    htransfer.funds
  have hsrcMint : src.mint = accs.mint := htransfer.checked_by.1
  have hdstMint : dst.mint = accs.mint := htransfer.mint_eq.symm.trans hsrcMint
  have howner : src.owner = accs.from := htransfer.owner_eq
  have hasset : l.TokenizedWith (fun _ => True) accs.asset accs.mint :=
    ⟨asset, haccepted.asset_read, haccepted.tokenized, haccepted.asset_mint, trivial⟩
  constructor
  · intro hafter
    have hbook := hafter accs.asset accs.mint (by rwa [Ledger.TokenizedWith, hassets])
      accs.toTokenAccount
    have hbefore := hagrees _ _ hasset accs.toTokenAccount
    have hpositive := haccepted.positive
    rw [hmoved, ← hbefore] at hbook
    simp only [apply, Function.update_self, moveUnits, hsrcMint, hdstMint, howner, true_and,
      if_true, @eq_comm _ accs.from] at hbook
    by_contra hne
    rw [if_neg hne] at hbook
    omega
  · intro hself key mint htokenized wallet
    rw [Ledger.TokenizedWith, hassets] at htokenized
    have hbefore := hagrees key mint htokenized wallet
    show Function.update book.units accs.asset _ key wallet = _
    rw [hmoved, Function.update_apply, ← hbefore]
    split
    · next hkey =>
      obtain ⟨asset', hread, -, hmint, -⟩ := htokenized
      rw [hkey, haccepted.asset_read] at hread
      cases hread
      cases haccepted.asset_mint.symm.trans hmint
      simp only [moveUnits, hsrcMint, hdstMint, howner, hself, true_and, hkey,
        @eq_comm _ _ wallet]
    · next hkey =>
      have hne : accs.mint ≠ mint := fun he => by
        obtain ⟨asset', hread, hisTokenized, hmint, -⟩ := htokenized
        exact hkey (hvalid.asset_mint_inj hread haccepted.asset_read hisTokenized
          haccepted.tokenized (hmint.trans (he ▸ haccepted.asset_mint.symm)))
      rw [hsrcMint, hdstMint, if_neg fun he => hne he.1, if_neg fun he => hne he.1]
      omega

/-- A wallet step keeps the books right exactly if it credits an account that owns
itself, or is no transfer. -/
theorem WalletStep.agrees_iff (hknows : book.KnowsOwners l)
    (h : WalletStep ctx l l' action event) :
    (event.elim book book.apply).Agrees l' ↔ action.CreditsItself ctx l := by
  cases h with
  | quiet other same silent =>
      have hself : action.CreditsItself ctx l := by
        cases action with
        | program instruction =>
            cases instruction with
            | transferOwnership _ _ => cases other
            | _ => trivial
        | _ => trivial
      refine iff_of_true ?_ hself
      cases event with
      | none => exact same.agrees hagrees
      | some e =>
          rw [Option.elim_some, WalletBook.apply_of_quiet (silent e rfl)]
          exact same.agrees hagrees
  | register effect => exact iff_of_true (hagrees.register effect _) trivial
  | tokenize effect => exact iff_of_true (hagrees.tokenize hvalid hknows effect) trivial
  | transfer accepted after =>
      rw [after, Option.elim_some, hagrees.transfer_iff hvalid accepted]
      constructor
      · intro hself asset mint src dst haccepted
        cases haccepted.transfer.destination_eq.symm.trans accepted.transfer.destination_eq
        exact hself
      · intro hself
        exact hself _ _ _ _ accepted

end

theorem walletBook_concat (es : List (ProgramStep Pubkey)) (e : ProgramStep Pubkey) :
    walletBook (es ++ [e]) =
      e.output.event?.elim (walletBook es) (walletBook es).apply :=
  Machine.foldl_events_concat _ _ _ _ _

/-- A transaction is a wallet step, or it fails and changes nothing. -/
theorem transact_walletStep (hvalid : LedgerValid l) {tx : Transaction Pubkey}
    (hbook : tx.action.bypassesBook = false) :
    (∃ event, (transact l tx).2 = .ok event ∧
        WalletStep tx.ctx l (transact l tx).1 tx.action event) ∨
      ∃ e, transact l tx = (l, .error e) := by
  rcases transact_cases l tx with ⟨event, after, hrun, he⟩ | herror
  · rw [he]
    exact .inl ⟨event, rfl, Action.walletStep hvalid hbook hrun⟩
  · exact .inr herror

/-- A transfer that fails was not accepted. -/
theorem Action.creditsItself_of_error {tx : Transaction Pubkey} {err : ProgramError}
    (h : (transact l tx).2 = .error err) : tx.action.CreditsItself tx.ctx l := by
  obtain ⟨ctx, action⟩ := tx
  cases action with
  | program instruction =>
      cases instruction with
      | transferOwnership accs amount =>
          intro asset mint src dst haccepted
          have hrun : ((Action.program (.transferOwnership accs amount)).execute ctx).run l = _ :=
            TransferOwnership.execute_ok.mpr ⟨asset, mint, src, dst, haccepted, rfl, rfl⟩
          cases (congrArg Prod.snd (transact_of_ok hrun)).symm.trans h
      | _ => trivial
  | _ => trivial

section

variable {es : List (ProgramStep Pubkey)} {tx : Transaction Pubkey} (h : Reachable l)
  (hbook : tx.action.bypassesBook = false) (hknows : (walletBook es).KnowsOwners l)

include h hbook hknows

theorem knowsOwners_next : (walletBook (es ++ [programMachine.stepAt l tx])).KnowsOwners
    (programMachine.next l tx) := by
  rw [walletBook_concat]
  rcases transact_walletStep (valid_of_reachable h) hbook with ⟨event, hok, hstep⟩ | ⟨err, herr⟩
  · rw [show (programMachine.stepAt l tx).output = .ok event from hok]
    exact hstep.knowsOwners hknows
  · rw [show (programMachine.stepAt l tx).output = .error err from output_of_error herr,
      next_of_error herr]
    exact hknows

theorem agrees_next_iff (hagrees : (walletBook es).Agrees l) :
    (walletBook (es ++ [programMachine.stepAt l tx])).Agrees (programMachine.next l tx) ↔
      tx.action.CreditsItself tx.ctx l := by
  have hvalid := valid_of_reachable h
  rw [walletBook_concat]
  rcases transact_walletStep hvalid hbook with ⟨event, hok, hstep⟩ | ⟨err, herr⟩
  · rw [show (programMachine.stepAt l tx).output = .ok event from hok]
    exact hstep.agrees_iff hvalid hagrees hknows
  · rw [show (programMachine.stepAt l tx).output = .error err from output_of_error herr,
      next_of_error herr]
    exact iff_of_true hagrees (Action.creditsItself_of_error (output_of_error herr))

end

/-- In every run of the program, without redemptions, the book is right throughout if
and only if every transfer of ownership that is accepted credits a token account that
owns itself. -/
theorem ownership_log_iff (hstart : programMachine.start l) {txs : List (Transaction Pubkey)}
    (hbook : ∀ tx ∈ txs, tx.action.bypassesBook = false) :
    (∀ pre, pre <+: txs →
      (walletBook (programMachine.steps l pre)).Agrees (programMachine.run l pre)) ↔
    ∀ e ∈ programMachine.steps l txs, e.action.action.CreditsItself e.action.ctx e.before := by
  have hempty : ∀ key, l.rwaAsset? key = none := Ledger.read_of_empty hstart _
  have hknows : (walletBook []).KnowsOwners l := by
    intro key asset hread
    cases (hempty key).symm.trans hread
  have hagrees : (walletBook []).Agrees l := by
    intro key mint htokenized
    obtain ⟨asset, hread, -⟩ := htokenized
    cases (hempty key).symm.trans hread
  have hreach := Machine.Reachable.start hstart
  -- The owners are known whatever the transfers do.
  have hall := (hreach.forall_prefix_iff (P := fun es l => (walletBook es).KnowsOwners l)
    (C := fun _ => True) (fun es l tx h htx hes => iff_of_true (knowsOwners_next h htx hes) trivial)
    hknows hbook).mpr fun _ _ => trivial
  rw [← hreach.forall_prefix_iff
    (P := fun es l => (walletBook es).KnowsOwners l ∧ (walletBook es).Agrees l)
    (fun es l tx h htx hes => (and_iff_right (knowsOwners_next h htx hes.1)).trans
      (agrees_next_iff h htx hes.1 hes.2)) ⟨hknows, hagrees⟩ hbook]
  exact forall₂_congr fun pre hpre => (and_iff_right (hall pre hpre)).symm

namespace Address

/-- A token account that owns itself. -/
def openOwnAccount : Transaction Address :=
  token [10, 30] (.initializeAccount (key 10) (key 30) houseMint (key 30))

/-- A transfer of five units of the sample asset. -/
def giveHouse (account : Address) : Transaction Address :=
  program [10] (.transferOwnership ⟨house, key 10, houseAccount 10, account, houseMint, .token⟩ 5)

/-- Five units go to an account that owns itself. -/
def giveHouseAway : List (Transaction Address) :=
  registerHouse ++ [tokenizeHouse, openOwnAccount, giveHouse (key 30)]

/-- Five units go to the associated account of another holder. -/
def giveHouseTo11 : List (Transaction Address) :=
  registerHouse ++ [tokenizeHouse, openHouseAccount 11, giveHouse (houseAccount 11)]

end Address

/-- The book is right after five units went to an account that owns itself. -/
theorem ownership_log_iff_house :
    (walletBook (programMachine.steps Address.genesis Address.giveHouseAway)).Agrees
        (programMachine.run Address.genesis Address.giveHouseAway) ∧
      (walletBook (programMachine.steps Address.genesis Address.giveHouseAway)).units
        Address.house (.key 30) = 5 := by
  have hcredits : ∀ e ∈ programMachine.steps Address.genesis Address.giveHouseAway,
      e.action.action.CreditsItself e.action.ctx e.before := by
    rw [Address.giveHouseAway, Address.registerHouse]
    simp only [List.cons_append, List.nil_append, Machine.steps_cons, Machine.steps_nil,
      List.forall_mem_cons]
    refine ⟨trivial, trivial, trivial, trivial, ?_, fun e he => absurd he List.not_mem_nil⟩
    intro asset mint src dst haccepted
    have hread : (programMachine.run Address.genesis (Address.registerHouse ++
        [Address.tokenizeHouse, Address.openOwnAccount])).tokenAccount? (.key 30) =
          some ⟨.token, Address.houseMint, .key 30, 0, false⟩ := by decide
    cases haccepted.transfer.destination_eq.symm.trans hread
    rfl
  have hagrees := (ownership_log_iff (l := Address.genesis) rfl (by decide)).mpr hcredits
  exact ⟨hagrees _ (List.prefix_refl _), by decide⟩

/-- After five units went to the account of another holder, the book says that the
holder has none. -/
theorem ownership_log_drifts :
    ¬ (walletBook (programMachine.steps Address.genesis Address.giveHouseTo11)).Agrees
      (programMachine.run Address.genesis Address.giveHouseTo11) := by
  intro hagrees
  have hasset : (programMachine.run Address.genesis Address.giveHouseTo11).TokenizedWith
      (fun _ => True) Address.house Address.houseMint :=
    ⟨Address.houseAsset, by decide, rfl, rfl, trivial⟩
  have hbook : (walletBook (programMachine.steps Address.genesis Address.giveHouseTo11)).units
      Address.house (.key 11) = 0 := by decide
  have hholdings : (programMachine.run Address.genesis Address.giveHouseTo11).walletHoldings
      Address.houseMint (.key 11) = 5 := by decide
  have hsame := hagrees _ _ hasset (.key 11)
  rw [hbook, hholdings] at hsame
  cases hsame

end RwaTokenization
