import RwaAgents.Program.InstructionSpec

/-!
# What a transaction leaves alone

The accounts fall into two halves.  The records are written by the program, the
mints and token accounts by the token programs.  `SameRecords` and `SameTokens`
say that a step left one half alone, and both compose.

A call of a token program leaves the records alone.  The instructions of the
program leave the tokens alone, except `tokenizeAsset`, `transferOwnership` and
`redeemAsset`.
-/

namespace RwaTokenization

variable {Pubkey : Type} [DecidableEq Pubkey] {l l' l'' : Ledger Pubkey}

/-- The records of the program are as they were. -/
structure SameRecords (l l' : Ledger Pubkey) : Prop where
  configs : l'.globalConfig? = l.globalConfig?
  assets : l'.rwaAsset? = l.rwaAsset?
  tokenizations : l'.tokenization? = l.tokenization?

/-- The mints and the token accounts are as they were. -/
structure SameTokens (l l' : Ledger Pubkey) : Prop where
  mints : l'.mint? = l.mint?
  accounts : l'.tokenAccount? = l.tokenAccount?

/-- A mint without its supply. -/
def Mint.terms (mint : Mint Pubkey) : Mint Pubkey := { mint with supply := 0 }

/-- A token account without its amount. -/
def TokenAccount.terms (account : TokenAccount Pubkey) : TokenAccount Pubkey :=
  { account with amount := 0 }

omit [DecidableEq Pubkey] in
theorem Mint.terms_eq {a b : Mint Pubkey} (h : a.terms = b.terms) :
    a.program = b.program ∧ a.mintAuthority = b.mintAuthority ∧ a.decimals = b.decimals ∧
      a.freezeAuthority = b.freezeAuthority := by
  simp only [terms, Mint.mk.injEq] at h
  exact ⟨h.1, h.2.1, h.2.2.2⟩

omit [DecidableEq Pubkey] in
theorem TokenAccount.terms_eq {a b : TokenAccount Pubkey} (h : a.terms = b.terms) :
    a.program = b.program ∧ a.mint = b.mint ∧ a.owner = b.owner ∧ a.isFrozen = b.isFrozen := by
  simp only [terms, TokenAccount.mk.injEq] at h
  exact ⟨h.1, h.2.1, h.2.2.1, h.2.2.2.2⟩

/-- The mints and the token accounts are as they were, up to supplies and
amounts. -/
structure SameTerms (l l' : Ledger Pubkey) : Prop where
  mints : ∀ key, (l'.mint? key).map Mint.terms = (l.mint? key).map Mint.terms
  accounts : ∀ key, (l'.tokenAccount? key).map TokenAccount.terms =
    (l.tokenAccount? key).map TokenAccount.terms

/-- What the writes of a token account keep, one by one and in a row, a transfer keeps. -/
theorem Ledger.moved_of_setAmount {R : Ledger Pubkey → Ledger Pubkey → Prop} (refl : ∀ l, R l l)
    (trans : ∀ {l l' l''}, R l l' → R l' l'' → R l l'')
    (setAmount : ∀ {l key account} (n : ℕ), l.tokenAccount? key = some account →
      R l (l.setAmount key account n))
    {source destination : Pubkey} {src dst : TokenAccount Pubkey}
    (hsrc : l.tokenAccount? source = some src) (hdst : l.tokenAccount? destination = some dst)
    (n : ℕ) : R l (l.moved source destination src dst n) := by
  rw [Ledger.moved]
  split
  · exact refl l
  · next hne =>
    refine trans (setAmount _ hsrc) (setAmount _ ?_)
    rwa [Ledger.setAmount_tokenAccount?, Function.update_of_ne (Ne.symm hne)]

namespace SameRecords

theorem refl (l : Ledger Pubkey) : SameRecords l l := ⟨rfl, rfl, rfl⟩

theorem trans (h : SameRecords l l') (h' : SameRecords l' l'') : SameRecords l l'' :=
  ⟨h'.configs.trans h.configs, h'.assets.trans h.assets, h'.tokenizations.trans h.tokenizations⟩

/-- Token data over token data, or at a fresh address. -/
theorem of_update {key : Pubkey} {data : AccountData Pubkey}
    (h : l'.data? = Function.update l.data? key (some data)) (hdata : data.isTokenData = true)
    (hold : ∀ d ∈ l.data? key, d.isTokenData = true) : SameRecords l l' where
  configs := Ledger.read_update_of_half h hdata hold AccountData.globalConfig?_of_token
  assets := Ledger.read_update_of_half h hdata hold AccountData.rwaAsset?_of_token
  tokenizations := Ledger.read_update_of_half h hdata hold AccountData.tokenization?_of_token

/-- A fresh address. -/
theorem of_fresh {key : Pubkey} {data : AccountData Pubkey}
    (h : l'.data? = Function.update l.data? key (some data)) (hdata : data.isTokenData = true)
    (hfresh : l.data? key = none) : SameRecords l l' :=
  of_update h hdata fun d hd => by rw [hfresh] at hd; cases hd

theorem setAmount {key : Pubkey} {account : TokenAccount Pubkey} (n : ℕ)
    (h : l.tokenAccount? key = some account) : SameRecords l (l.setAmount key account n) :=
  of_update (Ledger.put_data? _ _ _) rfl fun d hd => by
    rw [Ledger.tokenAccount?_eq_some.mp h] at hd
    cases hd
    rfl

theorem setSupply {key : Pubkey} {mint : Mint Pubkey} (n : ℕ) (h : l.mint? key = some mint) :
    SameRecords l (l.setSupply key mint n) :=
  of_update (Ledger.put_data? _ _ _) rfl fun d hd => by
    rw [Ledger.mint?_eq_some.mp h] at hd
    cases hd
    rfl

/-- Minting and burning write an account and then its mint. -/
theorem setAmount_setSupply {key mint : Pubkey} {account : TokenAccount Pubkey}
    {record : Mint Pubkey} (haccount : l.tokenAccount? key = some account)
    (hmint : l.mint? mint = some record) (n m : ℕ) :
    SameRecords l ((l.setAmount key account n).setSupply mint record m) :=
  (setAmount n haccount).trans (setSupply m (by rwa [Ledger.setAmount_mint? haccount]))

theorem moved {source destination : Pubkey} {src dst : TokenAccount Pubkey}
    (hsrc : l.tokenAccount? source = some src) (hdst : l.tokenAccount? destination = some dst)
    (n : ℕ) : SameRecords l (l.moved source destination src dst n) :=
  Ledger.moved_of_setAmount refl trans setAmount hsrc hdst n

end SameRecords

namespace SameTokens

theorem refl (l : Ledger Pubkey) : SameTokens l l := ⟨rfl, rfl⟩

/-- A record over a record, or at a fresh address. -/
theorem of_update {key : Pubkey} {data : AccountData Pubkey}
    (h : l'.data? = Function.update l.data? key (some data)) (hdata : data.isTokenData = false)
    (hold : ∀ d ∈ l.data? key, d.isTokenData = false) : SameTokens l l' where
  mints := Ledger.read_update_of_half h hdata hold AccountData.mint?_of_record
  accounts := Ledger.read_update_of_half h hdata hold AccountData.tokenAccount?_of_record

end SameTokens

namespace SameTokens

theorem balance (h : SameTokens l l') (mint key : Pubkey) :
    l'.balance mint key = l.balance mint key := by
  rw [Ledger.balance_eq, Ledger.balance_eq, h.accounts]

theorem holdings (h : SameTokens l l') (mint : Pubkey) : l'.holdings mint = l.holdings mint :=
  Ledger.holdings_congr (h.balance mint)

end SameTokens

namespace SameTerms

theorem refl (l : Ledger Pubkey) : SameTerms l l := ⟨fun _ => rfl, fun _ => rfl⟩

theorem trans (h : SameTerms l l') (h' : SameTerms l' l'') : SameTerms l l'' :=
  ⟨fun key => (h'.mints key).trans (h.mints key),
    fun key => (h'.accounts key).trans (h.accounts key)⟩

theorem setAmount {key : Pubkey} {account : TokenAccount Pubkey} (n : ℕ)
    (h : l.tokenAccount? key = some account) : SameTerms l (l.setAmount key account n) where
  mints k := by rw [Ledger.setAmount_mint? h]
  accounts k := by
    rw [Ledger.setAmount_tokenAccount?, Function.update_apply]
    split
    · next hk =>
      rw [hk, h]
      rfl
    · rfl

theorem setSupply {key : Pubkey} {mint : Mint Pubkey} (n : ℕ) (h : l.mint? key = some mint) :
    SameTerms l (l.setSupply key mint n) where
  mints k := by
    rw [Ledger.setSupply_mint?, Function.update_apply]
    split
    · next hk =>
      rw [hk, h]
      rfl
    · rfl
  accounts k := by rw [Ledger.setSupply_tokenAccount? h]

theorem setAmount_setSupply {key mint : Pubkey} {account : TokenAccount Pubkey}
    {record : Mint Pubkey} (haccount : l.tokenAccount? key = some account)
    (hmint : l.mint? mint = some record) (n m : ℕ) :
    SameTerms l ((l.setAmount key account n).setSupply mint record m) :=
  (setAmount n haccount).trans (setSupply m (by rwa [Ledger.setAmount_mint? haccount]))

theorem moved {source destination : Pubkey} {src dst : TokenAccount Pubkey}
    (hsrc : l.tokenAccount? source = some src) (hdst : l.tokenAccount? destination = some dst)
    (n : ℕ) : SameTerms l (l.moved source destination src dst n) :=
  Ledger.moved_of_setAmount refl trans setAmount hsrc hdst n

/-- A mint keeps its terms. -/
theorem mint_of_before (h : SameTerms l l') {key : Pubkey} {mint : Mint Pubkey}
    (hmint : l.mint? key = some mint) :
    ∃ mint', l'.mint? key = some mint' ∧ mint'.terms = mint.terms := by
  have hterms := h.mints key
  rwa [hmint, Option.map_some, Option.map_eq_some_iff] at hterms

theorem account_of_after (h : SameTerms l l') {key : Pubkey} {account' : TokenAccount Pubkey}
    (haccount : l'.tokenAccount? key = some account') :
    ∃ account, l.tokenAccount? key = some account ∧ account.terms = account'.terms := by
  have hterms := (h.accounts key).symm
  rwa [haccount, Option.map_some, Option.map_eq_some_iff] at hterms

theorem mint_of_after (h : SameTerms l l') {key : Pubkey} {mint' : Mint Pubkey}
    (hmint : l'.mint? key = some mint') :
    ∃ mint, l.mint? key = some mint ∧ mint.terms = mint'.terms := by
  have hterms := (h.mints key).symm
  rwa [hmint, Option.map_some, Option.map_eq_some_iff] at hterms

end SameTerms

variable [Runtime Pubkey] {ctx : Context Pubkey}

/-- A call of a token program leaves the records alone. -/
theorem TokenInstruction.sameRecords {p : TokenProgram} {instruction : TokenInstruction Pubkey}
    {u : Unit} (h : (instruction.execute ctx p).run l = .ok u l') : SameRecords l l' := by
  cases instruction with
  | initializeMint payer mint decimals mintAuthority freezeAuthority =>
      obtain ⟨-, hfresh, hdata⟩ := TokenProgram.initializeMint_ok h
      exact .of_fresh hdata rfl hfresh
  | initializeAccount payer account mint owner =>
      obtain ⟨_, -, -, hfresh, hdata⟩ := TokenProgram.initializeAccount_ok h
      exact .of_fresh hdata rfl hfresh
  | createAssociated payer owner mint =>
      obtain ⟨_, -, -, hfresh, hdata⟩ := TokenProgram.createAssociated_ok h
      exact .of_fresh hdata rfl hfresh
  | mintTo mint destination authority amount =>
      obtain ⟨account, record, haccepted, rfl⟩ := TokenProgram.mintTo_ok.mp h
      exact .setAmount_setSupply haccepted.account_eq haccepted.record_eq _ _
  | transfer source destination authority amount checked =>
      obtain ⟨src, dst, haccepted, rfl⟩ := TokenProgram.transfer_ok.mp h
      exact .moved haccepted.source_eq haccepted.destination_eq _
  | burn source mint authority amount =>
      obtain ⟨account, record, haccepted, rfl⟩ := TokenProgram.burn_ok.mp h
      exact .setAmount_setSupply haccepted.account_eq haccepted.record_eq _ _
  | setFrozen key mint authority isFrozen =>
      obtain ⟨account, _, haccount, -, -, -, rfl⟩ := TokenProgram.setFrozen_ok h
      refine .of_update (Ledger.put_data? _ _ _) rfl fun d hd => ?_
      rw [Ledger.tokenAccount?_eq_some.mp haccount] at hd
      cases hd
      rfl

end RwaTokenization
