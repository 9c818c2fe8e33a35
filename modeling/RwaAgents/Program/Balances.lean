import RwaAgents.Program.TokenStep

/-!
# Balances, holdings and supplies under a transaction

A transfer keeps the holdings of every mint and touches two balances of one
mint.  Minting and burning write one account and its mint.  From these the
invariant of the tokens follows for every transaction (`TokensValid.step`).
-/

namespace RwaTokenization

variable {Pubkey : Type} [DecidableEq Pubkey] {l l' : Ledger Pubkey}

namespace Ledger

/-! ## Moving units -/

section Moved

variable {source destination : Pubkey} {src dst : TokenAccount Pubkey}

/-- Moving units writes the two accounts. -/
theorem moved_tokenAccount? (hne : source ≠ destination) (n : ℕ) :
    (l.moved source destination src dst n).tokenAccount? =
      Function.update (Function.update l.tokenAccount? source
        (some { src with amount := src.amount - n })) destination
        (some { dst with amount := dst.amount + n }) := by
  rw [moved, if_neg hne, setAmount_tokenAccount?, setAmount_tokenAccount?]

theorem moved_balance_source (hne : source ≠ destination) (n : ℕ) :
    (l.moved source destination src dst n).balance src.mint source = src.amount - n := by
  rw [balance_eq, moved_tokenAccount? hne, Function.update_of_ne hne,
    Function.update_self, Option.elim_some, if_pos rfl]

theorem moved_balance_destination (hne : source ≠ destination) (n : ℕ) :
    (l.moved source destination src dst n).balance dst.mint destination = dst.amount + n := by
  rw [balance_eq, moved_tokenAccount? hne, Function.update_self, Option.elim_some,
    if_pos rfl]

variable (hsrc : l.tokenAccount? source = some src) (hdst : l.tokenAccount? destination = some dst)

include hsrc hdst

/-- Moving units leaves the mints alone. -/
theorem moved_mint? (n : ℕ) : (l.moved source destination src dst n).mint? = l.mint? := by
  rw [moved]
  split
  · rfl
  · next hne =>
    rw [setAmount_mint?, setAmount_mint? hsrc]
    rwa [setAmount_tokenAccount?, Function.update_of_ne (Ne.symm hne)]

/-- Units of other mints stay where they are. -/
theorem moved_balance_of_ne {mint : Pubkey} (hsrcMint : src.mint ≠ mint)
    (hdstMint : dst.mint ≠ mint) (n : ℕ) (key : Pubkey) :
    (l.moved source destination src dst n).balance mint key = l.balance mint key := by
  by_cases hne : source = destination
  · rw [moved, if_pos hne]
  · rw [balance_eq, balance_eq, moved_tokenAccount? hne, Function.update_apply,
      Function.update_apply]
    split
    · next hkey => rw [hkey, hdst, Option.elim_some, Option.elim_some, if_neg hdstMint,
        if_neg hdstMint]
    · split
      · next hkey => rw [hkey, hsrc, Option.elim_some, Option.elim_some, if_neg hsrcMint,
          if_neg hsrcMint]
      · rfl

/-- Moving units within a mint keeps what all accounts hold together. -/
theorem moved_holdings (hmint : src.mint = dst.mint) {n : ℕ} (hfunds : n ≤ src.amount)
    (mint : Pubkey) : (l.moved source destination src dst n).holdings mint = l.holdings mint := by
  rw [moved]
  split
  · rfl
  · next hne =>
    have hdst' :
        (l.setAmount source src (src.amount - n)).tokenAccount? destination = some dst := by
      rwa [setAmount_tokenAccount?, Function.update_of_ne (Ne.symm hne)]
    have hdebit := holdings_setAmount hsrc (src.amount - n) mint
    have hcredit := holdings_setAmount hdst' (dst.amount + n) mint
    rw [hmint] at hdebit
    by_cases hm : dst.mint = mint
    · rw [if_pos hm, if_pos hm] at hdebit hcredit
      omega
    · rw [if_neg hm, if_neg hm] at hdebit hcredit
      omega

end Moved

/-! ## Minting and burning -/

section Adjusted

variable {key mint : Pubkey} {account : TokenAccount Pubkey} {record : Mint Pubkey}
  (haccount : l.tokenAccount? key = some account) (hmint : l.mint? mint = some record)

include haccount

theorem adjusted_mint? (n supply : ℕ) :
    ((l.setAmount key account n).setSupply mint record supply).mint? =
      Function.update l.mint? mint (some { record with supply }) := by
  rw [setSupply_mint?, setAmount_mint? haccount]

include hmint

theorem adjusted_tokenAccount? (n supply : ℕ) :
    ((l.setAmount key account n).setSupply mint record supply).tokenAccount? =
      Function.update l.tokenAccount? key (some { account with amount := n }) := by
  rw [setSupply_tokenAccount? (by rwa [setAmount_mint? haccount]), setAmount_tokenAccount?]

/-- Minting or burning leaves the units of other mints alone. -/
theorem adjusted_balance_of_ne {other : Pubkey} (hne : account.mint ≠ other) (n supply : ℕ)
    (k : Pubkey) : ((l.setAmount key account n).setSupply mint record supply).balance other k =
      l.balance other k := by
  rw [balance_eq, balance_eq, adjusted_tokenAccount? haccount hmint, Function.update_apply]
  split
  · next hk => rw [hk, haccount, Option.elim_some, Option.elim_some, if_neg hne, if_neg hne]
  · rfl

/-- What all accounts hold changes by what the one account gains or loses. -/
theorem adjusted_holdings (n supply : ℕ) (other : Pubkey) :
    ((l.setAmount key account n).setSupply mint record supply).holdings other +
        (if account.mint = other then account.amount else 0) =
      l.holdings other + if account.mint = other then n else 0 := by
  have hsame : ((l.setAmount key account n).setSupply mint record supply).holdings other =
      (l.setAmount key account n).holdings other := by
    refine holdings_congr fun k => ?_
    rw [balance_eq, balance_eq, setSupply_tokenAccount? (by rwa [setAmount_mint? haccount])]
  rw [hsame, holdings_setAmount haccount]

end Adjusted

end Ledger

/-! ## The invariant of the tokens -/

namespace TokensValid

variable (h : TokensValid l)

include h

/-- Nobody holds units of a mint that does not exist. -/
theorem holdings_eq_zero {key : Pubkey} (hfresh : l.mint? key = none) : l.holdings key = 0 := by
  rw [Ledger.holdings_of_single fun k _ => h.balance_eq_zero hfresh k]
  exact h.balance_eq_zero hfresh key

/-- New accounts of known mints and new mints that are backed. -/
theorem extend (hmints : ∀ {key mint}, l.mint? key = some mint → l'.mint? key = some mint)
    (haccounts : ∀ {key account}, l'.tokenAccount? key = some account →
      l.tokenAccount? key = some account ∨
        (∃ mint, l'.mint? account.mint = some mint ∧ mint.program = account.program) ∧
          account.isFrozen = false)
    (hsupplies : ∀ {key mint}, l'.mint? key = some mint →
      (l.mint? key = some mint ∧ ∀ k, l'.balance key k = l.balance key k) ∨
        mint.supply = l'.holdings key ∧ mint.supply < u64Bound) : TokensValid l' where
  account_mint haccount := by
    rcases haccounts haccount with hold | ⟨hmint, -⟩
    · obtain ⟨mint, hmint, hprogram⟩ := h.account_mint hold
      exact ⟨mint, hmints hmint, hprogram⟩
    · exact hmint
  thawed haccount hmint hfreeze := by
    rcases haccounts haccount with hold | ⟨-, hthawed⟩
    · obtain ⟨mint, hmintRead, -⟩ := h.account_mint hold
      cases (hmints hmintRead).symm.trans hmint
      exact h.thawed hold hmintRead hfreeze
    · exact hthawed
  backed hmint := by
    rcases hsupplies hmint with ⟨hold, hbalance⟩ | ⟨hbacked, -⟩
    · rw [Ledger.holdings_congr hbalance, h.backed hold]
    · exact hbacked
  bounded hmint := by
    rcases hsupplies hmint with ⟨hold, -⟩ | ⟨-, hbounded⟩
    · exact h.bounded hold
    · exact hbounded

theorem newMint {key : Pubkey} {mint : Mint Pubkey} (hfresh : l.data? key = none)
    (hdata : l'.data? = Function.update l.data? key (some (.mint mint)))
    (hsupply : mint.supply = 0) : TokensValid l' := by
  have hmint : l'.mint? = Function.update l.mint? key (some mint) := Ledger.read_update hdata _
  have haccount : l'.tokenAccount? = l.tokenAccount? :=
    (Ledger.read_update hdata _).trans
      (Ledger.update_none (Ledger.read_of_data?_eq_none hfresh AccountData.tokenAccount?))
  have hfreshMint : l.mint? key = none := Ledger.read_of_data?_eq_none hfresh _
  have hbalance : ∀ m k, l'.balance m k = l.balance m k := fun m k => by
    rw [Ledger.balance_eq, Ledger.balance_eq, haccount]
  refine h.extend (fun hread => ?_) (fun hread => ?_) (fun hread => ?_)
  · rwa [hmint, Function.update_of_ne (Ledger.ne_of_read hread hfresh)]
  · rw [haccount] at hread
    exact .inl hread
  · rw [hmint, Function.update_apply] at hread
    split at hread
    · next hkey =>
      cases hread
      right
      rw [hkey, Ledger.holdings_congr (hbalance key), h.holdings_eq_zero hfreshMint, hsupply]
      exact ⟨rfl, by decide⟩
    · exact .inl ⟨hread, hbalance _⟩

theorem newAccount {key : Pubkey} {account : TokenAccount Pubkey} {mint : Mint Pubkey}
    (hfresh : l.data? key = none)
    (hdata : l'.data? = Function.update l.data? key (some (.tokenAccount account)))
    (hmintRead : l.mint? account.mint = some mint) (hprogram : mint.program = account.program)
    (hamount : account.amount = 0) (hthawed : account.isFrozen = false) : TokensValid l' := by
  have haccount : l'.tokenAccount? = Function.update l.tokenAccount? key (some account) :=
    Ledger.read_update hdata _
  have hmint : l'.mint? = l.mint? := (Ledger.read_update hdata _).trans
    (Ledger.update_none (Ledger.read_of_data?_eq_none hfresh AccountData.mint?))
  refine h.extend (fun hread => ?_) (fun hread => ?_) (fun hread => .inl ⟨?_, fun k => ?_⟩)
  · rwa [hmint]
  · rw [haccount, Function.update_apply] at hread
    split at hread
    · cases hread
      rw [hmint]
      exact .inr ⟨⟨mint, hmintRead, hprogram⟩, hthawed⟩
    · exact .inl hread
  · rwa [hmint] at hread
  · rw [Ledger.balance_eq, Ledger.balance_eq, haccount, Function.update_apply]
    split
    · next hk =>
      have hnone : l.tokenAccount? key = none := Ledger.read_of_data?_eq_none hfresh _
      rw [hk, hnone, Option.elim_some, Option.elim_none, hamount, ite_self]
    · rfl

/-- An account of a mint with a freeze authority may be frozen. -/
theorem setFrozen {key : Pubkey} {account : TokenAccount Pubkey} {record : Mint Pubkey}
    (haccount : l.tokenAccount? key = some account) (hrecord : l.mint? account.mint = some record)
    (hfreeze : record.freezeAuthority ≠ none) (isFrozen : Bool) :
    TokensValid (l.put key (.tokenAccount { account with isFrozen })) := by
  have hmint : (l.put key (.tokenAccount { account with isFrozen })).mint? = l.mint? :=
    (Ledger.put_read _ _ _ _).trans
      (Ledger.update_none (Ledger.read_of_data? (Ledger.tokenAccount?_eq_some.mp haccount) _))
  have hread : (l.put key (.tokenAccount { account with isFrozen })).tokenAccount? =
      Function.update l.tokenAccount? key (some { account with isFrozen }) :=
    Ledger.put_read _ _ _ _
  have hbalance : ∀ m k, (l.put key (.tokenAccount { account with isFrozen })).balance m k =
      l.balance m k := by
    intro m k
    rw [Ledger.balance_eq, Ledger.balance_eq, hread, Function.update_apply]
    split
    · next hk => rw [hk, haccount, Option.elim_some, Option.elim_some]
    · rfl
  constructor
  · intro k a ha
    rw [hread, Function.update_apply] at ha
    rw [hmint]
    split at ha
    · cases ha
      obtain ⟨mint, hmintRead, hprogram⟩ := h.account_mint haccount
      exact ⟨mint, hmintRead, hprogram⟩
    · exact h.account_mint ha
  · intro k a m ha hm hnone
    rw [hread, Function.update_apply] at ha
    rw [hmint] at hm
    split at ha
    · cases ha
      cases hrecord.symm.trans hm
      exact absurd hnone hfreeze
    · exact h.thawed ha hm hnone
  · intro k m hm
    rw [hmint] at hm
    rw [Ledger.holdings_congr (hbalance k), h.backed hm]
  · intro k m hm
    rw [hmint] at hm
    exact h.bounded hm

/-- Minting and burning keep the supply in step with the holdings. -/
theorem adjusted {key mint : Pubkey} {account : TokenAccount Pubkey} {record : Mint Pubkey}
    (haccount : l.tokenAccount? key = some account) (hmint : l.mint? mint = some record)
    (hsame : account.mint = mint) {n supply : ℕ}
    (hstep : supply + account.amount = record.supply + n) (hbounded : supply < u64Bound) :
    TokensValid ((l.setAmount key account n).setSupply mint record supply) := by
  refine h.of_sameTerms (.setAmount_setSupply haccount hmint n supply) fun {k m} hread => ?_
  have hholdings := Ledger.adjusted_holdings haccount hmint n supply k
  rw [Ledger.adjusted_mint? haccount, Function.update_apply] at hread
  split at hread
  · next hk =>
    cases hread
    rw [if_pos (hsame.trans hk.symm), if_pos (hsame.trans hk.symm), hk,
      ← h.backed hmint] at hholdings
    rw [hk]
    exact ⟨by simp only; omega, hbounded⟩
  · next hk =>
    have hne : account.mint ≠ k := fun he => hk (he.symm.trans hsame)
    rw [if_neg hne, if_neg hne, ← h.backed hread] at hholdings
    exact ⟨hholdings.symm, h.bounded hread⟩

theorem moved {source destination : Pubkey} {src dst : TokenAccount Pubkey}
    (hsrc : l.tokenAccount? source = some src) (hdst : l.tokenAccount? destination = some dst)
    (hmint : src.mint = dst.mint) {n : ℕ} (hfunds : n ≤ src.amount) :
    TokensValid (l.moved source destination src dst n) := by
  refine h.of_sameTerms (.moved hsrc hdst n) fun hread => ?_
  rw [Ledger.moved_mint? hsrc hdst] at hread
  rw [Ledger.moved_holdings hsrc hdst hmint hfunds]
  exact ⟨h.backed hread, h.bounded hread⟩

variable [Runtime Pubkey] {ctx : Context Pubkey}

theorem tokenize {accs : TokenizeAsset Pubkey} {totalSupply : ℕ} {config : GlobalConfig Pubkey}
    {asset : RwaAsset Pubkey} (heffect : accs.Effect ctx totalSupply config asset l l') :
    TokensValid l' := by
  have hfreshMint : l.mint? accs.mint = none := Ledger.read_of_data?_eq_none heffect.mint_fresh _
  have hfreshAccount : l.tokenAccount? accs.ownerTokenAccount = none :=
    Ledger.read_of_data?_eq_none heffect.account_fresh _
  -- Only the new account holds units of the new mint, and it holds no others.
  have hbalance : ∀ {m k}, k ≠ accs.ownerTokenAccount → l'.balance m k = l.balance m k := by
    intro m k hk
    rw [Ledger.balance_eq, Ledger.balance_eq, heffect.tokenAccount?, Function.update_of_ne hk]
  have hbalanceNew : ∀ m, l'.balance m accs.ownerTokenAccount =
      if accs.mint = m then totalSupply else 0 := by
    intro m
    rw [Ledger.balance_eq, heffect.tokenAccount?, Function.update_self]
    rfl
  refine h.extend (fun hread => ?_) (fun hread => ?_) (fun {key mint} hread => ?_)
  · rwa [heffect.mint?, Function.update_of_ne (Ledger.ne_of_read hread heffect.mint_fresh)]
  · rw [heffect.tokenAccount?, Function.update_apply] at hread
    split at hread
    · cases hread
      rw [heffect.mint?]
      exact .inr ⟨⟨_, Function.update_self _ _ _, rfl⟩, rfl⟩
    · exact .inl hread
  · rw [heffect.mint?, Function.update_apply] at hread
    split at hread
    · next hkey =>
      cases hread
      right
      rw [hkey, Ledger.holdings_of_single fun k hk =>
        (hbalance hk).trans (h.balance_eq_zero hfreshMint k), hbalanceNew, if_pos rfl]
      exact ⟨rfl, heffect.bounded⟩
    · next hkey =>
      refine .inl ⟨hread, fun k => ?_⟩
      by_cases hk : k = accs.ownerTokenAccount
      · rw [hk, hbalanceNew, if_neg (Ne.symm hkey), Ledger.balance_eq, hfreshAccount]
        rfl
      · exact hbalance hk

/-- Every token step keeps the invariant of the tokens. -/
theorem step {action : Action Pubkey} (hstep : TokenStep ctx l l' action) : TokensValid l' := by
  cases hstep with
  | idle _ same => exact h.of_sameTokens same
  | newMint fresh data => exact h.newMint fresh data rfl
  | newAccount _ record_eq record_program fresh data =>
      exact h.newAccount fresh data record_eq record_program rfl rfl
  | mintTo accepted after =>
      rw [after]
      exact h.adjusted accepted.account_eq accepted.record_eq accepted.mint_eq (by omega)
        accepted.supply_room
  | transfer accepted after =>
      rw [after]
      exact h.moved accepted.source_eq accepted.destination_eq accepted.mint_eq accepted.funds
  | burn accepted after =>
      have hfunds := accepted.funds
      have hsupply := accepted.supply_funds
      have hbounded := h.bounded accepted.record_eq
      rw [after]
      exact h.adjusted accepted.account_eq accepted.record_eq accepted.mint_eq (by omega)
        (by omega)
  | setFrozen account_eq record_eq authority_eq after =>
      rw [after]
      exact h.setFrozen account_eq record_eq (by rw [authority_eq]; exact Option.some_ne_none _) _
  | tokenize effect => exact h.tokenize effect
  | transferOwnership accepted after =>
      rw [after]
      exact h.moved accepted.transfer.source_eq accepted.transfer.destination_eq
        accepted.transfer.mint_eq accepted.transfer.funds
  | redeem accepted after =>
      have hfunds := accepted.burn.funds
      have hsupply := accepted.burn.supply_funds
      have hbounded := h.bounded accepted.burn.record_eq
      rw [after]
      exact h.adjusted accepted.burn.account_eq accepted.burn.record_eq accepted.burn.mint_eq
        (by omega) (by omega)

end TokensValid

end RwaTokenization
