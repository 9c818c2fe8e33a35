import RwaAgents.Program.RecordSafety

/-!
# Freezing

The program refuses to transfer an asset that is not active.  Its holders can
also call the token program, and the token program refuses a transfer only if an
account is frozen.  The mint of an asset has no freeze authority, so no account
of it ever is.

`freeze_effective_iff` says that units of a frozen asset move in such direct
transfers, and in nothing else.  A transfer is signed by the owner of the
account: delegates and multisig owners, who sign for an owner on the chain, are
outside the model.
-/

namespace RwaTokenization

variable {Pubkey : Type} [DecidableEq Pubkey]

/-- Someone lost units of the mint and someone got some. -/
def UnitsMoved (l l' : Ledger Pubkey) (mint : Pubkey) : Prop :=
  ∃ source destination, l'.balance mint source < l.balance mint source ∧
    l.balance mint destination < l'.balance mint destination

namespace Ledger

variable {l l' : Ledger Pubkey}

/-- The asset at an address is tokenized with this mint and has such a status. -/
def TokenizedWith (l : Ledger Pubkey) (P : AssetStatus → Prop) (key mint : Pubkey) : Prop :=
  ∃ asset, l.rwaAsset? key = some asset ∧ asset.isTokenized = true ∧ asset.mint = some mint ∧
    P asset.status

/-- The authority signs and owns a token account of the mint that holds the
amount, which is not zero. -/
structure Funded (l : Ledger Pubkey) (p : TokenProgram) (signers : List Pubkey)
    (source mint authority : Pubkey) (amount : ℕ) (account : TokenAccount Pubkey) : Prop where
  account_eq : l.tokenAccount? source = some account
  account_program : account.program = p
  mint_eq : account.mint = mint
  owner_eq : account.owner = authority
  signed : authority ∈ signers
  positive : 0 < amount
  funds : amount ≤ account.amount

end Ledger

namespace UnitsMoved

variable {l l' : Ledger Pubkey} {mint : Pubkey}

theorem not_of_le (h : ∀ key, l.balance mint key ≤ l'.balance mint key) :
    ¬ UnitsMoved l l' mint :=
  fun ⟨source, _, hless, _⟩ => absurd (h source) (Nat.not_le_of_lt hless)

theorem not_of_ge (h : ∀ key, l'.balance mint key ≤ l.balance mint key) :
    ¬ UnitsMoved l l' mint :=
  fun ⟨_, destination, _, hmore⟩ => absurd (h destination) (Nat.not_le_of_lt hmore)

theorem not_of_eq (h : ∀ key, l'.balance mint key = l.balance mint key) :
    ¬ UnitsMoved l l' mint :=
  not_of_ge fun key => Nat.le_of_eq (h key)

/-- A new account takes nothing from anyone. -/
theorem not_of_fresh {key : Pubkey} {account : TokenAccount Pubkey}
    (hfresh : l.tokenAccount? key = none)
    (h : l'.tokenAccount? = Function.update l.tokenAccount? key (some account)) :
    ¬ UnitsMoved l l' mint := by
  refine not_of_le fun k => ?_
  rw [Ledger.balance_of_update h]
  split
  · next hk =>
    rw [hk, Ledger.balance_eq, hfresh]
    exact Nat.zero_le _
  · exact Nat.le_refl _

/-- If the amount of one account changes, someone lost or someone got units, not
both. -/
theorem not_of_adjusted {key other : Pubkey} {account : TokenAccount Pubkey}
    {record : Mint Pubkey} {n supply : ℕ} (haccount : l.tokenAccount? key = some account)
    (hrecord : l.mint? other = some record)
    (hafter : l' = (l.setAmount key account n).setSupply other record supply) :
    ¬ UnitsMoved l l' mint := by
  have h := Ledger.adjusted_tokenAccount? haccount hrecord n supply
  rw [← hafter] at h
  have hbefore : ∀ k, l.balance mint k =
      if k = key then if account.mint = mint then account.amount else 0
      else l.balance mint k := by
    intro k
    split
    · next hk => rw [hk, Ledger.balance_of_account haccount]
    · rfl
  rcases Nat.le_total account.amount n with hle | hle
  · refine not_of_le fun k => ?_
    rw [hbefore, Ledger.balance_of_update h]
    split_ifs
    · exact hle
    · exact Nat.le_refl _
    · exact Nat.le_refl _
  · refine not_of_ge fun k => ?_
    rw [hbefore, Ledger.balance_of_update h]
    split_ifs
    · exact hle
    · exact Nat.le_refl _
    · exact Nat.le_refl _

/-- If units moved in a transfer, it is one of the mint between two accounts, of
more than nothing. -/
theorem of_moved {source destination : Pubkey} {src dst : TokenAccount Pubkey} {n : ℕ}
    (hsrc : l.tokenAccount? source = some src) (hdst : l.tokenAccount? destination = some dst)
    (hmint : src.mint = dst.mint) (h : UnitsMoved l (l.moved source destination src dst n) mint) :
    source ≠ destination ∧ 0 < n ∧ src.mint = mint := by
  have hne : source ≠ destination := fun he => by
    rw [Ledger.moved, if_pos he] at h
    exact not_of_eq (fun _ => rfl) h
  refine ⟨hne, Nat.pos_of_ne_zero fun hzero => ?_, ?_⟩
  · refine not_of_eq (fun k => ?_) h
    rw [Ledger.balance_eq, Ledger.balance_eq, Ledger.moved_tokenAccount? hne, hzero,
      Function.update_apply, Function.update_apply]
    split
    · next hk => rw [hk, hdst]; rfl
    · split
      · next hk => rw [hk, hsrc]; rfl
      · rfl
  · by_contra hother
    exact not_of_eq (Ledger.moved_balance_of_ne hsrc hdst hother (hmint ▸ hother) n) h

theorem moved {source destination : Pubkey} {src dst : TokenAccount Pubkey} {n : ℕ}
    (hne : source ≠ destination) (hsrc : l.tokenAccount? source = some src)
    (hdst : l.tokenAccount? destination = some dst) (hsrcMint : src.mint = mint)
    (hdstMint : dst.mint = mint) (hpositive : 0 < n) (hfunds : n ≤ src.amount) :
    UnitsMoved l (l.moved source destination src dst n) mint := by
  refine ⟨source, destination, ?_, ?_⟩
  · have hafter : (l.moved source destination src dst n).balance src.mint source = src.amount - n :=
      Ledger.moved_balance_source hne n
    rw [← hsrcMint, hafter, Ledger.balance_of_account hsrc, if_pos rfl]
    exact Nat.sub_lt_of_pos_le hpositive hfunds
  · have hafter : (l.moved source destination src dst n).balance dst.mint destination =
        dst.amount + n := Ledger.moved_balance_destination hne n
    rw [← hdstMint, hafter, Ledger.balance_of_account hdst, if_pos rfl]
    exact Nat.lt_add_of_pos_right hpositive

end UnitsMoved

variable [Runtime Pubkey] {ctx : Context Pubkey} {l l' : Ledger Pubkey} {action : Action Pubkey}
  {key mint : Pubkey}

/-- Units move in transfers only, direct ones or those of the program. -/
theorem TokenStep.unitsMoved_cases (h : TokenStep ctx l l' action)
    (hmoved : UnitsMoved l l' mint) :
    (∃ p source destination authority amount checked src dst,
      action = .token p (.transfer source destination authority amount checked) ∧
      l.TransferAccepted p ctx.signers source destination authority amount checked src dst ∧
      source ≠ destination ∧ 0 < amount ∧ src.mint = mint) ∨
    ∃ accs amount asset record src dst, action = .program (.transferOwnership accs amount) ∧
      accs.Accepted ctx amount asset record src dst l ∧ accs.mint = mint := by
  cases h with
  | idle _ same =>
      refine absurd hmoved (UnitsMoved.not_of_eq fun k => ?_)
      rw [Ledger.balance_eq, Ledger.balance_eq, same.accounts]
  | newMint fresh data =>
      have haccount := (Ledger.read_update data AccountData.tokenAccount?).trans
        (Ledger.update_none (Ledger.read_of_data?_eq_none fresh _))
      refine absurd hmoved (UnitsMoved.not_of_eq fun k => ?_)
      rw [Ledger.balance_eq, Ledger.balance_eq, Ledger.tokenAccount?, haccount]
      rfl
  | newAccount _ _ _ fresh data =>
      exact absurd hmoved (UnitsMoved.not_of_fresh (Ledger.read_of_data?_eq_none fresh _)
        (Ledger.read_update data _))
  | mintTo accepted after =>
      exact absurd hmoved
        (UnitsMoved.not_of_adjusted accepted.account_eq accepted.record_eq after)
  | @transfer p source destination authority amount checked src dst accepted after =>
      rw [after] at hmoved
      obtain ⟨hne, hpositive, hmint⟩ :=
        hmoved.of_moved accepted.source_eq accepted.destination_eq accepted.mint_eq
      exact .inl ⟨p, source, destination, authority, amount, checked, src, dst, rfl, accepted, hne,
        hpositive, hmint⟩
  | burn accepted after =>
      exact absurd hmoved
        (UnitsMoved.not_of_adjusted accepted.account_eq accepted.record_eq after)
  | setFrozen account_eq _ _ after =>
      refine absurd hmoved (UnitsMoved.not_of_eq fun k => ?_)
      rw [after, Ledger.balance_of_update (Ledger.putAccount_tokenAccount? _ _ _)]
      split
      · next hk => rw [hk, Ledger.balance_of_account account_eq]
      · rfl
  | tokenize effect =>
      exact absurd hmoved (UnitsMoved.not_of_fresh
        (Ledger.read_of_data?_eq_none effect.account_fresh _) effect.tokenAccount?)
  | @transferOwnership accs amount asset record src dst accepted after =>
      rw [after] at hmoved
      have htransfer := accepted.transfer
      obtain ⟨-, -, hmint⟩ :=
        hmoved.of_moved htransfer.source_eq htransfer.destination_eq htransfer.mint_eq
      exact .inr ⟨accs, amount, asset, record, src, dst, rfl, accepted,
        htransfer.checked_by.1.symm.trans hmint⟩
  | redeem accepted after =>
      exact absurd hmoved
        (UnitsMoved.not_of_adjusted accepted.burn.account_eq accepted.burn.record_eq after)

namespace LedgerValid

variable (h : LedgerValid l) {P : AssetStatus → Prop} (hasset : l.TokenizedWith P key mint)

include h hasset

/-- The tokenization and the mint of a tokenized asset. -/
theorem exists_mint : ∃ tokenization record,
    l.tokenization? (tokenizationPda key) = some tokenization ∧ tokenization.mint = mint ∧
      l.mint? mint = some record ∧ record.freezeAuthority = none := by
  obtain ⟨asset, hread, htokenized, hmint, -⟩ := hasset
  obtain ⟨tokenization, ht, hfor⟩ := h.records.exists_tokenization hread htokenized
  have hsame : tokenization.mint = mint := Option.some.inj (hfor.mint_eq.symm.trans hmint)
  obtain ⟨record, hrecord, -, hfreeze⟩ := h.minted ht
  exact ⟨tokenization, record, ht, hsame, hsame ▸ hrecord, hfreeze⟩

/-- The program transfers units of active assets only. -/
theorem transferOwnership_mint_ne (hactive : ¬ P .active) {accs : TransferOwnership Pubkey}
    {amount : ℕ} {asset : RwaAsset Pubkey} {record : Mint Pubkey} {src dst : TokenAccount Pubkey}
    (haccepted : accs.Accepted ctx amount asset record src dst l) : accs.mint ≠ mint := by
  intro he
  obtain ⟨asset', hread, htokenized, hmint, hstatus⟩ := hasset
  have hkey := h.asset_mint_inj haccepted.asset_read hread haccepted.tokenized htokenized
    (haccepted.asset_mint.trans (he ▸ hmint.symm))
  rw [← hkey, haccepted.asset_read] at hread
  cases hread
  rw [haccepted.active] at hstatus
  exact hactive hstatus

/-- The token program accepts every funded transfer of units of an asset. -/
theorem transferAccepted {p : TokenProgram} {signers : List Pubkey}
    {source destination authority : Pubkey} {amount : ℕ} {checked : Option (Pubkey × ℕ)}
    {src dst : TokenAccount Pubkey}
    (hfunded : l.Funded p signers source mint authority amount src)
    (hdst : l.tokenAccount? destination = some dst) (hdstMint : dst.mint = mint)
    (hchecked : l.Checked p src checked) :
    l.TransferAccepted p signers source destination authority amount checked src dst := by
  obtain ⟨-, record, -, -, hrecord, hfreeze⟩ := h.exists_mint hasset
  have hrecordSrc : l.mint? src.mint = some record := by rwa [hfunded.mint_eq]
  have hrecordDst : l.mint? dst.mint = some record := by rwa [hdstMint]
  -- Both accounts belong to the program of the mint.
  have hprogram : dst.program = p := by
    obtain ⟨record₁, hrecord₁, hprogram₁⟩ := h.tokens.account_mint hfunded.account_eq
    obtain ⟨record₂, hrecord₂, hprogram₂⟩ := h.tokens.account_mint hdst
    cases hrecordSrc.symm.trans hrecord₁
    cases hrecordDst.symm.trans hrecord₂
    rw [← hprogram₂, hprogram₁, hfunded.account_program]
  -- The destination has room, because the supply has.
  have hroom : source ≠ destination → dst.amount + amount < u64Bound := by
    intro hne
    have hbalances := Ledger.balance_add_le_holdings l hne mint
    rw [Ledger.balance_of_account hfunded.account_eq, Ledger.balance_of_account hdst,
      if_pos hfunded.mint_eq, if_pos hdstMint, ← h.tokens.backed hrecord] at hbalances
    have hbounded := h.tokens.bounded hrecord
    have hfunds := hfunded.funds
    omega
  exact ⟨hfunded.account_eq, hfunded.account_program,
    h.tokens.thawed hfunded.account_eq hrecordSrc hfreeze, hdst, hprogram,
    h.tokens.thawed hdst hrecordDst hfreeze, hfunded.funds, hfunded.mint_eq.trans hdstMint.symm,
    hchecked, hfunded.owner_eq, hfunded.signed, hroom⟩

end LedgerValid

/-- The action is a direct transfer of units of the mint between two accounts,
signed by the owner and funded.  No delegate signs for the owner. -/
def Action.MovesFunded (ctx : Context Pubkey) (l : Ledger Pubkey) (mint : Pubkey) :
    Action Pubkey → Prop
  | token p (.transfer source destination authority amount checked) =>
      source ≠ destination ∧ ∃ src dst,
        l.Funded p ctx.signers source mint authority amount src ∧
        l.tokenAccount? destination = some dst ∧ dst.mint = mint ∧ l.Checked p src checked
  | _ => False

/-- Units of an asset that is not active move exactly in its direct transfers. -/
theorem unitsMoved_iff (h : LedgerValid l) {P : AssetStatus → Prop} (hactive : ¬ P .active)
    (hasset : l.TokenizedWith P key mint) (tx : Transaction Pubkey) :
    UnitsMoved l (transact l tx).1 mint ↔ tx.action.MovesFunded tx.ctx l mint := by
  constructor
  · intro hmoved
    rcases transact_tokenStep l tx with ⟨_, -, hstep⟩ | ⟨err, herr⟩
    · rcases hstep.unitsMoved_cases hmoved with
        ⟨p, source, destination, authority, amount, checked, src, dst, haction, haccepted, hne,
          hpositive, hmint⟩ | ⟨accs, amount, asset, record, src, dst, -, haccepted, hmint⟩
      · rw [haction]
        exact ⟨hne, src, dst, ⟨haccepted.source_eq, haccepted.source_program, hmint,
          haccepted.owner_eq, haccepted.signed, hpositive, haccepted.funds⟩,
          haccepted.destination_eq, haccepted.mint_eq.symm.trans hmint, haccepted.checked_by⟩
      · exact absurd hmint (h.transferOwnership_mint_ne hasset hactive haccepted)
    · rw [herr] at hmoved
      exact absurd hmoved (UnitsMoved.not_of_eq fun _ => rfl)
  · intro hmoves
    obtain ⟨ctx, action⟩ := tx
    cases action with
    | program _ => exact hmoves.elim
    | systemTransfer _ _ _ => exact hmoves.elim
    | token p instruction =>
        cases instruction with
        | transfer source destination authority amount checked =>
            obtain ⟨hne, src, dst, hfunded, hdst, hdstMint, hchecked⟩ := hmoves
            have haccepted := h.transferAccepted hasset hfunded hdst hdstMint hchecked
            have hrun : ((Action.token p (.transfer source destination authority amount
                checked)).execute ctx).run l = _ :=
              Action.token_ok.mpr
                ⟨rfl, TokenProgram.transfer_ok.mpr ⟨src, dst, haccepted, rfl⟩⟩
            rw [transact_of_ok hrun]
            exact .moved hne hfunded.account_eq hdst hfunded.mint_eq hdstMint hfunded.positive
              hfunded.funds
        | _ => exact hmoves.elim

/-- In a run no units of a frozen asset move, if and only if no step is a direct
transfer of them, signed and funded. -/
theorem freeze_effective_iff (hstart : programMachine.start l) (txs : List (Transaction Pubkey)) :
    (∀ e ∈ programMachine.steps l txs, ∀ key mint,
      e.before.TokenizedWith (· = .frozen) key mint → ¬ UnitsMoved e.before e.after mint) ↔
    ∀ e ∈ programMachine.steps l txs, ∀ key mint,
      e.before.TokenizedWith (· = .frozen) key mint →
        ¬ e.action.action.MovesFunded e.action.ctx e.before mint := by
  refine (Machine.Reachable.start hstart).forall_steps_congr (fun l tx hreach => ?_) txs
  refine forall₃_congr fun key mint hasset => not_congr ?_
  exact unitsMoved_iff (valid_of_reachable hreach) (by decide) hasset tx

namespace Address

/-- The sample asset is tokenized, gets a second holder and is frozen. -/
def freezeHouse : List (Transaction Address) :=
  registerHouse ++ [tokenizeHouse, openHouseAccount 11, setHouseStatus .frozen]

/-- A transfer of five units by the program. -/
def transferHouse : Transaction Address :=
  program [10] (.transferOwnership ⟨house, .key 10, houseAccount 10, houseAccount 11, houseMint,
    .token⟩ 5)

/-- A transfer of five units by the token program. -/
def transferHouseDirectly : Transaction Address :=
  token [10] (.transfer (houseAccount 10) (houseAccount 11) (.key 10) 5 none)

theorem freezeHouse_tokenizedWith : (programMachine.run genesis freezeHouse).TokenizedWith
    (· = .frozen) house houseMint :=
  ⟨{ houseAsset with status := .frozen }, by decide, rfl, rfl, rfl⟩

end Address

/-- The program moves no units of the frozen asset. -/
theorem freeze_effective_iff_house :
    ¬ UnitsMoved (programMachine.run Address.genesis Address.freezeHouse)
      (programMachine.run Address.genesis (Address.freezeHouse ++ [Address.transferHouse]))
      Address.houseMint := by
  have hquiet : ∀ e ∈ programMachine.steps Address.genesis
      (Address.freezeHouse ++ [Address.transferHouse]), ∀ key mint,
      e.before.TokenizedWith (· = .frozen) key mint →
        ¬ e.action.action.MovesFunded e.action.ctx e.before mint := by
    rw [Address.freezeHouse, Address.registerHouse]
    simp only [List.cons_append, List.nil_append, Machine.steps_cons, Machine.steps_nil,
      List.forall_mem_cons]
    exact ⟨fun _ _ _ => id, fun _ _ _ => id, fun _ _ _ => id, fun _ _ _ => id, fun _ _ _ => id,
      fun _ _ _ => id, fun e he => absurd he List.not_mem_nil⟩
  rw [Machine.run_append]
  exact (freeze_effective_iff (l := Address.genesis) rfl _).mpr hquiet _
    (Machine.stepAt_mem_steps _ Address.freezeHouse _ []) _ _ Address.freezeHouse_tokenizedWith

/-- Five units of the frozen asset move in a direct transfer. -/
theorem frozen_house_moves :
    ¬ ∀ e ∈ programMachine.steps Address.genesis
        (Address.freezeHouse ++ [Address.transferHouseDirectly]),
      ∀ key mint, e.before.TokenizedWith (· = .frozen) key mint →
        ¬ UnitsMoved e.before e.after mint := by
  intro h
  refine h _ (Machine.stepAt_mem_steps _ Address.freezeHouse _ []) _ _
    Address.freezeHouse_tokenizedWith ⟨Address.houseAccount 10, Address.houseAccount 11, ?_, ?_⟩
  · show ((transact (programMachine.run Address.genesis Address.freezeHouse)
      Address.transferHouseDirectly).1.balance Address.houseMint (Address.houseAccount 10) <
        (programMachine.run Address.genesis Address.freezeHouse).balance Address.houseMint
          (Address.houseAccount 10))
    decide
  · show ((programMachine.run Address.genesis Address.freezeHouse).balance Address.houseMint
      (Address.houseAccount 11) <
        (transact (programMachine.run Address.genesis Address.freezeHouse)
          Address.transferHouseDirectly).1.balance Address.houseMint (Address.houseAccount 11))
    decide

end RwaTokenization
