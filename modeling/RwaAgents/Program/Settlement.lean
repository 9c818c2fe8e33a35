import RwaAgents.Program.Freeze
import RwaAgents.Program.Supply

/-!
# Settlement

A liquidated or redeemed asset is settled: the program refuses to tokenize it, to
transfer its units and to change its status.  It does not look at the status when
it redeems units, so their holders still burn them.

`settlement_final_iff` says that these redemptions change what is settled, and
that nothing else of the program does.
-/

namespace RwaTokenization

variable {Pubkey : Type} [DecidableEq Pubkey] [Runtime Pubkey] {ctx : Context Pubkey}
  {l l' : Ledger Pubkey} {action : Action Pubkey} {key mint : Pubkey}

/-- Is the action an instruction of the program? -/
def Action.isProgram : Action Pubkey → Bool
  | program _ => true
  | _ => false

/-- A step leaves the supply and all balances of the mint alone, and emits no
redemption of the asset. -/
structure SettlementKept (key mint : Pubkey) (e : ProgramStep Pubkey) : Prop where
  supply : e.after.supply mint = e.before.supply mint
  balances : ∀ k, e.after.balance mint k = e.before.balance mint k
  silent : ∀ mint' amount now, e.output ≠ .ok (some (.assetRedeemed key mint' amount now))

/-- The action redeems units of the asset, signed by their owner and funded. -/
def Action.RedeemsFunded (ctx : Context Pubkey) (l : Ledger Pubkey) (key mint : Pubkey) :
    Action Pubkey → Prop
  | program (.redeemAsset accs amount) =>
      accs.asset = key ∧ accs.mint = mint ∧ accs.tokenization = tokenizationPda key ∧
        ∃ account, l.Funded accs.tokenProgram ctx.signers accs.ownerTokenAccount mint accs.owner
          amount account
  | _ => False

/-- A redemption that is accepted is signed and funded. -/
theorem RedeemAsset.Accepted.redeemsFunded {accs : RedeemAsset Pubkey} {amount : ℕ}
    {asset : RwaAsset Pubkey} {tokenization : Tokenization Pubkey} {account : TokenAccount Pubkey}
    {record : Mint Pubkey} (h : accs.Accepted ctx amount asset tokenization account record l) :
    (Action.program (.redeemAsset accs amount)).RedeemsFunded ctx l accs.asset accs.mint :=
  ⟨rfl, rfl, h.tokenization_eq, account, h.burn.account_eq, h.burn.account_program, h.burn.mint_eq,
    h.burn.owner_eq, h.burn.signed, h.positive, h.burn.funds⟩

/-- Only a redemption of the asset emits one. -/
theorem Action.assetRedeemed_event {mint' : Pubkey} {amount' : ℕ} {now : ℤ}
    (h : (action.execute ctx).run l = .ok (some (.assetRedeemed key mint' amount' now)) l') :
    ∃ accs amount asset tokenization account record,
      action = .program (.redeemAsset accs amount) ∧ accs.asset = key ∧
      accs.Accepted ctx amount asset tokenization account record l := by
  cases action with
  | token p instruction =>
      cases (Action.token_ok.mp h).1
  | systemTransfer _ _ _ =>
      cases (Action.systemTransfer_ok.mp h).1
  | program instruction =>
      cases instruction with
      | initializeConfig accs params => cases (Initialize.effect h).1
      | registerAsset accs args => cases (RegisterAsset.effect h).1
      | tokenizeAsset accs totalSupply => cases (TokenizeAsset.effect h).1
      | transferOwnership accs amount =>
          obtain ⟨_, _, _, _, -, hevent, -⟩ := TransferOwnership.execute_ok.mp h
          cases hevent
      | updateAssetMetadata accs args =>
          obtain ⟨_, -, hevent, -⟩ := UpdateAssetMetadata.execute_ok.mp h
          cases hevent
      | verifyOwnership accs => cases (VerifyOwnership.execute_ok.mp h).2.1
      | redeemAsset accs amount =>
          obtain ⟨asset, tokenization, account, record, haccepted, hevent, -⟩ :=
            RedeemAsset.execute_ok.mp h
          cases hevent
          exact ⟨accs, _, asset, tokenization, account, record, rfl, rfl, haccepted⟩
      | setAssetStatus accs status =>
          obtain ⟨_, -, hevent, -⟩ := SetAssetStatus.execute_ok.mp h
          cases hevent

namespace LedgerValid

variable (h : LedgerValid l) {P : AssetStatus → Prop} (hasset : l.TokenizedWith P key mint)

include h hasset

/-- The mint of an asset is redeemed through the asset only. -/
theorem redeem_asset_eq {accs : RedeemAsset Pubkey} {amount : ℕ} {asset : RwaAsset Pubkey}
    {tokenization : Tokenization Pubkey} {account : TokenAccount Pubkey} {record : Mint Pubkey}
    (haccepted : accs.Accepted ctx amount asset tokenization account record l) :
    accs.asset = key ↔ accs.mint = mint := by
  obtain ⟨asset', hread, htokenized, hmint, -⟩ := hasset
  constructor
  · intro hkey
    rw [← hkey, haccepted.asset_read] at hread
    cases hread
    exact Option.some.inj (haccepted.asset_mint.symm.trans hmint)
  · intro hsame
    exact h.asset_mint_inj haccepted.asset_read hread haccepted.tokenized htokenized
      (haccepted.asset_mint.trans (hsame ▸ hmint.symm))

/-- The program accepts every funded redemption of units of an asset. -/
theorem redeemAccepted {accs : RedeemAsset Pubkey} {amount : ℕ} {account : TokenAccount Pubkey}
    (hkey : accs.asset = key) (hmint : accs.mint = mint)
    (htokenization : accs.tokenization = tokenizationPda key)
    (hfunded : l.Funded accs.tokenProgram ctx.signers accs.ownerTokenAccount mint accs.owner amount
      account) :
    ∃ asset tokenization record, accs.Accepted ctx amount asset tokenization account record l := by
  obtain ⟨tokenization, record, ht, hsame, hrecord, hfreeze⟩ := h.exists_mint hasset
  obtain ⟨asset, hread, htokenized, hassetMint, -⟩ := hasset
  have hrecordAccount : l.mint? account.mint = some record := by rwa [hfunded.mint_eq]
  have hprogram : record.program = accs.tokenProgram := by
    obtain ⟨record', hrecord', hprogram'⟩ := h.tokens.account_mint hfunded.account_eq
    cases hrecordAccount.symm.trans hrecord'
    rw [hprogram', hfunded.account_program]
  have hsupply : amount ≤ record.supply := by
    have hbalance := Ledger.balance_le_holdings l mint accs.ownerTokenAccount
    rw [Ledger.balance_of_account hfunded.account_eq, if_pos hfunded.mint_eq,
      ← h.tokens.backed hrecord] at hbalance
    exact Nat.le_trans hfunded.funds hbalance
  subst hkey hmint
  exact ⟨asset, tokenization, record, hread, h.records.asset_eq hread, htokenized,
    htokenization ▸ ht, htokenization, hassetMint, hsame, hfunded.positive, hfunded.account_eq,
    hfunded.account_program, hrecord, hprogram,
    h.tokens.thawed hfunded.account_eq hrecordAccount hfreeze, hfunded.funds, hfunded.mint_eq,
    hfunded.owner_eq, hfunded.signed, hsupply⟩

end LedgerValid

/-- An instruction of the program that is no funded redemption of an asset leaves
its supply and balances alone, unless the asset is active. -/
theorem TokenStep.settled (h : TokenStep ctx l l' action) (hvalid : LedgerValid l)
    {P : AssetStatus → Prop} (hactive : ¬ P .active) (hasset : l.TokenizedWith P key mint)
    (hprogram : action.isProgram = true) (hredeem : ¬ action.RedeemsFunded ctx l key mint) :
    l'.supply mint = l.supply mint ∧ ∀ k, l'.balance mint k = l.balance mint k := by
  obtain ⟨-, record, -, -, hrecord, -⟩ := hvalid.exists_mint hasset
  cases h with
  | newMint _ _ => cases hprogram
  | newAccount _ _ _ _ _ => cases hprogram
  | mintTo _ _ => cases hprogram
  | transfer _ _ => cases hprogram
  | burn _ _ => cases hprogram
  | setFrozen _ _ _ _ => cases hprogram
  | idle _ same =>
      refine ⟨Ledger.supply_congr (congrFun same.mints mint), fun k => ?_⟩
      rw [Ledger.balance_eq, Ledger.balance_eq, same.accounts]
  | tokenize effect =>
      have hne := Ledger.ne_of_read hrecord effect.mint_fresh
      constructor
      · rw [Ledger.supply_of_update effect.mint?, if_neg hne]
      · intro k
        rw [Ledger.balance_of_update effect.tokenAccount?]
        split
        · next hk =>
          have hfresh := Ledger.read_of_data?_eq_none effect.account_fresh AccountData.tokenAccount?
          rw [hk, Ledger.balance_eq, show l.tokenAccount? _ = none from hfresh]
          exact if_neg hne.symm
        · rfl
  | transferOwnership accepted after =>
      have htransfer := accepted.transfer
      have hne := hvalid.transferOwnership_mint_ne hasset hactive accepted
      have hsrc : _ ≠ mint := htransfer.checked_by.1 ▸ hne
      have hdst : _ ≠ mint := htransfer.mint_eq ▸ hsrc
      rw [after]
      exact ⟨Ledger.supply_congr
          (congrFun (Ledger.moved_mint? htransfer.source_eq htransfer.destination_eq _) mint),
        Ledger.moved_balance_of_ne htransfer.source_eq htransfer.destination_eq hsrc hdst _⟩
  | redeem accepted after =>
      have hne : _ ≠ mint := fun he => hredeem <| by
        have hkey := (hvalid.redeem_asset_eq hasset accepted).mpr he
        have hfunded := accepted.redeemsFunded
        rwa [hkey, he] at hfunded
      rw [after]
      constructor
      · rw [Ledger.supply_of_update (Ledger.adjusted_mint? accepted.burn.account_eq _ _),
          if_neg (Ne.symm hne)]
      · exact Ledger.adjusted_balance_of_ne accepted.burn.account_eq accepted.burn.record_eq
          (accepted.burn.mint_eq ▸ hne) _ _

/-- An instruction of the program leaves an asset that is not active as it is, if
and only if it is no funded redemption of it. -/
theorem settlementKept_iff (h : LedgerValid l) {P : AssetStatus → Prop} (hactive : ¬ P .active)
    (hasset : l.TokenizedWith P key mint) (tx : Transaction Pubkey)
    (hprogram : tx.action.isProgram = true) :
    SettlementKept key mint (programMachine.stepAt l tx) ↔
      ¬ tx.action.RedeemsFunded tx.ctx l key mint := by
  constructor
  · intro hkept hredeem
    obtain ⟨ctx, action⟩ := tx
    cases action with
    | token _ _ => cases hprogram
    | systemTransfer _ _ _ => cases hprogram
    | program instruction =>
        cases instruction with
        | redeemAsset accs amount =>
            obtain ⟨hkey, hmint, htokenization, account, hfunded⟩ := hredeem
            obtain ⟨asset, tokenization, record, haccepted⟩ :=
              h.redeemAccepted hasset hkey hmint htokenization hfunded
            have hrun : ((Action.program (.redeemAsset accs amount)).execute ctx).run l = _ :=
              RedeemAsset.execute_ok.mpr
                ⟨asset, tokenization, account, record, haccepted, rfl, rfl⟩
            have houtput := congrArg Prod.snd (transact_of_ok hrun)
            rw [hkey] at houtput
            exact hkept.silent _ _ _ houtput
        | _ => exact hredeem.elim
  · intro hredeem
    have hsilent : ∀ mint' amount now,
        (programMachine.stepAt l tx).output ≠ .ok (some (.assetRedeemed key mint' amount now)) := by
      intro mint' amount now houtput
      rcases transact_cases l tx with ⟨event, after, hrun, he⟩ | ⟨err, he⟩
      · cases (congrArg Prod.snd he).symm.trans houtput
        obtain ⟨accs, _, _, _, _, _, haction, hkey, haccepted⟩ := Action.assetRedeemed_event hrun
        refine hredeem ?_
        have hfunded := haccepted.redeemsFunded
        rw [hkey, (h.redeem_asset_eq hasset haccepted).mp hkey] at hfunded
        rwa [haction]
      · cases (congrArg Prod.snd he).symm.trans houtput
    rcases transact_tokenStep l tx with ⟨_, -, hstep⟩ | ⟨err, herr⟩
    · obtain ⟨hsupply, hbalances⟩ := hstep.settled h hactive hasset hprogram hredeem
      exact ⟨hsupply, hbalances, hsilent⟩
    · have hsame : (programMachine.stepAt l tx).after = l := next_of_error herr
      exact ⟨by rw [hsame]; rfl, fun k => by rw [hsame]; rfl, hsilent⟩

/-- In a run the program leaves every liquidated or redeemed asset settled, if and
only if no step is a redemption of units of one, signed and funded. -/
theorem settlement_final_iff (hstart : programMachine.start l) (txs : List (Transaction Pubkey)) :
    (∀ e ∈ programMachine.steps l txs, ∀ key mint,
      e.before.TokenizedWith AssetStatus.IsTerminal key mint →
        e.action.action.isProgram = true → SettlementKept key mint e) ↔
    ∀ e ∈ programMachine.steps l txs, ∀ key mint,
      e.before.TokenizedWith AssetStatus.IsTerminal key mint →
        ¬ e.action.action.RedeemsFunded e.action.ctx e.before key mint := by
  have hprogram : ∀ {action : Action Pubkey} {ctx : Context Pubkey} {l : Ledger Pubkey}
      {key mint : Pubkey}, action.RedeemsFunded ctx l key mint → action.isProgram = true := by
    intro action ctx l key mint hredeem
    cases action with
    | program _ => rfl
    | token _ _ => exact hredeem.elim
    | systemTransfer _ _ _ => exact hredeem.elim
  refine (Machine.Reachable.start hstart).forall_steps_congr (fun l tx hreach => ?_) txs
  refine forall₃_congr fun key mint hasset => ?_
  have hiff := settlementKept_iff (valid_of_reachable hreach) (by decide) hasset tx
  exact ⟨fun hkept hredeem => (hiff (hprogram hredeem)).mp (hkept (hprogram hredeem)) hredeem,
    fun hredeem hisProgram => (hiff hisProgram).mpr hredeem⟩

namespace Address

/-- The sample asset is tokenized and liquidated. -/
def liquidateHouse : List (Transaction Address) :=
  registerHouse ++ [tokenizeHouse, setHouseStatus .liquidated]

theorem liquidateHouse_tokenizedWith : (programMachine.run genesis liquidateHouse).TokenizedWith
    AssetStatus.IsTerminal house houseMint :=
  ⟨{ houseAsset with status := .liquidated }, by decide, rfl, rfl, .inl rfl⟩

end Address

/-- Nothing happens to the liquidated asset when its owner sets its status again. -/
theorem settlement_final_iff_house :
    SettlementKept Address.house Address.houseMint (programMachine.stepAt
      (programMachine.run Address.genesis Address.liquidateHouse)
      (Address.setHouseStatus .active)) := by
  have hquiet : ∀ e ∈ programMachine.steps Address.genesis
      (Address.liquidateHouse ++ [Address.setHouseStatus .active]), ∀ key mint,
      e.before.TokenizedWith AssetStatus.IsTerminal key mint →
        ¬ e.action.action.RedeemsFunded e.action.ctx e.before key mint := by
    rw [Address.liquidateHouse, Address.registerHouse]
    simp only [List.cons_append, List.nil_append, Machine.steps_cons, Machine.steps_nil,
      List.forall_mem_cons]
    exact ⟨fun _ _ _ => id, fun _ _ _ => id, fun _ _ _ => id, fun _ _ _ => id, fun _ _ _ => id,
      fun e he => absurd he List.not_mem_nil⟩
  exact (settlement_final_iff (l := Address.genesis) rfl _).mpr hquiet _
    (Machine.stepAt_mem_steps _ Address.liquidateHouse _ []) _ _
    Address.liquidateHouse_tokenizedWith rfl

/-- The owner redeems seven units of the liquidated asset. -/
theorem liquidated_house_redeemed :
    ¬ ∀ e ∈ programMachine.steps Address.genesis
        (Address.liquidateHouse ++ [Address.redeemHouse 7]), ∀ key mint,
      e.before.TokenizedWith AssetStatus.IsTerminal key mint →
        e.action.action.isProgram = true → SettlementKept key mint e := by
  intro h
  have hkept := h _ (Machine.stepAt_mem_steps _ Address.liquidateHouse _ []) _ _
    Address.liquidateHouse_tokenizedWith rfl
  refine hkept.silent Address.houseMint 7 0 ?_
  show (transact (programMachine.run Address.genesis Address.liquidateHouse)
    (Address.redeemHouse 7)).2 = .ok (some (.assetRedeemed Address.house Address.houseMint 7 0))
  decide

end RwaTokenization
