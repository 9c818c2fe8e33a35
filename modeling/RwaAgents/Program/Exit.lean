import RwaAgents.Program.Settlement

/-!
# The way out of an asset

A holder leaves an asset by redeeming.  Nothing about the asset stands in the way: a
redemption looks at no status, nobody can freeze an account of the mint, and the
supply covers every balance.

What never leaves are the units of an owner for whom nobody signs.  Which addresses can sign
is not known on the chain: an address the program derives cannot, and neither can one that
another program derives.  So the addresses that can are a set `S` without the addresses of
this program, and the units of all other owners are `locked`.  From every reachable ledger
the owners in `S` can bring the supply down to the locked units, and no run that only `S`
signs brings it lower (`exit_plan`).

The token programs let anyone burn from an account of the system program or of the
incinerator, and let delegates and the signers of a multisig account act for an owner.
Those burns are not part of the model.
-/

namespace RwaTokenization

variable {Pubkey : Type} [DecidableEq Pubkey] [Runtime Pubkey] {ctx : Context Pubkey}
  {l l' : Ledger Pubkey} {key place : Pubkey} {account : TokenAccount Pubkey}

/-! ## Units by the owner of the account -/

open Classical in
/-- The units of a mint in an account whose owner satisfies `P`. -/
noncomputable def TokenAccount.units (P : Pubkey → Prop) (mint : Pubkey)
    (account : TokenAccount Pubkey) : ℕ :=
  if account.mint = mint ∧ P account.owner then account.amount else 0

/-- The units of a mint in all accounts whose owner satisfies `P`. -/
noncomputable def Ledger.unitsOf (P : Pubkey → Prop) (l : Ledger Pubkey) (mint : Pubkey) : ℕ :=
  l.total AccountData.tokenAccount? (TokenAccount.units P mint)

/-- The units of owners outside of `S`, who cannot sign. -/
noncomputable def Ledger.locked (S : Set Pubkey) : Ledger Pubkey → Pubkey → ℕ :=
  Ledger.unitsOf (· ∉ S)

/-- The units of owners in `S`, who can sign. -/
noncomputable def Ledger.redeemable (S : Set Pubkey) : Ledger Pubkey → Pubkey → ℕ :=
  Ledger.unitsOf (· ∈ S)

/-- Nobody outside of `S` signs. -/
def Context.SignedIn (S : Set Pubkey) (ctx : Context Pubkey) : Prop :=
  ∀ signer ∈ ctx.signers, signer ∈ S

section

variable {P : Pubkey → Prop} {mint : Pubkey}

omit [Runtime Pubkey]

theorem TokenAccount.units_of_not (h : ¬ P account.owner) : account.units P mint = 0 :=
  if_neg fun hunits => h hunits.2

theorem TokenAccount.units_le {account' : TokenAccount Pubkey}
    (hmint : account'.mint = account.mint) (howner : account'.owner = account.owner)
    (hamount : account.amount ≤ account'.amount) :
    account.units P mint ≤ account'.units P mint := by
  rw [units, units, hmint, howner]
  split
  · exact hamount
  · exact le_rfl

/-- Every unit is in an account whose owner satisfies `P` or does not. -/
theorem Ledger.unitsOf_add (P : Pubkey → Prop) (l : Ledger Pubkey) (mint : Pubkey) :
    l.unitsOf P mint + l.unitsOf (fun owner => ¬ P owner) mint = l.holdings mint := by
  rw [unitsOf, unitsOf, total, total, holdings, OrderedMap.sum, OrderedMap.sum, OrderedMap.sum,
    ← List.sum_map_add]
  congr 1
  refine List.map_congr_left fun entry _ => ?_
  cases entry.2 with
  | tokenAccount account =>
      rw [AccountData.tokenAccount?, Option.elim_some, Option.elim_some, TokenAccount.units,
        TokenAccount.units, AccountData.balance]
      by_cases hmint : account.mint = mint <;> by_cases howner : P account.owner <;>
        simp [hmint, howner]
  | _ => rfl

/-- Writing one account does not lower the units if it has at least the units it had. -/
theorem Ledger.unitsOf_le_of_update
    (h : l'.tokenAccount? = Function.update l.tokenAccount? place (some account))
    (hunits : (l.tokenAccount? place).elim 0 (TokenAccount.units P mint) ≤ account.units P mint) :
    l.unitsOf P mint ≤ l'.unitsOf P mint := by
  have htotal := Ledger.total_of_update h (TokenAccount.units P mint)
  have hold : (l.read AccountData.tokenAccount? place).elim 0 (TokenAccount.units P mint) ≤
      account.units P mint := hunits
  rw [Ledger.unitsOf, Ledger.unitsOf]
  omega

end

omit [Runtime Pubkey] in
/-- The supply is what the accounts hold together, whether there is a mint or not. -/
theorem TokensValid.supply_eq (h : TokensValid l) (mint : Pubkey) :
    l.supply mint = l.holdings mint := by
  cases hread : l.mint? mint with
  | none => rw [h.holdings_eq_zero hread, Ledger.supply, hread, Option.elim_none]
  | some record => rw [Ledger.supply_of_mint hread, h.backed hread]

/-! ## Locked units stay -/

section

variable {S : Set Pubkey}

/-- Units of an owner who signed are not locked. -/
theorem TokenAccount.units_of_signed (hctx : ctx.SignedIn S) {mint : Pubkey}
    (h : account.owner ∈ ctx.signers) : account.units (· ∉ S) mint = 0 :=
  TokenAccount.units_of_not fun hnot => hnot (hctx account.owner h)

omit [Runtime Pubkey] in
theorem Ledger.locked_of_same (h : l'.tokenAccount? = l.tokenAccount?) (mint : Pubkey) :
    l.locked S mint ≤ l'.locked S mint :=
  (Ledger.total_congr h _).ge

/-- A transfer takes units from an owner who signs. -/
theorem Ledger.locked_moved (hctx : ctx.SignedIn S) {p : TokenProgram}
    {source destination authority : Pubkey} {amount : ℕ} {checked : Option (Pubkey × ℕ)}
    {src dst : TokenAccount Pubkey}
    (h : l.TransferAccepted p ctx.signers source destination authority amount checked src dst)
    (mint : Pubkey) :
    l.locked S mint ≤ (l.moved source destination src dst amount).locked S mint := by
  have howner : src.owner ∈ ctx.signers := h.owner_eq ▸ h.signed
  by_cases hsame : source = destination
  · rw [moved, if_pos hsame]
  · rw [moved, if_neg hsame]
    refine (unitsOf_le_of_update (setAmount_tokenAccount? l source src _) ?_).trans
      (unitsOf_le_of_update (setAmount_tokenAccount? _ destination dst _) ?_)
    · rw [h.source_eq, Option.elim_some, TokenAccount.units_of_signed hctx howner]
      exact Nat.zero_le _
    · rw [setAmount_tokenAccount?, Function.update_of_ne (Ne.symm hsame), h.destination_eq,
        Option.elim_some]
      exact TokenAccount.units_le rfl rfl (Nat.le_add_right _ _)

/-- A burn takes units from an owner who signs. -/
theorem Ledger.locked_burned (hctx : ctx.SignedIn S) {p : TokenProgram}
    {source mint authority : Pubkey} {amount : ℕ} {record : Mint Pubkey}
    (h : l.BurnAccepted p ctx.signers source mint authority amount account record) (n m : ℕ)
    (other : Pubkey) :
    l.locked S other ≤ ((l.setAmount source account n).setSupply mint record m).locked S other := by
  refine unitsOf_le_of_update (adjusted_tokenAccount? h.account_eq h.record_eq n m) ?_
  rw [h.account_eq, Option.elim_some, TokenAccount.units_of_signed hctx (h.owner_eq ▸ h.signed)]
  exact Nat.zero_le _

/-- No step unlocks units. -/
theorem TokenStep.locked_le {action : Action Pubkey} (h : TokenStep ctx l l' action)
    (hctx : ctx.SignedIn S) (mint : Pubkey) : l.locked S mint ≤ l'.locked S mint := by
  cases h with
  | idle _ same => exact Ledger.locked_of_same same.accounts mint
  | newMint fresh data =>
      refine Ledger.locked_of_same ((Ledger.read_update data _).trans ?_) mint
      exact Ledger.update_none (Ledger.read_of_data?_eq_none fresh AccountData.tokenAccount?)
  | newAccount _ _ _ fresh data =>
      refine Ledger.unitsOf_le_of_update (Ledger.read_update data AccountData.tokenAccount?) ?_
      rw [Ledger.tokenAccount?, Ledger.read_of_data?_eq_none fresh, Option.elim_none]
      exact Nat.zero_le _
  | mintTo accepted after =>
      rw [after]
      refine Ledger.unitsOf_le_of_update
        (Ledger.adjusted_tokenAccount? accepted.account_eq accepted.record_eq _ _) ?_
      rw [accepted.account_eq, Option.elim_some]
      exact TokenAccount.units_le rfl rfl (Nat.le_add_right _ _)
  | transfer accepted after =>
      rw [after]
      exact Ledger.locked_moved hctx accepted mint
  | burn accepted after =>
      rw [after]
      exact Ledger.locked_burned hctx accepted _ _ mint
  | setFrozen account_eq _ _ after =>
      rw [after]
      refine Ledger.unitsOf_le_of_update (Ledger.putAccount_tokenAccount? l _ _) ?_
      rw [account_eq, Option.elim_some]
      exact TokenAccount.units_le rfl rfl le_rfl
  | tokenize effect =>
      refine Ledger.unitsOf_le_of_update effect.tokenAccount? ?_
      rw [Ledger.tokenAccount?, Ledger.read_of_data?_eq_none effect.account_fresh,
        Option.elim_none]
      exact Nat.zero_le _
  | transferOwnership accepted after =>
      rw [after]
      exact Ledger.locked_moved hctx accepted.transfer mint
  | redeem accepted after =>
      rw [after]
      exact Ledger.locked_burned hctx accepted.burn _ _ mint

/-- No run that only `S` signs unlocks units. -/
theorem locked_le_run (h : Reachable l) (mint : Pubkey) {txs : List (Transaction Pubkey)}
    (htxs : ∀ tx ∈ txs, tx.ctx.SignedIn S) :
    l.locked S mint ≤ (programMachine.run l txs).locked S mint := by
  refine h.stable_of_steps (P := fun s => l.locked S mint ≤ s.locked S mint)
    (C := fun e => e.action.ctx.SignedIn S) (fun s tx _ hs hsigned => ?_) le_rfl
    fun e he => htxs e.action (Machine.action_mem he)
  rcases transact_tokenStep s tx with ⟨_, -, hstep⟩ | ⟨e, he⟩
  · exact hs.trans (hstep.locked_le hsigned mint)
  · rwa [next_of_error he]

end

/-! ## Redeeming everything -/

/-- A context in which an owner outside the program signs. -/
def soleSigner (owner : Pubkey) (h : ∀ seeds, Runtime.findProgramAddress seeds ≠ owner) :
    Context Pubkey where
  signers := [owner]
  unixTimestamp := 0
  signers_external seeds hmem := h seeds (List.mem_singleton.mp hmem)

/-- The step redeemed units of the asset, signed by `S`. -/
def ProgramStep.Redeems (S : Set Pubkey) (key : Pubkey) (e : ProgramStep Pubkey) : Prop :=
  e.action.ctx.SignedIn S ∧
    ∃ accs amount event, e.action.action = .program (.redeemAsset accs amount) ∧
      accs.asset = key ∧ e.output = .ok event

/-- The ledger after all units of an account were burnt. -/
def Ledger.emptied (l : Ledger Pubkey) (place : Pubkey) (account : TokenAccount Pubkey)
    (record : Mint Pubkey) : Ledger Pubkey :=
  (l.setAmount place account (account.amount - account.amount)).setSupply account.mint record
    (record.supply - account.amount)

omit [Runtime Pubkey] in
theorem Ledger.unitsOf_emptied {record : Mint Pubkey}
    (haccount : l.tokenAccount? place = some account)
    (hrecord : l.mint? account.mint = some record) (P : Pubkey → Prop) (mint : Pubkey) :
    (l.emptied place account record).unitsOf P mint + account.units P mint =
      l.unitsOf P mint := by
  have htotal := total_of_update (adjusted_tokenAccount? haccount hrecord
    (account.amount - account.amount) (record.supply - account.amount))
    (TokenAccount.units P mint)
  have hold : (l.read AccountData.tokenAccount? place).elim 0 (TokenAccount.units P mint) =
      account.units P mint := by
    rw [show l.read AccountData.tokenAccount? place = some account from haccount, Option.elim_some]
  have hnew : TokenAccount.units P mint { account with amount := account.amount - account.amount } =
      0 := by
    rw [TokenAccount.units, Nat.sub_self, ite_self]
  rw [hold, hnew, Nat.add_zero] at htotal
  exact htotal

section

variable {P : AssetStatus → Prop} {S : Set Pubkey} {mint : Pubkey}

/-- The accounts a holder redeems with. -/
def redemption (key place : Pubkey) (account : TokenAccount Pubkey) : RedeemAsset Pubkey where
  asset := key
  tokenization := tokenizationPda key
  owner := account.owner
  ownerTokenAccount := place
  mint := account.mint
  tokenProgram := account.program

/-- A holder who can sign can redeem all of an account. -/
theorem redeem_all (hS : ∀ seeds, Runtime.findProgramAddress seeds ∉ S) (h : LedgerValid l)
    (hasset : l.TokenizedWith P key account.mint) (haccount : l.tokenAccount? place = some account)
    (hamount : 0 < account.amount) (howner : account.owner ∈ S) :
    ∃ tx record, ProgramStep.Redeems S key (programMachine.stepAt l tx) ∧
      l.mint? account.mint = some record ∧
      programMachine.next l tx = l.emptied place account record := by
  have hexternal : ∀ seeds, Runtime.findProgramAddress seeds ≠ account.owner := fun seeds he =>
    hS seeds (he ▸ howner)
  have haccepted : ∃ asset tokenization record, (redemption key place account).Accepted
      (soleSigner account.owner hexternal) account.amount asset tokenization account record l :=
    h.redeemAccepted hasset rfl rfl rfl
      ⟨haccount, rfl, rfl, rfl, List.mem_cons_self, hamount, le_rfl⟩
  obtain ⟨asset, tokenization, record, haccepted⟩ := haccepted
  have hrun : transact l ⟨soleSigner account.owner hexternal,
      .program (.redeemAsset (redemption key place account) account.amount)⟩ =
        (l.emptied place account record, .ok _) :=
    transact_of_ok (RedeemAsset.execute_ok.mpr
      ⟨asset, tokenization, account, record, haccepted, rfl, rfl⟩)
  have hsigned : (soleSigner account.owner hexternal).SignedIn S := by
    intro signer hsigner
    rwa [List.mem_singleton.mp hsigner]
  exact ⟨⟨soleSigner account.owner hexternal, _⟩, record,
    ⟨hsigned, _, _, _, rfl, rfl, congrArg Prod.snd hrun⟩, haccepted.burn.record_eq,
    congrArg Prod.fst hrun⟩

/-- While units are redeemable, one of their holders redeems some. -/
theorem exists_redemption (hS : ∀ seeds, Runtime.findProgramAddress seeds ∉ S) (h : LedgerValid l)
    (hasset : l.TokenizedWith P key mint) (hpos : 0 < l.redeemable S mint) :
    ∃ tx, ProgramStep.Redeems S key (programMachine.stepAt l tx) ∧
      (programMachine.next l tx).TokenizedWith P key mint ∧
      (programMachine.next l tx).locked S mint = l.locked S mint ∧
      (programMachine.next l tx).redeemable S mint < l.redeemable S mint := by
  obtain ⟨place, account, haccount, hunits⟩ := Ledger.exists_of_total_pos hpos
  obtain ⟨⟨rfl, howner⟩, hamount⟩ :
      (account.mint = mint ∧ account.owner ∈ S) ∧ 0 < account.amount := by
    rw [TokenAccount.units] at hunits
    split at hunits
    · next hcond => exact ⟨hcond, hunits⟩
    · cases hunits
  obtain ⟨tx, record, hredeems, hrecord, hnext⟩ :=
    redeem_all hS h hasset haccount hamount howner
  have hlocked := Ledger.unitsOf_emptied haccount hrecord (· ∉ S) account.mint
  have hredeemable := Ledger.unitsOf_emptied haccount hrecord (· ∈ S) account.mint
  have hnone : account.units (· ∉ S) account.mint = 0 :=
    TokenAccount.units_of_not fun hnot => hnot howner
  rw [hnone, Nat.add_zero] at hlocked
  refine ⟨tx, hredeems, ?_, ?_, ?_⟩
  · rw [hnext, Ledger.TokenizedWith, Ledger.emptied,
      (SameRecords.setAmount_setSupply haccount hrecord _ _).assets]
    exact hasset
  · rw [hnext]
    exact hlocked
  · rw [hnext, Ledger.redeemable, ← hredeemable]
    exact Nat.lt_add_of_pos_right hunits

/-- From every reachable ledger and in every status, redemptions that owners in `S` sign and
that all succeed bring the supply of an asset down to the units that are locked, and no run of
any transactions that only `S` signs brings it lower. -/
theorem exit_plan (hS : ∀ seeds, Runtime.findProgramAddress seeds ∉ S) (h : Reachable l)
    (hasset : l.TokenizedWith P key mint) :
    (∃ txs, (∀ e ∈ programMachine.steps l txs, ProgramStep.Redeems S key e) ∧
        (programMachine.run l txs).supply mint = l.locked S mint) ∧
      ∀ txs : List (Transaction Pubkey), (∀ tx ∈ txs, tx.ctx.SignedIn S) →
        l.locked S mint ≤ (programMachine.run l txs).supply mint := by
  have hsupply : ∀ txs, (programMachine.run l txs).supply mint =
      (programMachine.run l txs).redeemable S mint + (programMachine.run l txs).locked S mint := by
    intro txs
    rw [(valid_of_reachable (h.run txs)).tokens.supply_eq]
    exact (Ledger.unitsOf_add (· ∈ S) _ mint).symm
  constructor
  · obtain ⟨txs, hredeems, ⟨-, hlocked⟩, hzero⟩ := h.exists_run_of_measure
      (I := fun s => s.TokenizedWith P key mint ∧ s.locked S mint = l.locked S mint)
      (C := ProgramStep.Redeems S key) (n := fun s => s.redeemable S mint)
      (fun s hs hkept hpos => by
        obtain ⟨tx, hredeems, htokenized, hlocked, hlower⟩ :=
          exists_redemption hS (valid_of_reachable hs) hkept.1 hpos
        exact ⟨tx, hredeems, ⟨htokenized, hlocked.trans hkept.2⟩, hlower⟩)
      ⟨hasset, rfl⟩
    exact ⟨txs, hredeems, by rw [hsupply, hlocked, hzero, Nat.zero_add]⟩
  · intro txs htxs
    rw [hsupply]
    exact (locked_le_run h mint htxs).trans (Nat.le_add_left _ _)

end

/-- The keys with a holder. -/
def Address.keys : Set Address := Set.range Address.key

/-- The holders of the liquidated sample asset can redeem all of it. -/
theorem exit_plan_house :
    ∃ txs, (∀ e ∈ programMachine.steps
          (programMachine.run Address.genesis Address.liquidateHouse) txs,
        ProgramStep.Redeems Address.keys Address.house e) ∧
      (programMachine.run (programMachine.run Address.genesis Address.liquidateHouse)
        txs).supply Address.houseMint = 0 := by
  have hkeys : ∀ seeds, (Runtime.findProgramAddress seeds : Address) ∉ Address.keys := by
    rintro ⟨literal, _ | seed⟩ ⟨n, hn⟩ <;> cases hn
  have hplan := exit_plan (l := programMachine.run Address.genesis Address.liquidateHouse) hkeys
    (Address.reachable_run_genesis _) Address.liquidateHouse_tokenizedWith
  have hzero : (programMachine.run (programMachine.run Address.genesis Address.liquidateHouse)
      [Address.redeemHouse 100]).supply Address.houseMint = 0 := by decide
  have hlocked := hplan.2 [Address.redeemHouse 100] fun tx htx signer hsigner => by
    rw [List.mem_singleton.mp htx] at hsigner
    exact ⟨10, (List.mem_singleton.mp hsigner).symm⟩
  rw [hzero] at hlocked
  obtain ⟨txs, hredeems, hsupply⟩ := hplan.1
  exact ⟨txs, hredeems, hsupply.trans (Nat.le_zero.mp hlocked)⟩

end RwaTokenization
