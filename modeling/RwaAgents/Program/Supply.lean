import RwaAgents.Program.RecordSafety

/-!
# Supply accounting

The units of a tokenized asset are minted once, and only a redemption or a burn
takes any away.  A run remembers what was redeemed and what holders burned, and
together with the supply that is what the tokenization states
(`SupplyAccounted`).

Nobody can mint more, because the mint authority is an address the program
derives and the program signs for it in the tokenization only.
-/

namespace RwaTokenization

variable {Pubkey : Type} [DecidableEq Pubkey] [Runtime Pubkey] {ctx : Context Pubkey}
  {l l' : Ledger Pubkey} {action : Action Pubkey} {key : Pubkey} {asset : RwaAsset Pubkey}
  {tokenization : Tokenization Pubkey}

/-! ## What a run redeemed and burned -/

/-- The units of an asset an action redeems. -/
def Action.redeemed (key : Pubkey) : Action Pubkey → ℕ
  | program (.redeemAsset accs amount) => if accs.asset = key then amount else 0
  | _ => 0

/-- The units of a mint an action burns without the program. -/
def Action.burned (mint : Pubkey) : Action Pubkey → ℕ
  | token _ (.burn _ mint' _ amount) => if mint' = mint then amount else 0
  | _ => 0

/-- The amount of an action, if the step succeeded. -/
def carriedOut (amount : Action Pubkey → ℕ) (e : ProgramStep Pubkey) : ℕ :=
  match e.output with
  | .ok _ => amount e.action.action
  | .error _ => 0

/-- The units of an asset successful steps redeemed. -/
def redeemed (key : Pubkey) (es : List (ProgramStep Pubkey)) : ℕ :=
  (es.map (carriedOut (Action.redeemed key))).sum

/-- The units of a mint successful steps burned without the program. -/
def burned (mint : Pubkey) (es : List (ProgramStep Pubkey)) : ℕ :=
  (es.map (carriedOut (Action.burned mint))).sum

theorem carriedOut_of_ok {tx : Transaction Pubkey} {event : Option (Event Pubkey)}
    (h : (transact l tx).2 = .ok event) (amount : Action Pubkey → ℕ) :
    carriedOut amount (programMachine.stepAt l tx) = amount tx.action := by
  have houtput : (programMachine.stepAt l tx).output = .ok event := h
  rw [carriedOut, houtput]
  rfl

theorem carriedOut_of_error {tx : Transaction Pubkey} {err : ProgramError}
    (h : (transact l tx).2 = .error err) (amount : Action Pubkey → ℕ) :
    carriedOut amount (programMachine.stepAt l tx) = 0 := by
  have houtput : (programMachine.stepAt l tx).output = .error err := h
  rw [carriedOut, houtput]

theorem redeemed_concat (key : Pubkey) (es : List (ProgramStep Pubkey)) (e : ProgramStep Pubkey) :
    redeemed key (es ++ [e]) = redeemed key es + carriedOut (Action.redeemed key) e := by
  rw [redeemed, List.map_append, List.sum_append, List.map_singleton, List.sum_singleton, redeemed]

theorem burned_concat (mint : Pubkey) (es : List (ProgramStep Pubkey)) (e : ProgramStep Pubkey) :
    burned mint (es ++ [e]) = burned mint es + carriedOut (Action.burned mint) e := by
  rw [burned, List.map_append, List.sum_append, List.map_singleton, List.sum_singleton, burned]

omit [Runtime Pubkey] in
theorem Action.redeemed_of_quiet (h : action.touchesTokens = false) (key : Pubkey) :
    action.redeemed key = 0 := by
  cases action with
  | token _ _ => rfl
  | systemTransfer _ _ _ => rfl
  | program instruction =>
      cases instruction with
      | redeemAsset _ _ => cases h
      | _ => rfl

omit [Runtime Pubkey] in
theorem Action.burned_of_quiet (h : action.touchesTokens = false) (mint : Pubkey) :
    action.burned mint = 0 := by
  cases action with
  | token _ _ => cases h
  | systemTransfer _ _ _ => rfl
  | program _ => rfl

omit [Runtime Pubkey] in
theorem Action.burned_of_createsAccount {p : TokenProgram} {instruction : TokenInstruction Pubkey}
    (h : instruction.createsAccount = true) (mint : Pubkey) :
    (Action.token p instruction).burned mint = 0 := by
  cases instruction with
  | burn _ _ _ _ => cases h
  | _ => rfl

/-! ## Supplies -/

namespace Ledger

omit [Runtime Pubkey]

theorem supply_congr {mint : Pubkey} (h : l'.mint? mint = l.mint? mint) :
    l'.supply mint = l.supply mint := by
  rw [supply, supply, h]

theorem supply_of_update {mint : Pubkey} {record : Mint Pubkey}
    (h : l'.mint? = Function.update l.mint? key (some record)) :
    l'.supply mint = if mint = key then record.supply else l.supply mint := by
  rw [supply, supply, h, Function.update_apply]
  split <;> rfl

end Ledger

/-- A tokenization stays for good. -/
theorem AssetStep.tokenization_kept (h : AssetStep ctx l l' action)
    (hread : l.tokenization? key = some tokenization) :
    l'.tokenization? key = some tokenization := by
  cases h with
  | idle _ tokenizations => rwa [tokenizations]
  | register effect => rwa [effect.tokenization?]
  | tokenize effect =>
      rwa [effect.tokenization?,
        Function.update_of_ne (Ledger.ne_of_read hread effect.tokenization_fresh)]
  | edit accepted after => rwa [after, Ledger.putAsset_tokenization? accepted.asset_read]
  | setStatus accepted after => rwa [after, Ledger.putAsset_tokenization? accepted.asset_read]

/-- Nothing is redeemed of an asset without a tokenization. -/
theorem TokenStep.redeemed_eq_zero (h : TokenStep ctx l l' action)
    (hnone : l.tokenization? (tokenizationPda key) = none) : action.redeemed key = 0 := by
  cases h with
  | redeem accepted _ =>
      refine if_neg fun hkey => ?_
      have hread := accepted.tokenization_read
      rw [accepted.tokenization_eq, hkey, hnone] at hread
      cases hread
  | idle quiet _ => exact Action.redeemed_of_quiet quiet key
  | _ => rfl

/-- Nothing is burned of a mint that does not exist. -/
theorem TokenStep.burned_eq_zero {mint : Pubkey} (h : TokenStep ctx l l' action)
    (hnone : l.mint? mint = none) : action.burned mint = 0 := by
  cases h with
  | burn accepted _ =>
      refine if_neg fun hmint => ?_
      have hread := accepted.record_eq
      rw [hmint, hnone] at hread
      cases hread
  | idle quiet _ => exact Action.burned_of_quiet quiet mint
  | newAccount creates _ _ _ _ => exact Action.burned_of_createsAccount creates mint
  | _ => rfl

/-- A redemption of an asset burns units of its mint, and of no other tokenized
asset's mint. -/
theorem LedgerValid.redeem_mint (h : LedgerValid l) {accs : RedeemAsset Pubkey} {amount : ℕ}
    {tokenization' : Tokenization Pubkey} {account : TokenAccount Pubkey} {mint : Mint Pubkey}
    (haccepted : accs.Accepted ctx amount asset tokenization' account mint l)
    (hread : l.tokenization? key = some tokenization) :
    accs.asset = tokenization.assetId ↔ accs.mint = tokenization.mint := by
  have hkey := (h.records.owned hread).1
  have hread' := haccepted.tokenization_read
  rw [haccepted.tokenization_eq] at hread'
  constructor
  · intro hasset
    rw [hasset, ← hkey, hread] at hread'
    cases hread'
    exact haccepted.tokenization_mint.symm
  · intro hmint
    have he := h.tokenization_inj hread' hread (haccepted.tokenization_mint.trans hmint)
    exact tokenizationPda_inj.mp (he.trans hkey)

/-- The supply of a tokenized asset falls by what is redeemed and burned, and by
nothing else. -/
theorem TokenStep.supply (h : TokenStep ctx l l' action) (hvalid : LedgerValid l)
    (hread : l.tokenization? key = some tokenization) :
    l'.supply tokenization.mint + action.redeemed tokenization.assetId +
      action.burned tokenization.mint = l.supply tokenization.mint := by
  obtain ⟨record, hrecord, -, -⟩ := hvalid.minted hread
  have hsame : l'.mint? tokenization.mint = l.mint? tokenization.mint →
      l'.supply tokenization.mint + 0 + 0 = l.supply tokenization.mint := Ledger.supply_congr
  have hfresh : ∀ {k : Pubkey} {new : Mint Pubkey}, l.data? k = none →
      l'.mint? = Function.update l.mint? k (some new) →
      l'.supply tokenization.mint + 0 + 0 = l.supply tokenization.mint := by
    intro k new hnone hmint
    refine hsame ?_
    rw [hmint, Function.update_of_ne (Ledger.ne_of_read hrecord hnone)]
  cases h with
  | idle quiet same =>
      rw [Action.redeemed_of_quiet quiet, Action.burned_of_quiet quiet]
      exact hsame (congrFun same.mints _)
  | newMint fresh data => exact hfresh fresh (Ledger.read_update data _)
  | newAccount creates _ _ fresh data =>
      rw [Action.burned_of_createsAccount creates]
      refine hsame (congrFun ((Ledger.read_update data _).trans ?_) _)
      exact Ledger.update_none (Ledger.read_of_data?_eq_none fresh _)
  | mintTo accepted after =>
      refine hsame ?_
      rw [after, Ledger.adjusted_mint? accepted.account_eq]
      exact Function.update_of_ne (hvalid.mint_ne accepted hread) _ _
  | transfer accepted after =>
      refine hsame ?_
      rw [after, Ledger.moved_mint? accepted.source_eq accepted.destination_eq]
  | @burn p source mint authority amount account burnt accepted after =>
      rw [after, Ledger.supply_of_update (Ledger.adjusted_mint? accepted.account_eq _ _)]
      show _ + 0 + (if mint = tokenization.mint then amount else 0) = _
      split
      · next hmint =>
        rw [if_pos hmint.symm, Ledger.supply_of_mint (hmint ▸ accepted.record_eq)]
        exact Nat.sub_add_cancel accepted.supply_funds
      · next hne =>
        rw [if_neg (Ne.symm hne)]
        exact Nat.add_zero _
  | setFrozen account_eq _ _ after =>
      refine hsame ?_
      rw [after, Ledger.mint?, Ledger.put_read]
      refine congrFun (Ledger.update_none ?_) _
      exact Ledger.read_of_data? (Ledger.tokenAccount?_eq_some.mp account_eq) _
  | tokenize effect => exact hfresh effect.mint_fresh effect.mint?
  | transferOwnership accepted after =>
      refine hsame ?_
      rw [after, Ledger.moved_mint? accepted.transfer.source_eq accepted.transfer.destination_eq]
  | @redeem accs amount asset tokenization' account burnt accepted after =>
      have hmint := hvalid.redeem_mint accepted hread
      rw [after, Ledger.supply_of_update (Ledger.adjusted_mint? accepted.burn.account_eq _ _)]
      show _ + (if accs.asset = tokenization.assetId then amount else 0) + 0 = _
      split
      · next he =>
        rw [if_pos (hmint.mpr he.symm), Ledger.supply_of_mint (he ▸ accepted.burn.record_eq)]
        exact Nat.sub_add_cancel accepted.burn.supply_funds
      · next hne =>
        rw [if_neg fun hasset => hne (hmint.mp hasset).symm]
        exact Nat.add_zero _

/-! ## The account of a run -/

/-- What the steps of a run took away, with what is left, is what was minted. -/
structure SupplyAccounted (es : List (ProgramStep Pubkey)) (l : Ledger Pubkey) : Prop where
  redeemed_eq_zero : ∀ {key}, l.tokenization? (tokenizationPda key) = none → redeemed key es = 0
  burned_eq_zero : ∀ {mint}, l.mint? mint = none → burned mint es = 0
  accounted : ∀ {key tokenization}, l.tokenization? key = some tokenization →
    l.supply tokenization.mint + redeemed tokenization.assetId es + burned tokenization.mint es =
      tokenization.totalSupply

/-- A successful step keeps the account. -/
theorem SupplyAccounted.step {es : List (ProgramStep Pubkey)} {e : ProgramStep Pubkey}
    (h : SupplyAccounted es l) (hvalid : LedgerValid l) (hasset : AssetStep ctx l l' action)
    (htoken : TokenStep ctx l l' action)
    (hcarried : ∀ amount : Action Pubkey → ℕ, carriedOut amount e = amount action) :
    SupplyAccounted (es ++ [e]) l' where
  redeemed_eq_zero {key} hnone := by
    have hbefore : l.tokenization? (tokenizationPda key) = none := by
      refine Option.eq_none_iff_forall_ne_some.mpr fun t ht => ?_
      rw [hasset.tokenization_kept ht] at hnone
      cases hnone
    rw [redeemed_concat, hcarried, h.redeemed_eq_zero hbefore, htoken.redeemed_eq_zero hbefore]
  burned_eq_zero {mint} hnone := by
    have hbefore : l.mint? mint = none := by
      refine Option.eq_none_iff_forall_ne_some.mpr fun record hrecord => ?_
      obtain ⟨record', hrecord', -⟩ := htoken.mint_kept hrecord
      rw [hrecord'] at hnone
      cases hnone
    rw [burned_concat, hcarried, h.burned_eq_zero hbefore, htoken.burned_eq_zero hbefore]
  accounted {key tokenization} hread := by
    rw [redeemed_concat, burned_concat, hcarried, hcarried]
    rcases hasset.tokenization_cases hread with
      hold | ⟨accs, totalSupply, _, _, rfl, heffect, rfl, rfl⟩
    · have hbefore := h.accounted hold
      have hstep := htoken.supply hvalid hold
      omega
    · -- Nothing was redeemed or burned before the asset was tokenized.
      have hredeemed : redeemed accs.asset es = 0 :=
        h.redeemed_eq_zero (heffect.tokenization_eq ▸
          Ledger.read_of_data?_eq_none heffect.tokenization_fresh _)
      have hburned : burned accs.mint es = 0 :=
        h.burned_eq_zero (Ledger.read_of_data?_eq_none heffect.mint_fresh _)
      show l'.supply accs.mint + (redeemed accs.asset es + 0) + (burned accs.mint es + 0) =
        totalSupply
      rw [hredeemed, hburned, Ledger.supply_of_update heffect.mint?, if_pos rfl]
      rfl

/-- So does a failing one, which carries out nothing. -/
theorem SupplyAccounted.idle {es : List (ProgramStep Pubkey)} {e : ProgramStep Pubkey}
    (h : SupplyAccounted es l)
    (hcarried : ∀ amount : Action Pubkey → ℕ, carriedOut amount e = 0) :
    SupplyAccounted (es ++ [e]) l := by
  have hredeemed : ∀ key, redeemed key (es ++ [e]) = redeemed key es := fun key => by
    rw [redeemed_concat, hcarried, Nat.add_zero]
  have hburned : ∀ mint, burned mint (es ++ [e]) = burned mint es := fun mint => by
    rw [burned_concat, hcarried, Nat.add_zero]
  refine ⟨fun hnone => ?_, fun hnone => ?_, fun hread => ?_⟩
  · rw [hredeemed]
    exact h.redeemed_eq_zero hnone
  · rw [hburned]
    exact h.burned_eq_zero hnone
  · rw [hredeemed, hburned]
    exact h.accounted hread

/-- Every run is accounted for. -/
theorem supplyAccounted_steps (hstart : programMachine.start l) (txs : List (Transaction Pubkey)) :
    SupplyAccounted (programMachine.steps l txs) (programMachine.run l txs) := by
  have hempty : SupplyAccounted [] l := by
    refine ⟨fun _ => rfl, fun _ => rfl, fun hread => ?_⟩
    rw [Ledger.tokenization?, Ledger.read_of_empty hstart] at hread
    cases hread
  refine (Machine.Reachable.start hstart).history (fun es l tx hreach h => ?_) hempty txs
  rcases transact_tokenStep l tx with ⟨event, hok, htoken⟩ | ⟨err, herr⟩
  · exact h.step (valid_of_reachable hreach) (transact_assetStep l tx) htoken (carriedOut_of_ok hok)
  · rw [next_of_error herr]
    exact h.idle (carriedOut_of_error (output_of_error herr))

/-- The supply of a tokenized asset never rises again. -/
theorem supply_run_le (h : Reachable l) (txs : List (Transaction Pubkey))
    (hread : l.tokenization? key = some tokenization) :
    (programMachine.run l txs).supply tokenization.mint ≤ l.supply tokenization.mint := by
  refine (h.stable (P := fun s => s.tokenization? key = some tokenization ∧
    s.supply tokenization.mint ≤ l.supply tokenization.mint) ?_ ⟨hread, Nat.le_refl _⟩ txs).2
  rintro s tx hreach ⟨hs, hle⟩
  refine ⟨(transact_assetStep s tx).tokenization_kept hs, ?_⟩
  rcases transact_tokenStep s tx with ⟨_, -, htoken⟩ | ⟨err, herr⟩
  · have hstep := htoken.supply (valid_of_reachable hreach) hs
    show (transact s tx).1.supply tokenization.mint ≤ l.supply tokenization.mint
    omega
  · rwa [next_of_error herr]

/-- After every run, the supply of a tokenized asset is what its accounts hold, it
never rises again, and it is at most the total supply without what was redeemed,
and exactly that if no holder burned units without the program. -/
theorem supply_accounting (hstart : programMachine.start l) (txs : List (Transaction Pubkey))
    (hread : (programMachine.run l txs).rwaAsset? key = some asset)
    (htokenized : asset.isTokenized = true) :
    ∃ mint tokenization, asset.mint = some mint ∧
      (programMachine.run l txs).tokenization? (tokenizationPda key) = some tokenization ∧
      ((programMachine.run l txs).mint? mint).isSome = true ∧
      (programMachine.run l txs).supply mint = (programMachine.run l txs).holdings mint ∧
      (∀ txs', (programMachine.run (programMachine.run l txs) txs').supply mint ≤
        (programMachine.run l txs).supply mint) ∧
      (programMachine.run l txs).supply mint + redeemed key (programMachine.steps l txs) ≤
        tokenization.totalSupply ∧
      (burned mint (programMachine.steps l txs) = 0 →
        (programMachine.run l txs).supply mint + redeemed key (programMachine.steps l txs) =
          tokenization.totalSupply) := by
  have hreach := (Machine.Reachable.start hstart).run txs
  have hvalid := valid_of_reachable hreach
  obtain ⟨tokenization, ht, hfor⟩ := hvalid.records.exists_tokenization hread htokenized
  obtain ⟨record, hrecord, -, -⟩ := hvalid.minted ht
  have haccounted := (supplyAccounted_steps hstart txs).accounted ht
  rw [hfor.asset_eq] at haccounted
  refine ⟨tokenization.mint, tokenization, hfor.mint_eq, ht, ?_, ?_, fun txs' =>
    supply_run_le hreach txs' ht, ?_, fun hburned => ?_⟩
  · rw [hrecord]
    rfl
  · rw [Ledger.supply_of_mint hrecord]
    exact hvalid.tokens.backed hrecord
  · omega
  · omega

/-- The sample asset after a redemption of seven of its hundred units. -/
theorem supply_accounting_house :
    ∃ mint tokenization, some Address.houseMint = some mint ∧
      (programMachine.run Address.genesis (Address.registerHouse ++ [Address.tokenizeHouse,
        Address.redeemHouse 7])).tokenization? (tokenizationPda Address.house) =
          some tokenization ∧
      (burned mint (programMachine.steps Address.genesis (Address.registerHouse ++
        [Address.tokenizeHouse, Address.redeemHouse 7])) = 0 →
        (programMachine.run Address.genesis (Address.registerHouse ++ [Address.tokenizeHouse,
          Address.redeemHouse 7])).supply mint + redeemed Address.house
            (programMachine.steps Address.genesis (Address.registerHouse ++ [Address.tokenizeHouse,
              Address.redeemHouse 7])) = tokenization.totalSupply) := by
  have hread : (programMachine.run Address.genesis (Address.registerHouse ++
      [Address.tokenizeHouse, Address.redeemHouse 7])).rwaAsset? Address.house =
      some Address.houseAsset := by decide
  obtain ⟨mint, tokenization, hmint, ht, -, -, -, -, haccounted⟩ :=
    supply_accounting (l := Address.genesis) rfl _ hread rfl
  exact ⟨mint, tokenization, hmint, ht, haccounted⟩

end RwaTokenization
