import RwaAgents.Program.RecordStep

/-!
# Accounts keep their kind

An account holds a record of one of the three types of the program, a mint or a token
account.  `init` demands an address without data, a method of a record writes the
record back under its own type, and a token program writes mints over mints and token
accounts over token accounts.

So no transaction of the model removes an account or changes its kind
(`transact_kindsKept`).  What the owners of other accounts may do in between is the
subject of the module on interference.
-/

namespace RwaTokenization

variable {Pubkey : Type}

/-- Three types of records, and the two kinds of the token programs. -/
inductive AccountKind
  | globalConfig
  | rwaAsset
  | tokenization
  | mint
  | tokenAccount
deriving DecidableEq, Repr

def AccountData.kind : AccountData Pubkey → AccountKind
  | globalConfig _ => .globalConfig
  | rwaAsset _ => .rwaAsset
  | tokenization _ => .tokenization
  | mint _ => .mint
  | tokenAccount _ => .tokenAccount

/-- What there was is still there, in its kind. -/
def KindsKept (before after : Pubkey → Option (AccountData Pubkey)) : Prop :=
  ∀ key data, before key = some data → ∃ data', after key = some data' ∧ data'.kind = data.kind

namespace KindsKept

variable {f g h : Pubkey → Option (AccountData Pubkey)}

theorem refl (f : Pubkey → Option (AccountData Pubkey)) : KindsKept f f :=
  fun _ data hdata => ⟨data, hdata, rfl⟩

theorem trans (hfg : KindsKept f g) (hgh : KindsKept g h) : KindsKept f h := by
  intro key data hdata
  obtain ⟨data', hdata', hkind⟩ := hfg key data hdata
  obtain ⟨data'', hdata'', hkind'⟩ := hgh key data' hdata'
  exact ⟨data'', hdata'', hkind'.trans hkind⟩

variable [DecidableEq Pubkey]

/-- Writing over data of the same kind, if over any. -/
theorem update (hfg : KindsKept f g) {key : Pubkey} {data : AccountData Pubkey}
    (hold : ∀ d ∈ g key, data.kind = d.kind) :
    KindsKept f (Function.update g key (some data)) := by
  refine hfg.trans fun k d hd => ?_
  by_cases hk : k = key
  · subst hk
    exact ⟨data, Function.update_self _ _ _, hold d hd⟩
  · exact ⟨d, by rwa [Function.update_of_ne hk], rfl⟩

/-- Creating an account. -/
theorem update_fresh {key : Pubkey} (data : AccountData Pubkey) (hfresh : f key = none) :
    KindsKept f (Function.update f key (some data)) := by
  refine (refl f).update fun d hd => ?_
  rw [hfresh] at hd
  cases hd

/-- Writing an account back. -/
theorem update_over {key : Pubkey} {data old : AccountData Pubkey} (hold : f key = some old)
    (hkind : data.kind = old.kind) : KindsKept f (Function.update f key (some data)) := by
  refine (refl f).update fun d hd => ?_
  rw [hold] at hd
  cases hd
  exact hkind

end KindsKept

variable [DecidableEq Pubkey] {l l' : Ledger Pubkey}

theorem KindsKept.setAmount {key : Pubkey} {account : TokenAccount Pubkey} (n : ℕ)
    (h : l.tokenAccount? key = some account) :
    KindsKept l.data? (l.setAmount key account n).data? := by
  rw [Ledger.setAmount, Ledger.put_data?]
  exact update_over (Ledger.tokenAccount?_eq_some.mp h) rfl

theorem KindsKept.setSupply {key : Pubkey} {mint : Mint Pubkey} (n : ℕ)
    (h : l.mint? key = some mint) : KindsKept l.data? (l.setSupply key mint n).data? := by
  rw [Ledger.setSupply, Ledger.put_data?]
  exact update_over (Ledger.mint?_eq_some.mp h) rfl

theorem KindsKept.setAmount_setSupply {key mint : Pubkey} {account : TokenAccount Pubkey}
    {record : Mint Pubkey} (haccount : l.tokenAccount? key = some account)
    (hmint : l.mint? mint = some record) (n m : ℕ) :
    KindsKept l.data? ((l.setAmount key account n).setSupply mint record m).data? :=
  (setAmount n haccount).trans (setSupply m (by rwa [Ledger.setAmount_mint? haccount]))

/-- Moving units writes two accounts back. -/
theorem KindsKept.moved {source destination : Pubkey} {src dst : TokenAccount Pubkey}
    (hsrc : l.tokenAccount? source = some src) (hdst : l.tokenAccount? destination = some dst)
    (n : ℕ) : KindsKept l.data? (l.moved source destination src dst n).data? :=
  Ledger.moved_of_setAmount (R := fun l l' => KindsKept l.data? l'.data?) (fun l => refl l.data?)
    trans setAmount hsrc hdst n

theorem KindsKept.put_rwaAsset {key : Pubkey} {asset : RwaAsset Pubkey}
    (h : l.rwaAsset? key = some asset) (asset' : RwaAsset Pubkey) :
    KindsKept l.data? (l.put key (.rwaAsset asset')).data? := by
  rw [Ledger.put_data?]
  exact update_over (Ledger.rwaAsset?_eq_some.mp h) rfl

variable [Runtime Pubkey] {ctx : Context Pubkey}

/-- A registration creates an asset and writes the configuration back. -/
theorem RegisterAsset.Effect.kindsKept {accs : RegisterAsset Pubkey} {args : RegisterAssetArgs}
    {config : GlobalConfig Pubkey} (h : accs.Effect ctx args config l l') :
    KindsKept l.data? l'.data? := by
  have hcreated := KindsKept.update_fresh (.rwaAsset (accs.record args ctx.unixTimestamp)) h.fresh
  rw [h.data]
  refine hcreated.update fun d hd => ?_
  rw [Function.update_of_ne h.config_ne_asset, Ledger.globalConfig?_eq_some.mp h.config_read] at hd
  cases hd
  rfl

/-- A tokenization creates three accounts and writes two back. -/
theorem TokenizeAsset.Effect.kindsKept {accs : TokenizeAsset Pubkey} {totalSupply : ℕ}
    {config : GlobalConfig Pubkey} {asset : RwaAsset Pubkey}
    (h : accs.Effect ctx totalSupply config asset l l') : KindsKept l.data? l'.data? := by
  have hfresh : ∀ {k d}, d ∈ l.data? k → k ≠ accs.tokenization ∧ k ≠ accs.ownerTokenAccount ∧
      k ≠ accs.mint := by
    intro k d hd
    refine ⟨?_, ?_, ?_⟩ <;> rintro rfl
    · cases hd.symm.trans h.tokenization_fresh
    · cases hd.symm.trans h.account_fresh
    · cases hd.symm.trans h.mint_fresh
  intro key data hdata
  obtain ⟨htokenization, haccount, hmint⟩ := hfresh hdata
  rw [h.data]
  by_cases hconfig : key = accs.globalConfig
  · subst hconfig
    cases hdata.symm.trans h.config_data
    exact ⟨_, Function.update_self _ _ _, rfl⟩
  · rw [Function.update_of_ne hconfig]
    by_cases hasset : key = accs.asset
    · subst hasset
      cases hdata.symm.trans h.asset_data
      exact ⟨_, Function.update_self _ _ _, rfl⟩
    · rw [Function.update_of_ne hasset, Function.update_of_ne hmint, Function.update_of_ne haccount,
        Function.update_of_ne htokenization]
      exact ⟨data, hdata, rfl⟩

/-- The token programs create accounts, or write mints and token accounts back. -/
theorem TokenInstruction.kindsKept {p : TokenProgram} {instruction : TokenInstruction Pubkey}
    {u : Unit} (h : (instruction.execute ctx p).run l = .ok u l') :
    KindsKept l.data? l'.data? := by
  cases instruction with
  | initializeMint payer mint decimals mintAuthority freezeAuthority =>
      obtain ⟨-, hfresh, hdata⟩ := TokenProgram.initializeMint_ok h
      rw [hdata]
      exact .update_fresh _ hfresh
  | initializeAccount payer account mint owner =>
      obtain ⟨_, -, -, hfresh, hdata⟩ := TokenProgram.initializeAccount_ok h
      rw [hdata]
      exact .update_fresh _ hfresh
  | createAssociated payer owner mint =>
      obtain ⟨_, -, -, hfresh, hdata⟩ := TokenProgram.createAssociated_ok h
      rw [hdata]
      exact .update_fresh _ hfresh
  | mintTo mint destination authority amount =>
      obtain ⟨account, record, haccepted, rfl⟩ := TokenProgram.mintTo_ok.mp h
      exact .setAmount_setSupply haccepted.account_eq haccepted.record_eq _ _
  | transfer source destination authority amount checked =>
      obtain ⟨src, dst, haccepted, rfl⟩ := TokenProgram.transfer_ok.mp h
      exact .moved haccepted.source_eq haccepted.destination_eq _
  | burn source mint authority amount =>
      obtain ⟨account, record, haccepted, rfl⟩ := TokenProgram.burn_ok.mp h
      exact .setAmount_setSupply haccepted.account_eq haccepted.record_eq _ _
  | setFrozen key mint authority isFrozen =>
      obtain ⟨account, _, haccount, -, -, -, rfl⟩ := TokenProgram.setFrozen_ok h
      rw [Ledger.put_data?]
      exact .update_over (Ledger.tokenAccount?_eq_some.mp haccount) rfl

/-- No transaction removes an account or changes its kind. -/
theorem Action.kindsKept {action : Action Pubkey} {event : Option (Event Pubkey)}
    (h : (action.execute ctx).run l = .ok event l') : KindsKept l.data? l'.data? := by
  cases action with
  | program instruction =>
      cases instruction with
      | initializeConfig accs params =>
          obtain ⟨-, heffect⟩ := Initialize.effect h
          rw [heffect.data]
          exact .update_fresh _ heffect.fresh
      | registerAsset accs args =>
          obtain ⟨-, _, heffect⟩ := RegisterAsset.effect h
          exact heffect.kindsKept
      | tokenizeAsset accs totalSupply =>
          obtain ⟨-, _, _, heffect⟩ := TokenizeAsset.effect h
          exact heffect.kindsKept
      | transferOwnership accs amount =>
          obtain ⟨_, _, _, _, haccepted, -, rfl⟩ := TransferOwnership.execute_ok.mp h
          exact .moved haccepted.transfer.source_eq haccepted.transfer.destination_eq _
      | updateAssetMetadata accs args =>
          obtain ⟨_, haccepted, -, rfl⟩ := UpdateAssetMetadata.execute_ok.mp h
          exact .put_rwaAsset haccepted.asset_read _
      | verifyOwnership accs =>
          obtain ⟨-, -, rfl⟩ := VerifyOwnership.execute_ok.mp h
          exact .refl _
      | redeemAsset accs amount =>
          obtain ⟨_, _, _, _, haccepted, -, rfl⟩ := RedeemAsset.execute_ok.mp h
          exact .setAmount_setSupply haccepted.burn.account_eq haccepted.burn.record_eq _ _
      | setAssetStatus accs status =>
          obtain ⟨_, haccepted, -, rfl⟩ := SetAssetStatus.execute_ok.mp h
          exact .put_rwaAsset haccepted.asset_read _
  | token p instruction =>
      obtain ⟨-, hrun⟩ := Action.token_ok.mp h
      exact TokenInstruction.kindsKept hrun
  | systemTransfer source destination amount =>
      obtain ⟨-, -, -, -, rfl⟩ := Action.systemTransfer_ok.mp h
      exact .refl _

/-- A transaction that fails changes nothing, and one that succeeds keeps every kind. -/
theorem transact_kindsKept (l : Ledger Pubkey) (tx : Transaction Pubkey) :
    KindsKept l.data? (transact l tx).1.data? := by
  rcases transact_cases l tx with ⟨event, after, hrun, he⟩ | ⟨e, he⟩
  · rw [he]
    exact Action.kindsKept hrun
  · rw [he]
    exact .refl _

end RwaTokenization
