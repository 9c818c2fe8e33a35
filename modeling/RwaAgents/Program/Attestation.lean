import RwaAgents.Program.InstructionSpec

/-!
# Attested balances

`verify_ownership` emits who owns how much of an asset.  It takes the token account
and the owner as its caller gives them, reads neither, and emits a balance of zero.

So what it emits is true exactly if the caller happened to name an empty account of
the asset that belongs to the owner it named (`attested_iff`).
-/

namespace RwaTokenization

variable {Pubkey : Type} [DecidableEq Pubkey]

/-- The account at an address holds this balance of the asset for the owner. -/
def Ledger.HoldsUnits (l : Ledger Pubkey) (tokenAccount : Pubkey) (asset : RwaAsset Pubkey)
    (owner : Pubkey) (balance : ℕ) : Prop :=
  ∃ account, l.tokenAccount? tokenAccount = some account ∧ asset.mint = some account.mint ∧
    account.owner = owner ∧ account.amount = balance

variable [Runtime Pubkey]

/-- If the step verified the ownership of a token account, what it emitted holds of that
account. -/
def Attested (e : ProgramStep Pubkey) : Prop :=
  ∀ accs key owner balance now, e.action.action = .program (.verifyOwnership accs) →
    e.output = .ok (some (.ownershipVerified key owner balance now)) →
      ∃ asset, e.before.rwaAsset? key = some asset ∧
        e.before.HoldsUnits accs.tokenAccount asset owner balance

/-- The record the call names is a tokenized asset at its own address. -/
structure VerifyOwnership.Checked (accs : VerifyOwnership Pubkey) (asset : RwaAsset Pubkey)
    (l : Ledger Pubkey) : Prop where
  asset_read : l.rwaAsset? accs.asset = some asset
  asset_eq : accs.asset = assetPda asset.assetId
  tokenized : asset.isTokenized = true

/-- If the step verifies an ownership and its asset passes the checks that are made, the
token account is an empty account of the asset that belongs to the owner. -/
def NamesEmptyAccount (e : ProgramStep Pubkey) : Prop :=
  ∀ accs asset, e.action.action = .program (.verifyOwnership accs) →
    accs.Checked asset e.before → e.before.HoldsUnits accs.tokenAccount asset accs.owner 0

theorem NamesEmptyAccount.of_ne {e : ProgramStep Pubkey}
    (h : ∀ accs, e.action.action ≠ .program (.verifyOwnership accs)) : NamesEmptyAccount e :=
  fun accs _ haction _ => absurd haction (h accs)

/-- A verification that passes its checks emits a balance of zero for the owner it was
given, and nothing else. -/
theorem output_verifyOwnership {l : Ledger Pubkey} {ctx : Context Pubkey}
    {accs : VerifyOwnership Pubkey} {event : Option (Event Pubkey)} :
    programMachine.output l ⟨ctx, .program (.verifyOwnership accs)⟩ = .ok event ↔
      (∃ asset, accs.Checked asset l) ∧
        event = some (.ownershipVerified accs.asset accs.owner 0 ctx.unixTimestamp) := by
  constructor
  · intro houtput
    rcases transact_cases l ⟨ctx, .program (.verifyOwnership accs)⟩ with
      ⟨event', after, hrun, he⟩ | ⟨e, he⟩
    · cases (congrArg Prod.snd he).symm.trans houtput
      obtain ⟨⟨asset, hread, hseeds, htokenized⟩, hevent, -⟩ := VerifyOwnership.execute_ok.mp hrun
      exact ⟨⟨asset, hread, hseeds, htokenized⟩, hevent⟩
    · cases (congrArg Prod.snd he).symm.trans houtput
  · intro ⟨⟨asset, h⟩, hevent⟩
    have hrun : ((Action.program (.verifyOwnership accs)).execute ctx).run l = .ok event l :=
      VerifyOwnership.execute_ok.mpr
        ⟨⟨asset, h.asset_read, h.asset_eq, h.tokenized⟩, hevent, rfl⟩
    exact congrArg Prod.snd (transact_of_ok hrun)

/-- A step attests what is true if and only if it names an empty account. -/
theorem attested_stepAt_iff (l : Ledger Pubkey) (tx : Transaction Pubkey) :
    Attested (programMachine.stepAt l tx) ↔ NamesEmptyAccount (programMachine.stepAt l tx) := by
  obtain ⟨ctx, action⟩ := tx
  constructor
  · intro hattested accs asset haction h
    cases haction
    obtain ⟨asset', hread, hholds⟩ := hattested accs _ _ _ _ rfl
      (output_verifyOwnership.mpr ⟨⟨asset, h⟩, rfl⟩)
    cases h.asset_read.symm.trans hread
    exact hholds
  · intro hnames accs key owner balance now haction houtput
    cases haction
    obtain ⟨⟨asset, h⟩, hevent⟩ := output_verifyOwnership.mp houtput
    cases hevent
    exact ⟨asset, h.asset_read, hnames accs asset rfl h⟩

/-- Everything a run attests is true if and only if every verification in it names an
empty token account of the asset that belongs to the owner. -/
theorem attested_iff {l : Ledger Pubkey} (hstart : programMachine.start l)
    (txs : List (Transaction Pubkey)) :
    (∀ e ∈ programMachine.steps l txs, Attested e) ↔
      ∀ e ∈ programMachine.steps l txs, NamesEmptyAccount e :=
  (Machine.Reachable.start hstart).forall_steps_congr
    (fun l tx _ => attested_stepAt_iff l tx) txs

namespace Address

/-- Anyone asks for the ownership of an account of the sample asset. -/
def verifyHouse (tokenAccount owner : Address) : Transaction Address :=
  program [] (.verifyOwnership ⟨house, tokenAccount, owner, .token⟩)

/-- An account that was opened and holds nothing. -/
def emptyHouseAccount : List (Transaction Address) :=
  registerHouse ++ [tokenizeHouse, openHouseAccount 11]

end Address

/-- The balance of an account that holds nothing is attested. -/
theorem attested_empty_account :
    Attested (programMachine.stepAt (programMachine.run Address.genesis Address.emptyHouseAccount)
      (Address.verifyHouse (Address.houseAccount 11) (Address.key 11))) := by
  have hnames : ∀ e ∈ programMachine.steps Address.genesis
      (Address.emptyHouseAccount ++
        [Address.verifyHouse (Address.houseAccount 11) (Address.key 11)]),
      NamesEmptyAccount e := by
    rw [Address.emptyHouseAccount, Address.registerHouse]
    simp only [List.cons_append, List.nil_append, Machine.steps_cons, Machine.steps_nil,
      List.forall_mem_cons]
    refine ⟨.of_ne (fun _ h => by cases h), .of_ne (fun _ h => by cases h),
      .of_ne (fun _ h => by cases h), .of_ne (fun _ h => by cases h), ?_,
      fun e he => absurd he List.not_mem_nil⟩
    intro accs asset haction h
    cases haction
    have hread : (programMachine.run Address.genesis Address.emptyHouseAccount).rwaAsset?
        Address.house = some Address.houseAsset := by decide
    cases h.asset_read.symm.trans hread
    exact ⟨⟨.token, Address.houseMint, Address.key 11, 0, false⟩, by decide, rfl, rfl, rfl⟩
  exact (attested_iff (l := Address.genesis) rfl _).mpr hnames _
    (Machine.stepAt_mem_steps _ Address.emptyHouseAccount _ [])

/-- The owner of a hundred units is attested none. -/
theorem attested_nothing_of_hundred :
    ¬ ∀ e ∈ programMachine.steps Address.genesis
        (Address.registerHouse ++ [Address.tokenizeHouse] ++
          [Address.verifyHouse (Address.houseAccount 10) (Address.key 10)]), Attested e := by
  intro h
  have hattested := h _ (Machine.stepAt_mem_steps _
    (Address.registerHouse ++ [Address.tokenizeHouse]) _ [])
  have houtput : programMachine.output Address.tokenizedHouse
      (Address.verifyHouse (Address.houseAccount 10) (Address.key 10)) =
        .ok (some (.ownershipVerified Address.house (Address.key 10) 0 0)) := by decide
  obtain ⟨asset, -, account, haccount, -, -, hbalance⟩ := hattested _ _ _ _ _ rfl houtput
  have hamount : (Address.tokenizedHouse.tokenAccount? (Address.houseAccount 10)).map
      (·.amount) = some 100 := by decide
  rw [show Address.tokenizedHouse.tokenAccount? (Address.houseAccount 10) = some account
    from haccount, Option.map_some, hbalance] at hamount
  exact absurd hamount (by decide)

end RwaTokenization
