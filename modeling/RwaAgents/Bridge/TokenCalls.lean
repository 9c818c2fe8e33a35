import RwaAgents.Agents.TokenIssue
import RwaAgents.Bridge.TransferPlan
import RwaAgents.Program.Acceptance

/-!
# Token calls on the chain

Two builders of `agents/trade.ts` go to the token program without the program.
`buildMintMore` mints and `buildTransferTokens` transfers.  Here their calls are decoded
as the plan is in `TransferPlan`, and the SPL Token program runs them.

Nobody can mint more of a tokenized asset, whoever the SDK signs as
(`mint_more_refused`).  A direct transfer needs what a planned one needs but for the
status of the asset, and where both are accepted they leave the same ledger
(`direct_transfer_agrees`).
-/

namespace RwaAgents

open RwaTokenization

variable {Pubkey : Type} [DecidableEq Pubkey] [Runtime Pubkey]

/-- What the client relies on of `createTokenIfMissing`: it opens the associated account
where there is none, and is content with the one that is there. -/
structure TokenExtras (Pubkey : Type) [DecidableEq Pubkey] [Runtime Pubkey] where
  createTokenIfMissing : (signers : List Pubkey) → (payer mint owner : Pubkey) →
    ProgramM Pubkey Unit
  opens : ∀ {signers payer mint owner} {l : Ledger Pubkey},
    l.data? (Runtime.associatedTokenAddress owner .token mint) = none →
      (createTokenIfMissing signers payer mint owner).run l =
        (TokenProgram.token.createAssociated signers payer owner mint).run l
  keeps : ∀ {signers payer mint owner} {l l' : Ledger Pubkey},
    l.data? (Runtime.associatedTokenAddress owner .token mint) ≠ none →
      (createTokenIfMissing signers payer mint owner).run l = .ok () l' → l' = l
  accepts : ∀ {signers payer mint owner} {l : Ledger Pubkey} {account : TokenAccount Pubkey},
    AssociatedAccount l owner .token mint account →
      (createTokenIfMissing signers payer mint owner).run l = .ok () l

/-- A call that reaches the SPL Token program. -/
inductive TokenCall (Pubkey : Type)
  | createTokenIfMissing (mint owner : Pubkey)
  | token (instruction : TokenInstruction Pubkey)

namespace TokenCall

variable (extras : TokenExtras Pubkey) (ctx : Context Pubkey) (payer : Pubkey)

def execute : TokenCall Pubkey → ProgramM Pubkey Unit
  | createTokenIfMissing mint owner => extras.createTokenIfMissing ctx.signers payer mint owner
  | token instruction => instruction.execute ctx .token

/-- The calls of one transaction. -/
def executeAll : List (TokenCall Pubkey) → ProgramM Pubkey Unit
  | [] => pure ()
  | call :: calls => do call.execute extras ctx payer; executeAll calls

end TokenCall

section

omit [DecidableEq Pubkey]

/-- The token call an SDK call of a transfer stands for. -/
def AddressText.sdkCall? {umi : TokenUmi} (texts : AddressText Pubkey umi) :
    SdkCall → Option (TokenCall Pubkey)
  | .createTokenIfMissing mint owner =>
      return .createTokenIfMissing (← texts.decode mint) (← texts.decode owner)
  | .transferTokens source destination amount authority =>
      return .token (.transfer (← texts.decode source.address)
        (← texts.decode destination.address) (← texts.decode authority) (← amount.toU64?) none)
  | _ => none

/-- The token call an SDK call that issues units stands for. -/
def AddressText.issueCall? {umi : IdentityUmi} (texts : AddressText Pubkey umi.toTokenUmi)
    (rules : IssueRules umi) : IssueCall → Option (TokenCall Pubkey)
  | .createTokenIfMissing mint owner =>
      return .createTokenIfMissing (← texts.decode mint) (← texts.decode owner)
  | .mintTokensTo args =>
      return .token (.mintTo (← texts.decode args.mint) (← texts.decode args.token.address)
        (← texts.decode (rules.mintSigner args)) (← args.amount.toU64?))
  | .createFungible _ => none

end

section

variable {extras : TokenExtras Pubkey} {ctx : Context Pubkey} {payer : Pubkey}
  {l l' : Ledger Pubkey} {mint owner : Pubkey}

/-- The account is there afterwards, and no record has changed. -/
theorem TokenExtras.createTokenIfMissing_cases
    (h : (extras.createTokenIfMissing ctx.signers payer mint owner).run l = .ok () l') :
    l' = l ∨ transact l ⟨ctx, .token .token (.createAssociated payer owner mint)⟩ =
      (l', .ok none) := by
  cases hdata : l.data? (Runtime.associatedTokenAddress owner .token mint) with
  | some data => exact .inl (extras.keeps (by rw [hdata]; exact Option.some_ne_none _) h)
  | none =>
      rw [extras.opens hdata] at h
      exact .inr (transact_of_ok (Action.token_ok.mpr ⟨rfl, h⟩))

theorem TokenExtras.createTokenIfMissing_valid (hvalid : LedgerValid l)
    (h : (extras.createTokenIfMissing ctx.signers payer mint owner).run l = .ok () l') :
    LedgerValid l' := by
  rcases extras.createTokenIfMissing_cases h with rfl | htransact
  · exact hvalid
  · have := hvalid.transact ⟨ctx, .token .token (.createAssociated payer owner mint)⟩
    rwa [htransact] at this

omit [Runtime Pubkey] in
/-- What can be read is not missing. -/
theorem ne_of_missing {β : Type} {kind : AccountData Pubkey → Option β} {key missing : Pubkey}
    {b : β} (hmissing : l.data? missing = none) (hread : l.read kind key = some b) :
    key ≠ missing := by
  intro he
  rw [Ledger.read, he, hmissing] at hread
  cases hread

omit [Runtime Pubkey] in
/-- What a new account leaves readable. -/
theorem read_of_opened {β : Type} {kind : AccountData Pubkey → Option β} {key opened : Pubkey}
    {data : AccountData Pubkey} {b : β} (hfresh : l.data? opened = none)
    (hupdate : l'.data? = Function.update l.data? opened (some data))
    (hread : l.read kind key = some b) : l'.read kind key = some b := by
  have hne := ne_of_missing hfresh hread
  rw [Ledger.read_update hupdate, Function.update_of_ne hne]
  exact hread

theorem TokenExtras.createTokenIfMissing_tokenization
    (h : (extras.createTokenIfMissing ctx.signers payer mint owner).run l = .ok () l')
    {key : Pubkey} {tokenization : Tokenization Pubkey}
    (hread : l.tokenization? key = some tokenization) :
    l'.tokenization? key = some tokenization := by
  cases hdata : l.data? (Runtime.associatedTokenAddress owner .token mint) with
  | some data =>
      rw [extras.keeps (by rw [hdata]; exact Option.some_ne_none _) h]
      exact hread
  | none =>
      rw [extras.opens hdata] at h
      obtain ⟨_, -, -, -, hupdate⟩ := TokenProgram.createAssociated_ok h
      exact read_of_opened hdata hupdate hread

theorem executeAll_cons_ok {call : TokenCall Pubkey} {calls : List (TokenCall Pubkey)} :
    (TokenCall.executeAll extras ctx payer (call :: calls)).run l = .ok () l' ↔
      ∃ between, (call.execute extras ctx payer).run l = .ok () between ∧
        (TokenCall.executeAll extras ctx payer calls).run between = .ok () l' := by
  rw [TokenCall.executeAll, EStateM.bind_ok]
  exact ⟨fun ⟨(), between, h⟩ => ⟨between, h⟩, fun ⟨between, h⟩ => ⟨(), between, h⟩⟩

end

/-! ## Minting more -/

section

omit [DecidableEq Pubkey]

/-- More is minted of the mint in the name of the one who signs. -/
theorem mintMore_calls {umi : IdentityUmi} {texts : AddressText Pubkey umi.toTokenUmi}
    {rules : IssueRules umi} {pairing : AgentRwaPairing} {input : MintMoreInput} {more : MintMore}
    {mint : Pubkey} (hinput : asPublicKey umi.toUmi input.mint = .ok (texts.text mint))
    (hmore : buildMintMore umi.toTokenUmi pairing input = .ok more)
    {calls : List (TokenCall Pubkey)}
    (hcalls : more.builder.mapM (texts.issueCall? rules) = some calls) :
    ∃ owner account authority n,
      calls = [.createTokenIfMissing mint owner, .token (.mintTo mint account authority n)] := by
  obtain ⟨mintText, ownerText, hmint, -, rfl⟩ := buildMintMore_ok.mp hmore
  cases hinput.symm.trans hmint
  simp only [List.mapM_cons, List.mapM_nil, AddressText.issueCall?, texts.decode_text,
    Option.pure_def, Option.bind_eq_bind, Option.bind_some, Option.bind_eq_some_iff,
    Option.some.injEq, existsAndEq, and_true] at hcalls
  obtain ⟨owner, -, account, authority, n, -, rfl⟩ := hcalls
  exact ⟨owner, account, authority, n, rfl⟩

end

section

variable {extras : TokenExtras Pubkey} {ctx : Context Pubkey} {payer : Pubkey}
  {l l' : Ledger Pubkey} {mint : Pubkey}

/-- In every reachable ledger, minting more of a tokenized asset is refused, whoever the
SDK signs as. -/
theorem mint_more_refused {umi : IdentityUmi} (texts : AddressText Pubkey umi.toTokenUmi)
    (rules : IssueRules umi) (h : Reachable l) {P : AssetStatus → Prop} {asset : Pubkey}
    (hasset : l.TokenizedWith P asset mint) {pairing : AgentRwaPairing} {input : MintMoreInput}
    (hinput : asPublicKey umi.toUmi input.mint = .ok (texts.text mint)) {more : MintMore}
    (hmore : buildMintMore umi.toTokenUmi pairing input = .ok more)
    {calls : List (TokenCall Pubkey)}
    (hcalls : more.builder.mapM (texts.issueCall? rules) = some calls) :
    (TokenCall.executeAll extras ctx payer calls).run l ≠ .ok () l' := by
  intro hrun
  have hvalid := valid_of_reachable h
  obtain ⟨tokenization, -, hread, hsame, -⟩ := hvalid.exists_mint hasset
  obtain ⟨owner, account, authority, n, rfl⟩ := mintMore_calls hinput hmore hcalls
  obtain ⟨opened, hcreate, hrest⟩ := executeAll_cons_ok.mp hrun
  obtain ⟨minted, hmint, -⟩ := executeAll_cons_ok.mp hrest
  have hopened : LedgerValid opened := extras.createTokenIfMissing_valid hvalid hcreate
  obtain ⟨_, _, haccepted, -⟩ := TokenProgram.mintTo_ok.mp hmint
  exact hopened.mint_ne haccepted (extras.createTokenIfMissing_tokenization hcreate hread) hsame

end

/-! ## Direct transfers -/

section

variable {umi : TokenUmi} {texts : AddressText Pubkey umi} {pairing : AgentRwaPairing}
  {asset mint signer owner : Pubkey} {destinationOwner : AssetRef} {amount : Amount} {n : ℕ}

/-- The calls of a transfer without a mint override. -/
def directTransfer (mint signer owner : Pubkey) (n : ℕ) : List (TokenCall Pubkey) := [
  .createTokenIfMissing mint owner,
  .token (.transfer (Runtime.associatedTokenAddress signer .token mint)
    (Runtime.associatedTokenAddress owner .token mint) signer n none)]

omit [DecidableEq Pubkey] in
theorem AgentRwaPairing.Of.chosenMint_eq (h : pairing.Of texts asset mint signer) :
    chosenMint umi.toUmi pairing none = .ok (texts.text mint) := by
  rw [chosenMint, requirePairingMint, h.rwaMint_eq]
  simp only [if_neg (texts.text_nonempty mint)]
  exact texts.publicKey_text mint

omit [DecidableEq Pubkey] in
theorem AgentRwaPairing.Of.assetSignerKey_eq (h : pairing.Of texts asset mint signer) :
    assetSignerKey umi.toUmi pairing = .ok (texts.text signer) := by
  rw [assetSignerKey, h.assetSigner_eq]
  exact texts.publicKey_text signer

omit [DecidableEq Pubkey] in
theorem exists_transfer (hpairing : pairing.Of texts asset mint signer)
    (howner : asPublicKey umi.toUmi destinationOwner = .ok (texts.text owner))
    (hamount : amount.toU64? = some n) :
    ∃ transfer, buildTransferTokens umi pairing { destinationOwner, amount } = .ok transfer ∧
      transfer.builder.mapM texts.sdkCall? = some (directTransfer mint signer owner n) := by
  refine ⟨_, buildTransferTokens_ok.mpr ⟨_, _, _, hpairing.chosenMint_eq,
    hpairing.assetSignerKey_eq, howner, rfl⟩, ?_⟩
  simp only [List.mapM_cons, List.mapM_nil, AddressText.sdkCall?, texts.decode_text,
    texts.findAssociatedTokenPda_text, hamount]
  rfl

/-- The calls of the builder succeed on the chain and leave this ledger. -/
def TransferLeaves {umi : TokenUmi} (texts : AddressText Pubkey umi) (extras : TokenExtras Pubkey)
    (ctx : Context Pubkey) (payer : Pubkey) (l : Ledger Pubkey) (pairing : AgentRwaPairing)
    (input : TransferInput) (l' : Ledger Pubkey) : Prop :=
  ∃ transfer calls, buildTransferTokens umi pairing input = .ok transfer ∧
    transfer.builder.mapM texts.sdkCall? = some calls ∧
    (TokenCall.executeAll extras ctx payer calls).run l = .ok () l'

/-- The plan for the input is accepted on the chain and leaves this ledger. -/
def PlanLeaves {umi : TokenUmi} (texts : AddressText Pubkey umi) (ctx : Context Pubkey)
    (l : Ledger Pubkey) (pairing : AgentRwaPairing) (input : TransferInput) (l' : Ledger Pubkey) :
    Prop :=
  ∃ plan instruction event, buildRwaTransferOwnership umi pairing input = .ok plan ∧
    texts.instruction? plan = some instruction ∧ (instruction.execute ctx).run l = .ok event l'

variable {extras : TokenExtras Pubkey} {ctx : Context Pubkey} {payer : Pubkey}
  {l l' : Ledger Pubkey} {src dst : TokenAccount Pubkey} {tokenized : RwaAsset Pubkey}
  {record : Mint Pubkey}

theorem transferLeaves_iff (hpairing : pairing.Of texts asset mint signer)
    (howner : asPublicKey umi.toUmi destinationOwner = .ok (texts.text owner))
    (hamount : amount.toU64? = some n) (hdestination : AssociatedAccount l owner .token mint dst) :
    TransferLeaves texts extras ctx payer l pairing { destinationOwner, amount } l' ↔
      ∃ src dst, l.TransferAccepted .token ctx.signers
          (Runtime.associatedTokenAddress signer .token mint)
          (Runtime.associatedTokenAddress owner .token mint) signer n none src dst ∧
        l' = l.moved (Runtime.associatedTokenAddress signer .token mint)
          (Runtime.associatedTokenAddress owner .token mint) src dst n := by
  obtain ⟨transfer, htransfer, hcalls⟩ := exists_transfer hpairing howner hamount
  have hrun : (TokenCall.executeAll extras ctx payer (directTransfer mint signer owner n)).run l =
      .ok () l' ↔ (TokenProgram.token.transfer ctx.signers
        (Runtime.associatedTokenAddress signer .token mint)
        (Runtime.associatedTokenAddress owner .token mint) signer n none).run l = .ok () l' := by
    rw [directTransfer, executeAll_cons_ok]
    constructor
    · rintro ⟨between, hcreate, h⟩
      cases (extras.accepts hdestination).symm.trans hcreate
      obtain ⟨after, h, hdone⟩ := executeAll_cons_ok.mp h
      cases hdone
      exact h
    · intro h
      exact ⟨l, extras.accepts hdestination, executeAll_cons_ok.mpr ⟨l', h, rfl⟩⟩
  rw [← TokenProgram.transfer_ok (u := ()), ← hrun]
  constructor
  · rintro ⟨transfer', calls, htransfer', hcalls', h⟩
    cases htransfer.symm.trans htransfer'
    cases hcalls.symm.trans hcalls'
    exact h
  · intro h
    exact ⟨transfer, _, htransfer, hcalls, h⟩

theorem planLeaves_iff (hpairing : pairing.Of texts asset mint signer)
    (howner : asPublicKey umi.toUmi destinationOwner = .ok (texts.text owner))
    (hamount : amount.toU64? = some n) :
    PlanLeaves texts ctx l pairing { destinationOwner, amount } l' ↔
      ∃ event, ((Instruction.transferOwnership (plannedTransfer asset mint signer owner)
        n).execute ctx).run l = .ok event l' := by
  obtain ⟨plan, hplan, hinstruction⟩ := exists_plan hpairing howner hamount
  constructor
  · rintro ⟨plan', instruction, event, hplan', hinstruction', hrun⟩
    cases hplan.symm.trans hplan'
    cases hinstruction.symm.trans hinstruction'
    exact ⟨event, hrun⟩
  · rintro ⟨event, hrun⟩
    exact ⟨plan, _, event, hplan, hinstruction, hrun⟩

/-- A token program accepts the funded transfer of a tokenized asset in any status. -/
theorem directTransfer_accepted (hvalid : LedgerValid l)
    (hread : l.rwaAsset? asset = some tokenized) (htokenized : tokenized.isTokenized = true)
    (hmint : tokenized.mint = some mint) (hrecord : l.mint? mint = some record)
    (hprogram : record.program = .token) (hsigned : signer ∈ ctx.signers)
    (hsource : AssociatedAccount l signer .token mint src)
    (hdestination : AssociatedAccount l owner .token mint dst) (hpositive : 1 ≤ n)
    (hfunds : n ≤ src.amount) :
    l.TransferAccepted .token ctx.signers (Runtime.associatedTokenAddress signer .token mint)
      (Runtime.associatedTokenAddress owner .token mint) signer n none src dst := by
  have hsrcProgram : src.program = .token := by
    obtain ⟨record', hread', hsame⟩ := hvalid.tokens.account_mint hsource.account_eq
    rw [hsource.mint_eq, hrecord] at hread'
    cases hread'
    rw [← hsame, hprogram]
  exact hvalid.transferAccepted (P := fun _ => True) ⟨tokenized, hread, htokenized, hmint, trivial⟩
    ⟨hsource.account_eq, hsrcProgram, hsource.mint_eq, hsource.owner_eq, hsigned, hpositive, hfunds⟩
    hdestination.account_eq hdestination.mint_eq trivial

/-- The ledger with a new, empty associated account. -/
structure Opened (extras : TokenExtras Pubkey) (ctx : Context Pubkey) (payer mint owner : Pubkey)
    (l opened : Ledger Pubkey) : Prop where
  missing : l.data? (Runtime.associatedTokenAddress owner .token mint) = none
  run : (extras.createTokenIfMissing ctx.signers payer mint owner).run l = .ok () opened
  update : opened.data? = Function.update l.data? (Runtime.associatedTokenAddress owner .token mint)
    (some (.tokenAccount ⟨.token, mint, owner, 0, false⟩))

variable (extras) in
/-- The rent is all that the account of a wallet costs. -/
theorem exists_opened (hrecord : l.mint? mint = some record) (hprogram : record.program = .token)
    (hmissing : l.data? (Runtime.associatedTokenAddress owner .token mint) = none)
    (hpayer : payer ∈ ctx.signers) (hwallet : l.data? payer = none)
    (hrent : l.rentDue (Runtime.associatedTokenAddress owner .token mint) tokenAccountSize ≤
      l.lamports payer) :
    ∃ opened, Opened extras ctx payer mint owner l opened := by
  obtain ⟨opened, hcreate⟩ := createAccount_run tokenAccountSize
    (.tokenAccount ⟨.token, mint, owner, 0, false⟩) hmissing hpayer hwallet hrent
  have hopen : (TokenProgram.token.createAssociated ctx.signers payer owner mint).run l =
      .ok () opened :=
    TokenProgram.ownMint_bind_ok.mpr ⟨record, hrecord, hprogram, hcreate⟩
  exact ⟨opened, hmissing, (extras.opens hmissing).trans hopen, (createAccount_ok hcreate).2⟩

namespace Opened

variable {opened : Ledger Pubkey} (h : Opened extras ctx payer mint owner l opened)

include h

theorem valid (hvalid : LedgerValid l) : LedgerValid opened :=
  extras.createTokenIfMissing_valid hvalid h.run

theorem associated : AssociatedAccount opened owner .token mint ⟨.token, mint, owner, 0, false⟩ :=
  ⟨by rw [Ledger.tokenAccount?, Ledger.read_update h.update, Function.update_self]; rfl, rfl, rfl⟩

theorem read {β : Type} {kind : AccountData Pubkey → Option β} {key : Pubkey} {b : β}
    (hread : l.read kind key = some b) : opened.read kind key = some b :=
  read_of_opened h.missing h.update hread

/-- The new account is empty, so no balance has changed. -/
theorem balance (m key : Pubkey) : opened.balance m key = l.balance m key := by
  rw [Ledger.balance, h.update]
  by_cases hkey : key = Runtime.associatedTokenAddress owner .token mint
  · rw [hkey, Function.update_self, Ledger.balance, h.missing]
    exact ite_self 0
  · rw [Function.update_of_ne hkey, Ledger.balance]

end Opened

omit [Runtime Pubkey] in
/-- Units that move between two accounts are delivered from every ledger with the same
balances. -/
theorem UnitsDelivered.of_balance {opened after : Ledger Pubkey} {source destination : Pubkey}
    (hunits : UnitsDelivered opened after mint source destination n) (hne : source ≠ destination)
    (hbalance : ∀ m key, opened.balance m key = l.balance m key) :
    UnitsDelivered l after mint source destination n where
  debited hne := by rw [hunits.debited hne, hbalance]
  credited hne := by rw [hunits.credited hne, hbalance]
  same he := absurd he hne
  others m key hkey := by rw [hunits.others m key hkey, hbalance]

section

variable (texts : AddressText Pubkey umi) (extras : TokenExtras Pubkey) (h : Reachable l)
  (hread : l.rwaAsset? asset = some tokenized) (htokenized : tokenized.isTokenized = true)
  (hmint : tokenized.mint = some mint) (hrecord : l.mint? mint = some record)
  (hprogram : record.program = .token) (hpairing : pairing.Of texts asset mint signer)
  (hsigned : signer ∈ ctx.signers) (hsource : AssociatedAccount l signer .token mint src)
  (howner : asPublicKey umi.toUmi destinationOwner = .ok (texts.text owner))
  (hamount : amount.toU64? = some n) (hpositive : 1 ≤ n) (hfunds : n ≤ src.amount)

include h hread htokenized hmint hrecord hprogram hpairing hsigned hsource howner hamount
  hpositive hfunds

/-- In every reachable ledger a funded transfer between open accounts can be sent directly
whatever the status of the asset.  Planned, it is accepted if and only if the asset is
active, and then it leaves the same ledger. -/
theorem direct_transfer_agrees (hdestination : AssociatedAccount l owner .token mint dst) :
    ∃ l', UnitsDelivered l l' mint (Runtime.associatedTokenAddress signer .token mint)
        (Runtime.associatedTokenAddress owner .token mint) n ∧
      (∀ after, TransferLeaves texts extras ctx payer l pairing { destinationOwner, amount } after ↔
        after = l') ∧
      ∀ after, PlanLeaves texts ctx l pairing { destinationOwner, amount } after ↔
        tokenized.status = .active ∧ after = l' := by
  have hvalid := valid_of_reachable h
  have htransfer := directTransfer_accepted hvalid hread htokenized hmint hrecord hprogram
    hsigned hsource hdestination hpositive hfunds
  refine ⟨l.moved (Runtime.associatedTokenAddress signer .token mint)
    (Runtime.associatedTokenAddress owner .token mint) src dst n, ?_, fun after => ?_,
    fun after => ?_⟩
  · have hunits := unitsDelivered_moved hsource.account_eq hdestination.account_eq
      htransfer.mint_eq hfunds
    rwa [hsource.mint_eq] at hunits
  · rw [transferLeaves_iff hpairing howner hamount hdestination]
    constructor
    · rintro ⟨src', dst', haccepted, rfl⟩
      cases htransfer.source_eq.symm.trans haccepted.source_eq
      cases htransfer.destination_eq.symm.trans haccepted.destination_eq
      rfl
    · rintro rfl
      exact ⟨src, dst, htransfer, rfl⟩
  · rw [planLeaves_iff hpairing howner hamount]
    constructor
    · rintro ⟨event, hrun⟩
      obtain ⟨asset', _, src', dst', haccepted, -, rfl⟩ := TransferOwnership.execute_ok.mp hrun
      cases hread.symm.trans haccepted.asset_read
      cases htransfer.source_eq.symm.trans haccepted.transfer.source_eq
      cases htransfer.destination_eq.symm.trans haccepted.transfer.destination_eq
      exact ⟨haccepted.active, rfl⟩
    · rintro ⟨hactive, rfl⟩
      have haccepted := plannedTransfer_accepted hvalid hread htokenized hmint hactive hrecord
        hprogram hsigned hsource hdestination hpositive hfunds
      exact ⟨_, TransferOwnership.execute_ok.mpr ⟨_, _, _, _, haccepted, rfl, rfl⟩⟩

/-- A wallet without an account gets its units from a direct transfer, which opens the
account, and from no planned one. -/
theorem direct_transfer_opens
    (hmissing : l.data? (Runtime.associatedTokenAddress owner .token mint) = none)
    (hpayer : payer ∈ ctx.signers) (hwallet : l.data? payer = none)
    (hrent : l.rentDue (Runtime.associatedTokenAddress owner .token mint) tokenAccountSize ≤
      l.lamports payer) :
    (∃ after, TransferLeaves texts extras ctx payer l pairing { destinationOwner, amount } after ∧
        UnitsDelivered l after mint (Runtime.associatedTokenAddress signer .token mint)
          (Runtime.associatedTokenAddress owner .token mint) n) ∧
      ∀ after, ¬ PlanLeaves texts ctx l pairing { destinationOwner, amount } after := by
  constructor
  · obtain ⟨opened, hopened⟩ := exists_opened extras hrecord hprogram hmissing hpayer hwallet hrent
    have hsource' : AssociatedAccount opened signer .token mint src :=
      ⟨hopened.read hsource.account_eq, hsource.owner_eq, hsource.mint_eq⟩
    have htransfer := directTransfer_accepted (hopened.valid (valid_of_reachable h))
      (hopened.read hread) htokenized hmint (hopened.read hrecord) hprogram hsigned hsource'
      hopened.associated hpositive hfunds
    obtain ⟨transfer, hbuild, hcalls⟩ := exists_transfer hpairing howner hamount
    refine ⟨_, ⟨transfer, _, hbuild, hcalls, executeAll_cons_ok.mpr ⟨opened, hopened.run,
      executeAll_cons_ok.mpr ⟨_, TokenProgram.transfer_ok.mpr ⟨_, _, htransfer, rfl⟩, rfl⟩⟩⟩, ?_⟩
    have hunits := unitsDelivered_moved hsource'.account_eq hopened.associated.account_eq
      htransfer.mint_eq hfunds
    rw [hsource.mint_eq] at hunits
    exact hunits.of_balance (ne_of_missing hmissing hsource.account_eq) hopened.balance
  · intro after hplan
    obtain ⟨event, hrun⟩ := (planLeaves_iff hpairing howner hamount).mp hplan
    obtain ⟨_, _, _, _, haccepted, -, -⟩ := TransferOwnership.execute_ok.mp hrun
    have hdestination := haccepted.transfer.destination_eq
    rw [Ledger.tokenAccount?, Ledger.read] at hdestination
    change (l.data? (Runtime.associatedTokenAddress owner .token mint)).bind _ = _ at hdestination
    rw [hmissing] at hdestination
    cases hdestination

end

end

/-! ## The sample asset -/

namespace SampleText

def createTokenIfMissing (signers : List Address) (payer mint owner : Address) :
    ProgramM Address Unit := do
  match (← get).data? (.associated owner .token mint) with
  | none => TokenProgram.token.createAssociated signers payer owner mint
  | some (.tokenAccount account) =>
      EStateM.require (account.owner = owner ∧ account.mint = mint) (.token .invalidState)
  | some _ => throw (.token .invalidState)

def extras : TokenExtras Address where
  createTokenIfMissing
  opens {signers payer mint owner l} hmissing := by
    change l.data? (.associated owner .token mint) = none at hmissing
    rw [createTokenIfMissing, EStateM.run_bind]
    simp only [EStateM.run_get, hmissing]
  keeps {signers payer mint owner l l'} hthere h := by
    rw [createTokenIfMissing, EStateM.get_bind_ok] at h
    split at h
    · next hmissing => exact absurd hmissing hthere
    · exact (EStateM.require_ok.mp h).2.symm
    · exact (EStateM.throw_ok.mp h).elim
  accepts {signers payer mint owner l account} h := by
    have hdata : l.data? (.associated owner .token mint) = some (.tokenAccount account) := by
      have hread := h.account_eq
      rw [Ledger.tokenAccount?, Ledger.read] at hread
      obtain ⟨data, hdata, hkind⟩ := Option.bind_eq_some_iff.mp hread
      cases data <;> cases hkind
      exact hdata
    rw [createTokenIfMissing, EStateM.get_bind_ok, hdata]
    exact EStateM.require_ok.mpr ⟨⟨h.owner_eq, h.mint_eq⟩, rfl⟩

/-- The SDK over these texts, run by the holder of the sample asset. -/
def identityUmi : IdentityUmi where
  toTokenUmi := umi
  identity := ⟨text (.key 10), rfl⟩
  generateSigner := ⟨text (.key 21), rfl⟩

def rules : IssueRules identityUmi where
  mintAuthority args := args.authority.getD (text (.key 10))
  updateAuthority args := (args.updateAuthority.or args.authority).getD (text (.key 10))
  mintSigner args := args.mintAuthority.getD (text (.key 10))
  mintAuthority_default hauthority _ := by rw [hauthority]; rfl
  updateAuthority_default hauthority hupdate := by rw [hauthority, hupdate]; rfl
  mintSigner_default hmint := by rw [hmint]; rfl

def mintInput : MintMoreInput where
  mint := .key (text Address.houseMint)
  destinationOwner := some (.key (text (.key 11)))
  amount := .bigint 7

end SampleText

theorem mint_more_refused_house : ∃ more calls,
    buildMintMore SampleText.umi SampleText.pairing SampleText.mintInput = .ok more ∧
      more.builder.mapM (SampleText.texts.issueCall? SampleText.rules) = some calls ∧
      ∀ l', (TokenCall.executeAll SampleText.extras (Address.signedBy [10, 11]) (.key 10) calls).run
        (SampleText.tradedHouse .token) ≠ .ok () l' := by
  have hasset : (SampleText.tradedHouse .token).TokenizedWith (fun _ => True) Address.house
      Address.houseMint := ⟨Address.houseAsset, by decide, rfl, rfl, trivial⟩
  have hmore : buildMintMore SampleText.umi SampleText.pairing SampleText.mintInput = .ok _ := rfl
  have haccount : (SampleText.umi.findAssociatedTokenPda (SampleText.text Address.houseMint)
      (SampleText.text (.key 11))).address = SampleText.text (Address.houseAccount 11) :=
    SampleText.texts.findAssociatedTokenPda_text Address.houseMint (.key 11)
  have hcalls : [
      IssueCall.createTokenIfMissing (SampleText.text Address.houseMint) (SampleText.text (.key 11)),
      IssueCall.mintTokensTo {
        mint := SampleText.text Address.houseMint
        token := SampleText.umi.findAssociatedTokenPda (SampleText.text Address.houseMint)
          (SampleText.text (.key 11))
        amount := .bigint 7 }].mapM (SampleText.texts.issueCall? SampleText.rules) = some [
      .createTokenIfMissing Address.houseMint (.key 11),
      .token (.mintTo Address.houseMint (Address.houseAccount 11) (.key 10) 7)] := by
    simp only [List.mapM_cons, List.mapM_nil, AddressText.issueCall?, SampleText.texts,
      SampleText.rules, haccount, SampleText.decode_text, Option.getD_none]
    rfl
  exact ⟨_, _, hmore, hcalls, fun _ => mint_more_refused SampleText.texts SampleText.rules
    (Address.reachable_run_genesis _) hasset rfl hmore hcalls⟩

/-- The sample asset is frozen.  Its units still move, but not by plan. -/
theorem direct_transfer_agrees_frozen :
    ∃ l', ∀ after,
      TransferLeaves SampleText.texts SampleText.extras (Address.signedBy [10]) (.key 10)
          (programMachine.next (SampleText.tradedHouse .token) (Address.setHouseStatus .frozen))
          SampleText.pairing SampleText.transferInput after ↔ after = l' := by
  have hsource : AssociatedAccount
      (programMachine.next (SampleText.tradedHouse .token) (Address.setHouseStatus .frozen))
      (.key 10) .token Address.houseMint ⟨.token, Address.houseMint, .key 10, 100, false⟩ :=
    ⟨by decide, rfl, rfl⟩
  have hdestination : AssociatedAccount
      (programMachine.next (SampleText.tradedHouse .token) (Address.setHouseStatus .frozen))
      (.key 11) .token Address.houseMint ⟨.token, Address.houseMint, .key 11, 0, false⟩ :=
    ⟨by decide, rfl, rfl⟩
  have hread : (programMachine.next (SampleText.tradedHouse .token)
      (Address.setHouseStatus .frozen)).rwaAsset? Address.house =
        some { Address.houseAsset with status := .frozen } := by decide
  have hrecord : (programMachine.next (SampleText.tradedHouse .token)
      (Address.setHouseStatus .frozen)).mint? Address.houseMint =
        some ⟨.token, some (tokenizationPda Address.house), 100, 9, none⟩ := by decide
  have hsigned : Address.key 10 ∈ (Address.signedBy [10]).signers := by decide
  have hamount : (Amount.bigint 5).toU64? = some 5 := by decide
  have howner : asPublicKey SampleText.umi.toUmi (.key (SampleText.text (.key 11))) =
      .ok (SampleText.texts.text (.key 11)) := rfl
  obtain ⟨l', -, hdirect, -⟩ := direct_transfer_agrees SampleText.texts SampleText.extras
    ((Address.reachable_run_genesis _).step (Address.setHouseStatus .frozen)) hread rfl rfl hrecord
    rfl SampleText.pairing_of hsigned hsource howner hamount (by decide) (by decide) hdestination
  exact ⟨l', hdirect⟩

/-- The third holder has no account. -/
theorem direct_transfer_opens_third :
    ∃ after, TransferLeaves SampleText.texts SampleText.extras (Address.signedBy [10]) (.key 10)
      (SampleText.tradedHouse .token) SampleText.pairing
      { destinationOwner := .key (SampleText.text (.key 12)), amount := .bigint 5 } after := by
  have hsource : AssociatedAccount (SampleText.tradedHouse .token) (.key 10) .token
      Address.houseMint ⟨.token, Address.houseMint, .key 10, 100, false⟩ := ⟨by decide, rfl, rfl⟩
  have hread : (SampleText.tradedHouse .token).rwaAsset? Address.house =
      some Address.houseAsset := by decide
  have hrecord : (SampleText.tradedHouse .token).mint? Address.houseMint =
      some ⟨.token, some (tokenizationPda Address.house), 100, 9, none⟩ := by decide
  have hsigned : Address.key 10 ∈ (Address.signedBy [10]).signers := by decide
  have hamount : (Amount.bigint 5).toU64? = some 5 := by decide
  have howner : asPublicKey SampleText.umi.toUmi (.key (SampleText.text (.key 12))) =
      .ok (SampleText.texts.text (.key 12)) := rfl
  have hwallet : (SampleText.tradedHouse .token).data? (.key 10) = none := by decide
  have hrent : (SampleText.tradedHouse .token).rentDue
      (.associated (.key 12) .token Address.houseMint) tokenAccountSize ≤
        (SampleText.tradedHouse .token).lamports (.key 10) := by decide
  obtain ⟨after, hafter, -⟩ := (direct_transfer_opens SampleText.texts SampleText.extras
    (Address.reachable_run_genesis _) hread rfl rfl hrecord rfl SampleText.pairing_of hsigned
    hsource howner hamount (by decide) (by decide) (by decide) hsigned hwallet hrent).1
  exact ⟨after, hafter⟩

end RwaAgents
