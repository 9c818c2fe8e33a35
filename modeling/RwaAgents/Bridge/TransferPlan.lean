import RwaAgents.Agents.Trade
import RwaAgents.Program.Freeze

/-!
# Transfer plans on the chain

`buildRwaTransferOwnership` plans a `transfer_ownership` in texts.  Here the plan
is decoded into the accounts of the instruction and the program runs it.
`AddressText` says how texts and addresses correspond, and states what the
client relies on of the SDK: `findAssociatedTokenPda` derives the account of the
SPL Token program.

`tokenize_asset` takes either token program.  The plan names the SPL Token program
and derives both token accounts under it, so it is accepted if the mint belongs to
that program, and only then (`transfer_plan_accepted_iff`).
-/

namespace RwaAgents

open RwaTokenization

/-- How addresses are written, for an SDK. -/
structure AddressText (Pubkey : Type) [Runtime Pubkey] (umi : TokenUmi) where
  text : Pubkey → String
  decode : String → Option Pubkey
  decode_text : ∀ key, decode (text key) = some key
  text_nonempty : ∀ key, text key ≠ ""
  publicKey_text : ∀ key, umi.publicKey (text key) = .ok (text key)
  findAssociatedTokenPda_text : ∀ mint owner,
    (umi.findAssociatedTokenPda (text mint) (text owner)).address =
      text (Runtime.associatedTokenAddress owner .token mint)

/-- The program of a token program account, if the interface admits it. -/
def tokenProgram? (address : String) : Option TokenProgram :=
  if address = tokenProgramId then some .token
  else if address = "TokenzQdBNbLqP5VEhdkAS6EPFLC1PHnBqCXEpPxuEb" then some .token2022
  else none

/-- The amount an instruction can carry. -/
def Amount.toU64? : Amount → Option ℕ
  | .number (.finite q) =>
      if q.den = 1 ∧ 0 ≤ q.num ∧ q.num.toNat < u64Bound then some q.num.toNat else none
  | .number _ => none
  | .bigint n => if 0 ≤ n ∧ n.toNat < u64Bound then some n.toNat else none

section

variable {Pubkey : Type} [Runtime Pubkey] {umi : TokenUmi} (texts : AddressText Pubkey umi)

/-- The instruction a plan stands for. -/
def AddressText.instruction? (plan : RwaTransferOwnershipPlan) : Option (Instruction Pubkey) := do
  guard (plan.programId = rwaProgramId ∧ plan.instruction = "transfer_ownership" ∧
    plan.accounts.clock = sysvarClock)
  let asset ← texts.decode plan.accounts.asset
  let «from» ← texts.decode plan.accounts.from
  let fromTokenAccount ← texts.decode plan.accounts.fromTokenAccount
  let toTokenAccount ← texts.decode plan.accounts.toTokenAccount
  let mint ← texts.decode plan.accounts.mint
  let tokenProgram ← tokenProgram? plan.accounts.tokenProgram
  let amount ← plan.amount.toU64?
  return .transferOwnership
    { asset, «from», fromTokenAccount, toTokenAccount, mint, tokenProgram } amount

/-- The pairing is one of this asset, with this mint and this Asset Signer. -/
structure AgentRwaPairing.Of (pairing : AgentRwaPairing) (asset mint signer : Pubkey) : Prop where
  rwaAsset_eq : pairing.rwaAsset = texts.text asset
  rwaMint_eq : pairing.rwaMint = some (texts.text mint)
  assetSigner_eq : pairing.assetSigner = texts.text signer

end

variable {Pubkey : Type} [DecidableEq Pubkey] [Runtime Pubkey]

/-- The associated account of an owner for a mint of a token program. -/
structure AssociatedAccount (l : Ledger Pubkey) (owner : Pubkey) (p : TokenProgram)
    (mint : Pubkey) (account : TokenAccount Pubkey) : Prop where
  account_eq : l.tokenAccount? (Runtime.associatedTokenAddress owner p mint) = some account
  owner_eq : account.owner = owner
  mint_eq : account.mint = mint

/-- Units of a mint went from one account to another, and nothing else moved. -/
structure UnitsDelivered (l l' : Ledger Pubkey) (mint source destination : Pubkey) (n : ℕ) :
    Prop where
  debited : source ≠ destination → l'.balance mint source + n = l.balance mint source
  credited : source ≠ destination →
    l'.balance mint destination = l.balance mint destination + n
  same : source = destination → l' = l
  others : ∀ m k, m ≠ mint ∨ k ≠ source ∧ k ≠ destination → l'.balance m k = l.balance m k

/-- The plan for the input is accepted on the chain and delivers the units. -/
def PlanDelivers {umi : TokenUmi} (texts : AddressText Pubkey umi) (ctx : Context Pubkey)
    (l : Ledger Pubkey) (pairing : AgentRwaPairing) (input : TransferInput)
    (mint source destination : Pubkey) (n : ℕ) : Prop :=
  ∃ plan instruction event l', buildRwaTransferOwnership umi pairing input = .ok plan ∧
    texts.instruction? plan = some instruction ∧
    (instruction.execute ctx).run l = .ok event l' ∧
    UnitsDelivered l l' mint source destination n

/-! ## The plan -/

section

variable {umi : TokenUmi} {texts : AddressText Pubkey umi} {pairing : AgentRwaPairing}
  {asset mint signer owner : Pubkey} {destinationOwner : AssetRef} {amount : Amount} {n : ℕ}

/-- The transfer a plan without a mint override stands for. -/
def plannedTransfer (asset mint signer owner : Pubkey) : TransferOwnership Pubkey where
  asset
  «from» := signer
  fromTokenAccount := Runtime.associatedTokenAddress signer .token mint
  toTokenAccount := Runtime.associatedTokenAddress owner .token mint
  mint
  tokenProgram := .token

omit [DecidableEq Pubkey] in
theorem exists_plan (hpairing : pairing.Of texts asset mint signer)
    (howner : asPublicKey umi.toUmi destinationOwner = .ok (texts.text owner))
    (hamount : amount.toU64? = some n) :
    ∃ plan, buildRwaTransferOwnership umi pairing { destinationOwner, amount } = .ok plan ∧
      texts.instruction? plan =
        some (.transferOwnership (plannedTransfer asset mint signer owner) n) := by
  have hmint : chosenMint umi.toUmi pairing none = .ok (texts.text mint) := by
    rw [chosenMint, requirePairingMint, hpairing.rwaMint_eq]
    simp only [if_neg (texts.text_nonempty mint)]
    exact texts.publicKey_text mint
  have hsigner : assetSignerKey umi.toUmi pairing = .ok (texts.text signer) := by
    rw [assetSignerKey, hpairing.assetSigner_eq]
    exact texts.publicKey_text signer
  refine ⟨_, buildRwaTransferOwnership_ok.mpr ⟨_, _, _, hmint, hsigner, howner, rfl⟩, ?_⟩
  have hprogram : tokenProgram? tokenProgramId = some .token := if_pos rfl
  simp only [AddressText.instruction?, hpairing.rwaAsset_eq, hpairing.assetSigner_eq,
    texts.findAssociatedTokenPda_text, texts.decode_text, hprogram, hamount]
  rfl

/-- A plan delivers if the program carries out the planned transfer. -/
theorem planDelivers_iff {ctx : Context Pubkey} {l : Ledger Pubkey} {source destination : Pubkey}
    (hpairing : pairing.Of texts asset mint signer)
    (howner : asPublicKey umi.toUmi destinationOwner = .ok (texts.text owner))
    (hamount : amount.toU64? = some n) :
    PlanDelivers texts ctx l pairing { destinationOwner, amount } mint source destination n ↔
      ∃ event l', ((Instruction.transferOwnership (plannedTransfer asset mint signer owner)
          n).execute ctx).run l = .ok event l' ∧
        UnitsDelivered l l' mint source destination n := by
  obtain ⟨plan, hplan, hinstruction⟩ := exists_plan hpairing howner hamount
  constructor
  · rintro ⟨plan', instruction, event, l', hplan', hinstruction', hrun, hunits⟩
    cases hplan.symm.trans hplan'
    cases hinstruction.symm.trans hinstruction'
    exact ⟨event, l', hrun, hunits⟩
  · rintro ⟨event, l', hrun, hunits⟩
    exact ⟨plan, _, event, l', hplan, hinstruction, hrun, hunits⟩

end

/-! ## The transfer -/

section

variable {l : Ledger Pubkey} {source destination : Pubkey} {src dst : TokenAccount Pubkey} {n : ℕ}

omit [Runtime Pubkey] in
theorem unitsDelivered_moved (hsource : l.tokenAccount? source = some src)
    (hdestination : l.tokenAccount? destination = some dst) (hmint : src.mint = dst.mint)
    (hfunds : n ≤ src.amount) : UnitsDelivered l (l.moved source destination src dst n) src.mint
      source destination n where
  debited hne := by
    rw [Ledger.moved_balance_source hne, Ledger.balance_of_account hsource, if_pos rfl]
    omega
  credited hne := by
    rw [hmint, Ledger.moved_balance_destination hne, Ledger.balance_of_account hdestination,
      if_pos rfl]
  same he := by rw [Ledger.moved, if_pos he]
  others m k h := by
    by_cases hm : src.mint = m
    · obtain ⟨hks, hkd⟩ := h.resolve_left (not_not.mpr hm.symm)
      by_cases hne : source = destination
      · rw [Ledger.moved, if_pos hne]
      · rw [Ledger.balance_eq, Ledger.balance_eq, Ledger.moved_tokenAccount? hne,
          Function.update_of_ne hkd, Function.update_of_ne hks]
    · exact Ledger.moved_balance_of_ne hsource hdestination hm (hmint ▸ hm) n k

variable {ctx : Context Pubkey} {asset mint signer owner : Pubkey} {record : Mint Pubkey}

/-- The planned transfer names the SPL Token program, which must own the mint. -/
theorem program_of_plannedTransfer {event : Option (Event Pubkey)} {l' : Ledger Pubkey}
    (hrecord : l.mint? mint = some record)
    (h : ((Instruction.transferOwnership (plannedTransfer asset mint signer owner) n).execute
      ctx).run l = .ok event l') : record.program = .token := by
  obtain ⟨_, _, _, _, haccepted, -, -⟩ := TransferOwnership.execute_ok.mp h
  obtain ⟨-, record', hread, hprogram, -⟩ := haccepted.transfer.checked_by
  cases hrecord.symm.trans hread
  exact hprogram

/-- The program accepts the planned transfer of an active asset whose mint belongs
to the SPL Token program. -/
theorem plannedTransfer_accepted {tokenized : RwaAsset Pubkey} (h : LedgerValid l)
    (hread : l.rwaAsset? asset = some tokenized) (htokenized : tokenized.isTokenized = true)
    (hmint : tokenized.mint = some mint) (hactive : tokenized.status = .active)
    (hrecord : l.mint? mint = some record) (hprogram : record.program = .token)
    (hsigned : signer ∈ ctx.signers) (hsource : AssociatedAccount l signer .token mint src)
    (hdestination : AssociatedAccount l owner .token mint dst) (hpositive : 0 < n)
    (hfunds : n ≤ src.amount) :
    (plannedTransfer asset mint signer owner).Accepted ctx n tokenized record src dst l := by
  have hsrcProgram : src.program = .token := by
    obtain ⟨record', hread', hsame⟩ := h.tokens.account_mint hsource.account_eq
    rw [hsource.mint_eq, hrecord] at hread'
    cases hread'
    rw [← hsame, hprogram]
  have hfunded : l.Funded .token ctx.signers (Runtime.associatedTokenAddress signer .token mint)
      mint signer n src :=
    ⟨hsource.account_eq, hsrcProgram, hsource.mint_eq, hsource.owner_eq, hsigned, hpositive,
      hfunds⟩
  exact {
    asset_read := hread
    asset_eq := h.records.asset_eq hread
    tokenized := htokenized
    active := hactive
    asset_mint := hmint
    mint_read := hrecord
    positive := hpositive
    transfer := h.transferAccepted (P := (· = .active))
      ⟨tokenized, hread, htokenized, hmint, hactive⟩ hfunded hdestination.account_eq
      hdestination.mint_eq ⟨hsource.mint_eq, record, hrecord, hprogram, rfl⟩ }

variable {umi : TokenUmi} {pairing : AgentRwaPairing} {destinationOwner : AssetRef}
  {amount : Amount}

/-- On every reachable ledger, the plan for a funded transfer of an active asset is
accepted and delivers exactly its amount, if and only if the mint belongs to the
SPL Token program. -/
theorem transfer_plan_accepted_iff (texts : AddressText Pubkey umi) (h : Reachable l)
    (hactive : l.TokenizedWith (· = .active) asset mint) (hrecord : l.mint? mint = some record)
    (hpairing : pairing.Of texts asset mint signer) (hsigned : signer ∈ ctx.signers)
    (hsource : AssociatedAccount l signer record.program mint src)
    (howner : asPublicKey umi.toUmi destinationOwner = .ok (texts.text owner))
    (hdestination : AssociatedAccount l owner record.program mint dst)
    (hamount : amount.toU64? = some n) (hpositive : 1 ≤ n) (hfunds : n ≤ src.amount) :
    PlanDelivers texts ctx l pairing { destinationOwner, amount } mint
        (Runtime.associatedTokenAddress signer record.program mint)
        (Runtime.associatedTokenAddress owner record.program mint) n ↔
      record.program = .token := by
  rw [planDelivers_iff hpairing howner hamount]
  constructor
  · rintro ⟨event, l', hrun, -⟩
    exact program_of_plannedTransfer hrecord hrun
  · intro hprogram
    obtain ⟨tokenized, hread, htokenized, hmint, hstatus⟩ := hactive
    rw [hprogram] at hsource hdestination ⊢
    have haccepted := plannedTransfer_accepted (valid_of_reachable h) hread htokenized hmint hstatus
      hrecord hprogram hsigned hsource hdestination hpositive hfunds
    refine ⟨_, _, TransferOwnership.execute_ok.mpr ⟨_, _, _, _, haccepted, rfl, rfl⟩, ?_⟩
    have hunits := unitsDelivered_moved hsource.account_eq hdestination.account_eq
      haccepted.transfer.mint_eq hfunds
    rwa [hsource.mint_eq] at hunits

end

/-! ## Symbolic addresses as texts -/

namespace SampleText

def natCode : ℕ → List Char
  | 0 => ['.']
  | n + 1 => '|' :: natCode n

def literalCode : List Char → List Char
  | [] => ['.']
  | c :: cs => '|' :: c :: literalCode cs

/-- Symbolic addresses in Polish notation. -/
def code : Address → List Char
  | .key n => 'k' :: natCode n
  | .pda literal => 'p' :: literalCode literal.toList
  | .pdaOf literal seed => 's' :: (literalCode literal.toList ++ code seed)
  | .associated owner .token mint => 'a' :: (code owner ++ code mint)
  | .associated owner .token2022 mint => 'b' :: (code owner ++ code mint)

def parseNat : List Char → Option (ℕ × List Char)
  | '.' :: cs => some (0, cs)
  | '|' :: cs => (parseNat cs).map fun e => (e.1 + 1, e.2)
  | _ => none

def parseLiteral : List Char → Option (List Char × List Char)
  | '.' :: cs => some ([], cs)
  | '|' :: c :: cs => (parseLiteral cs).map fun e => (c :: e.1, e.2)
  | _ => none

/-- Read one address off the front.  The fuel bounds its depth. -/
def parse : ℕ → List Char → Option (Address × List Char)
  | _ + 1, 'k' :: cs => (parseNat cs).map fun e => (.key e.1, e.2)
  | _ + 1, 'p' :: cs => (parseLiteral cs).map fun e => (.pda (String.ofList e.1), e.2)
  | fuel + 1, 's' :: cs => do
      let (literal, cs) ← parseLiteral cs
      let (seed, cs) ← parse fuel cs
      return (.pdaOf (String.ofList literal) seed, cs)
  | fuel + 1, 'a' :: cs => do
      let (owner, cs) ← parse fuel cs
      let (mint, cs) ← parse fuel cs
      return (.associated owner .token mint, cs)
  | fuel + 1, 'b' :: cs => do
      let (owner, cs) ← parse fuel cs
      let (mint, cs) ← parse fuel cs
      return (.associated owner .token2022 mint, cs)
  | _, _ => none

theorem parseNat_natCode (n : ℕ) (cs : List Char) : parseNat (natCode n ++ cs) = some (n, cs) := by
  induction n with
  | zero => rfl
  | succ n ih =>
      show (parseNat (natCode n ++ cs)).map _ = _
      rw [ih]
      rfl

theorem parseLiteral_literalCode (literal cs : List Char) :
    parseLiteral (literalCode literal ++ cs) = some (literal, cs) := by
  induction literal with
  | nil => rfl
  | cons c literal ih =>
      show (parseLiteral (literalCode literal ++ cs)).map _ = _
      rw [ih]
      rfl

theorem parse_code (address : Address) {fuel : ℕ} (hfuel : (code address).length ≤ fuel)
    (cs : List Char) : parse fuel (code address ++ cs) = some (address, cs) := by
  induction address generalizing fuel cs with
  | key n =>
      cases fuel with
      | zero => simp [code] at hfuel
      | succ fuel =>
          show (parseNat (natCode n ++ cs)).map _ = _
          rw [parseNat_natCode]
          rfl
  | pda literal =>
      cases fuel with
      | zero => simp [code] at hfuel
      | succ fuel =>
          show (parseLiteral (literalCode literal.toList ++ cs)).map _ = _
          rw [parseLiteral_literalCode, Option.map_some, String.ofList_toList]
  | pdaOf literal seed ih =>
      cases fuel with
      | zero => simp [code] at hfuel
      | succ fuel =>
          have hseed : (code seed).length ≤ fuel := by
            simp only [code, List.length_cons, List.length_append] at hfuel
            omega
          rw [code, List.cons_append, List.append_assoc]
          simp only [parse, parseLiteral_literalCode, Option.bind_eq_bind, Option.bind_some,
            ih hseed, String.ofList_toList]
          rfl
  | associated owner p mint ihOwner ihMint =>
      cases fuel with
      | zero => cases p <;> simp [code] at hfuel
      | succ fuel =>
          have hlength : (code owner).length + (code mint).length ≤ fuel := by
            cases p <;> simp only [code, List.length_cons, List.length_append] at hfuel <;> omega
          have howner : (code owner).length ≤ fuel := by omega
          have hmint : (code mint).length ≤ fuel := by omega
          cases p with
          | token =>
              rw [code, List.cons_append, List.append_assoc]
              simp only [parse, Option.bind_eq_bind, ihOwner howner, Option.bind_some, ihMint hmint]
              rfl
          | token2022 =>
              rw [code, List.cons_append, List.append_assoc]
              simp only [parse, Option.bind_eq_bind, ihOwner howner, Option.bind_some, ihMint hmint]
              rfl

def text (address : Address) : String := String.ofList (code address)

def decode (s : String) : Option Address :=
  (parse s.toList.length s.toList).map Prod.fst

theorem decode_text (address : Address) : decode (text address) = some address := by
  have hparse := parse_code address (Nat.le_refl _) []
  rw [List.append_nil] at hparse
  rw [decode, text, String.toList_ofList, hparse]
  rfl

/-- An SDK over these texts. -/
def umi : TokenUmi where
  publicKey := .ok
  publicKey_eq := publicKey_eq_of_ok
  findAgentIdentityV1Pda asset := ⟨"identity-of-" ++ asset, 255⟩
  findAssetSignerPda asset := ⟨"signer-of-" ++ asset, 254⟩
  findAssociatedTokenPda mint owner :=
    ⟨String.ofList ('a' :: (owner.toList ++ mint.toList)), 253⟩

theorem text_nonempty (address : Address) : text address ≠ "" := by
  intro he
  have hdecode := decode_text address
  rw [he] at hdecode
  cases hdecode

def texts : AddressText Address umi where
  text
  decode
  decode_text
  text_nonempty
  publicKey_text _ := rfl
  findAssociatedTokenPda_text mint owner := by
    show String.ofList ('a' :: ((text owner).toList ++ (text mint).toList)) = _
    rw [text, text, String.toList_ofList, String.toList_ofList]
    rfl

/-- The sample asset tokenized under a token program, with a second holder. -/
def tradedHouse (p : TokenProgram) : Ledger Address :=
  programMachine.run Address.genesis (Address.registerHouse ++ [
    Address.program [10, 20] (.tokenizeAsset ⟨globalConfigPda, Address.house, Address.houseMint,
      tokenizationPda Address.house, .associated (.key 10) p Address.houseMint, .key 10, p⟩ 100),
    ⟨Address.signedBy [10], .token p (.createAssociated (.key 10) (.key 11) Address.houseMint)⟩])

/-- A pairing of the sample asset, whose Asset Signer tokenized it. -/
def pairing : AgentRwaPairing where
  agentAsset := "agent"
  agentIdentity := "identity-of-agent"
  assetSigner := text (.key 10)
  rwaAsset := text Address.house
  rwaAssetId := text Address.houseId
  rwaMint := some (text Address.houseMint)
  agentToken := none
  agentTokenBound := false

/-- A transfer of five units to the second holder. -/
def transferInput : TransferInput where
  destinationOwner := .key (text (.key 11))
  amount := .bigint 5

theorem pairing_of : pairing.Of texts Address.house Address.houseMint (.key 10) := ⟨rfl, rfl, rfl⟩

/-- The plan delivers under this token program. -/
def Delivers (p : TokenProgram) : Prop :=
  PlanDelivers texts (Address.signedBy [10]) (tradedHouse p) pairing transferInput
    Address.houseMint (.associated (.key 10) p Address.houseMint)
    (.associated (.key 11) p Address.houseMint) 5

end SampleText

/-- Under the SPL Token program five units are delivered. -/
theorem transfer_plan_accepted_token : SampleText.Delivers .token := by
  have hrecord : (SampleText.tradedHouse .token).mint? Address.houseMint =
      some ⟨.token, some (tokenizationPda Address.house), 100, 9, none⟩ := by decide
  have hsource : AssociatedAccount (SampleText.tradedHouse .token) (.key 10) .token
      Address.houseMint ⟨.token, Address.houseMint, .key 10, 100, false⟩ := ⟨by decide, rfl, rfl⟩
  have hdestination : AssociatedAccount (SampleText.tradedHouse .token) (.key 11) .token
      Address.houseMint ⟨.token, Address.houseMint, .key 11, 0, false⟩ := ⟨by decide, rfl, rfl⟩
  have hamount : (Amount.bigint 5).toU64? = some 5 := by decide
  exact (transfer_plan_accepted_iff SampleText.texts (Address.reachable_run_genesis _)
    ⟨Address.houseAsset, by decide, rfl, rfl, rfl⟩ hrecord SampleText.pairing_of (by decide)
    hsource rfl hdestination hamount (by decide) (by decide)).mpr rfl

/-- Under Token-2022 everything is in place and the plan is refused. -/
theorem transfer_plan_refused_token2022 :
    (SampleText.tradedHouse .token2022).TokenizedWith (· = .active) Address.house
        Address.houseMint ∧
      AssociatedAccount (SampleText.tradedHouse .token2022) (.key 10) .token2022 Address.houseMint
        ⟨.token2022, Address.houseMint, .key 10, 100, false⟩ ∧
      AssociatedAccount (SampleText.tradedHouse .token2022) (.key 11) .token2022 Address.houseMint
        ⟨.token2022, Address.houseMint, .key 11, 0, false⟩ ∧
      ¬ SampleText.Delivers .token2022 := by
  refine ⟨⟨Address.houseAsset, by decide, rfl, rfl, rfl⟩, ⟨by decide, rfl, rfl⟩,
    ⟨by decide, rfl, rfl⟩, fun hdelivers => ?_⟩
  have hrecord : (SampleText.tradedHouse .token2022).mint? Address.houseMint =
      some ⟨.token2022, some (tokenizationPda Address.house), 100, 9, none⟩ := by decide
  have hamount : (Amount.bigint 5).toU64? = some 5 := by decide
  obtain ⟨event, l', hrun, -⟩ :=
    (planDelivers_iff SampleText.pairing_of rfl hamount).mp hdelivers
  cases program_of_plannedTransfer hrecord hrun

end RwaAgents
