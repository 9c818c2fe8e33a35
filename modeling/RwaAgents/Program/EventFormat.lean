import RwaAgents.Program.EventLog
import RwaAgents.Program.Storage

/-!
# The bytes of the event log

`emit!` logs an event as bytes: a discriminator that tells its type and its fields in
the order of `events.rs`.  Every event of a transaction that can be sent fits its format,
because the units it speaks of are held by an account.

So an indexer that has nothing but the logged bytes reads all events of a run and has
the register of the chain (`log_read`).
-/

namespace RwaTokenization

variable {Pubkey : Type}

/-! ## The format of the events -/

inductive EventKind
  | assetRegistered
  | assetTokenized
  | ownershipTransferred
  | assetMetadataUpdated
  | assetStatusChanged
  | assetRedeemed
  | ownershipVerified
deriving DecidableEq, Repr

/-- The first eight bytes of a logged event, which tell its type. -/
structure EventDiscriminators where
  of : EventKind → Vector UInt8 8
  injective : ∀ a b, of a = of b → a = b

def EventDiscriminators.kind (D : EventDiscriminators) : Codec EventKind :=
  .table D.of [.assetRegistered, .assetTokenized, .ownershipTransferred, .assetMetadataUpdated,
    .assetStatusChanged, .assetRedeemed, .ownershipVerified] fun a _ b _ => D.injective a b

theorem EventDiscriminators.kind_fits (D : EventDiscriminators) (k : EventKind) :
    D.kind.Fits k := by
  cases k <;> simp [kind]

namespace Event

/-- What is behind a discriminator. -/
abbrev Body (Pubkey : Type) : EventKind → Type
  | .assetRegistered => Pubkey × Pubkey × AssetType × String × ℤ
  | .assetTokenized => Pubkey × Pubkey × ℕ × ℤ
  | .ownershipTransferred => Pubkey × Pubkey × Pubkey × ℕ
  | .assetMetadataUpdated => Pubkey × ℤ
  | .assetStatusChanged => Pubkey × AssetStatus × AssetStatus
  | .assetRedeemed => Pubkey × Pubkey × ℕ × ℤ
  | .ownershipVerified => Pubkey × Pubkey × ℕ × ℤ

def ofBody : (Σ kind, Body Pubkey kind) → Event Pubkey
  | ⟨.assetRegistered, a, b, c, d, e⟩ => assetRegistered a b c d e
  | ⟨.assetTokenized, a, b, c, d⟩ => assetTokenized a b c d
  | ⟨.ownershipTransferred, a, b, c, d⟩ => ownershipTransferred a b c d
  | ⟨.assetMetadataUpdated, a, b⟩ => assetMetadataUpdated a b
  | ⟨.assetStatusChanged, a, b, c⟩ => assetStatusChanged a b c
  | ⟨.assetRedeemed, a, b, c, d⟩ => assetRedeemed a b c d
  | ⟨.ownershipVerified, a, b, c, d⟩ => ownershipVerified a b c d

def body : Event Pubkey → Σ kind, Body Pubkey kind
  | assetRegistered a b c d e => ⟨.assetRegistered, a, b, c, d, e⟩
  | assetTokenized a b c d => ⟨.assetTokenized, a, b, c, d⟩
  | ownershipTransferred a b c d => ⟨.ownershipTransferred, a, b, c, d⟩
  | assetMetadataUpdated a b => ⟨.assetMetadataUpdated, a, b⟩
  | assetStatusChanged a b c => ⟨.assetStatusChanged, a, b, c⟩
  | assetRedeemed a b c d => ⟨.assetRedeemed, a, b, c, d⟩
  | ownershipVerified a b c d => ⟨.ownershipVerified, a, b, c, d⟩

end Event

section

variable (D : EventDiscriminators) (K : KeyFormat Pubkey)

def KeyFormat.event : (kind : EventKind) → Codec (Event.Body Pubkey kind)
  | .assetRegistered =>
      K.key.pair <| K.key.pair <| AssetType.codec.pair <| Codec.string.pair Codec.int64
  | .assetTokenized => K.key.pair <| K.key.pair <| (Codec.uint 8).pair Codec.int64
  | .ownershipTransferred => K.key.pair <| K.key.pair <| K.key.pair (Codec.uint 8)
  | .assetMetadataUpdated => K.key.pair Codec.int64
  | .assetStatusChanged => K.key.pair <| AssetStatus.codec.pair AssetStatus.codec
  | .assetRedeemed => K.key.pair <| K.key.pair <| (Codec.uint 8).pair Codec.int64
  | .ownershipVerified => K.key.pair <| K.key.pair <| (Codec.uint 8).pair Codec.int64

/-- The bytes of a logged event. -/
def eventCodec : Codec (Event Pubkey) :=
  (D.kind.sigma K.event).iso Event.ofBody Event.body
    (fun p => by obtain ⟨_ | _ | _ | _ | _ | _ | _, b⟩ := p <;> rfl) fun e => by cases e <;> rfl

/-- What an event speaks of is in range. -/
def Event.Fits : Event Pubkey → Prop
  | assetRegistered assetId owner _ name registeredAt =>
      assetId ∈ K.used ∧ owner ∈ K.used ∧ name.utf8ByteSize < 256 ^ 4 ∧
        Codec.int64.Fits registeredAt
  | assetTokenized assetId mint totalSupply tokenizedAt =>
      assetId ∈ K.used ∧ mint ∈ K.used ∧ totalSupply < u64Bound ∧ Codec.int64.Fits tokenizedAt
  | ownershipTransferred assetId source destination amount =>
      assetId ∈ K.used ∧ source ∈ K.used ∧ destination ∈ K.used ∧ amount < u64Bound
  | assetMetadataUpdated assetId updatedAt => assetId ∈ K.used ∧ Codec.int64.Fits updatedAt
  | assetStatusChanged assetId _ _ => assetId ∈ K.used
  | assetRedeemed assetId mint amount redeemedAt =>
      assetId ∈ K.used ∧ mint ∈ K.used ∧ amount < u64Bound ∧ Codec.int64.Fits redeemedAt
  | ownershipVerified assetId owner balance verifiedAt =>
      assetId ∈ K.used ∧ owner ∈ K.used ∧ balance < u64Bound ∧ Codec.int64.Fits verifiedAt

theorem Event.Fits.codec {event : Event Pubkey} (h : event.Fits K) :
    (eventCodec D K).Fits event := by
  refine ⟨D.kind_fits _, ?_⟩
  cases event with
  | assetRegistered =>
      obtain ⟨hasset, howner, hname, htime⟩ := h
      exact ⟨hasset, howner, trivial, hname, htime⟩
  | assetTokenized => exact h
  | ownershipTransferred => exact h
  | assetMetadataUpdated => exact h
  | assetStatusChanged => exact ⟨h, trivial, trivial⟩
  | assetRedeemed => exact h
  | ownershipVerified => exact h

/-- What the program logs with an answer. -/
def Answer.logged (answer : Answer Pubkey) : Option (List UInt8) :=
  answer.event?.map (eventCodec D K).encode

/-- What an indexer makes of a logged line. -/
def RegisterTable.applyLine [DecidableEq Pubkey] (table : RegisterTable Pubkey)
    (line : List UInt8) : RegisterTable Pubkey :=
  match (eventCodec D K).decode line with
  | some (event, _) => table.apply event
  | none => table

end

/-! ## Events fit -/

variable [DecidableEq Pubkey] [Runtime Pubkey] {K : KeyFormat Pubkey} {l l' : Ledger Pubkey}
  {ctx : Context Pubkey}

/-- No account holds more units than a number of eight bytes can count. -/
theorem LedgerValid.amount_lt (h : LedgerValid l) {key : Pubkey} {account : TokenAccount Pubkey}
    (hread : l.tokenAccount? key = some account) : account.amount < u64Bound := by
  obtain ⟨record, hrecord, -⟩ := h.tokens.account_mint hread
  have hbalance := Ledger.balance_le_holdings l account.mint key
  rw [Ledger.balance_of_account hread, if_pos rfl, ← h.tokens.backed hrecord] at hbalance
  exact Nat.lt_of_le_of_lt hbalance (h.tokens.bounded hrecord)

/-- The event of an instruction that succeeds fits. -/
theorem Instruction.event_fits (hvalid : LedgerValid l) {instruction : Instruction Pubkey}
    {event : Event Pubkey} (h : (instruction.execute ctx).run l = .ok (some event) l')
    (hkeys : ∀ key ∈ instruction.accounts, key ∈ K.used)
    (htime : Codec.int64.Fits ctx.unixTimestamp) : event.Fits K := by
  cases instruction with
  | initializeConfig accs params => cases (Initialize.effect h).1
  | registerAsset accs args =>
      obtain ⟨hevent, config, effect⟩ := RegisterAsset.effect h
      cases hevent
      simp only [accounts, RegisterAsset.accounts, List.forall_mem_cons] at hkeys
      obtain ⟨-, -, hasset, howner, -⟩ := hkeys
      have hname : args.name.utf8ByteSize ≤ 100 := effect.valid.name.1
      exact ⟨hasset, howner, by omega, htime⟩
  | tokenizeAsset accs totalSupply =>
      obtain ⟨hevent, config, asset, effect⟩ := TokenizeAsset.effect h
      cases hevent
      simp only [accounts, TokenizeAsset.accounts, List.forall_mem_cons] at hkeys
      obtain ⟨-, hasset, hmint, -⟩ := hkeys
      exact ⟨hasset, hmint, effect.bounded, htime⟩
  | transferOwnership accs amount =>
      obtain ⟨_, _, src, dst, haccepted, hevent, -⟩ := TransferOwnership.execute_ok.mp h
      cases hevent
      simp only [accounts, TransferOwnership.accounts, List.forall_mem_cons] at hkeys
      obtain ⟨hasset, hfrom, -, hto, -⟩ := hkeys
      have hheld := hvalid.amount_lt haccepted.transfer.source_eq
      exact ⟨hasset, hfrom, hto, Nat.lt_of_le_of_lt haccepted.transfer.funds hheld⟩
  | updateAssetMetadata accs args =>
      obtain ⟨_, -, hevent, -⟩ := UpdateAssetMetadata.execute_ok.mp h
      cases hevent
      exact ⟨hkeys _ List.mem_cons_self, htime⟩
  | verifyOwnership accs =>
      obtain ⟨-, hevent, -⟩ := VerifyOwnership.execute_ok.mp h
      cases hevent
      simp only [accounts, VerifyOwnership.accounts, List.forall_mem_cons] at hkeys
      obtain ⟨hasset, -, howner, -⟩ := hkeys
      exact ⟨hasset, howner, Nat.two_pow_pos 64, htime⟩
  | redeemAsset accs amount =>
      obtain ⟨_, _, account, _, haccepted, hevent, -⟩ := RedeemAsset.execute_ok.mp h
      cases hevent
      simp only [accounts, RedeemAsset.accounts, List.forall_mem_cons] at hkeys
      obtain ⟨hasset, -, -, -, hmint, -⟩ := hkeys
      have hheld := hvalid.amount_lt haccepted.burn.account_eq
      exact ⟨hasset, hmint, Nat.lt_of_le_of_lt haccepted.burn.funds hheld, htime⟩
  | setAssetStatus accs status =>
      obtain ⟨_, -, hevent, -⟩ := SetAssetStatus.execute_ok.mp h
      cases hevent
      exact hkeys _ List.mem_cons_self

theorem Action.event_fits (hvalid : LedgerValid l) {action : Action Pubkey} {event : Event Pubkey}
    (h : (action.execute ctx).run l = .ok (some event) l')
    (hkeys : ∀ key ∈ action.accounts, key ∈ K.used)
    (htime : Codec.int64.Fits ctx.unixTimestamp) : event.Fits K := by
  cases action with
  | program instruction => exact Instruction.event_fits hvalid h hkeys htime
  | token p instruction => cases (Action.token_ok.mp h).1
  | systemTransfer source destination amount => cases (Action.systemTransfer_ok.mp h).1

/-- The events of a run of transactions that can be sent fit. -/
theorem events_fit (hstart : programMachine.start l) {txs : List (Transaction Pubkey)}
    (htxs : ∀ tx ∈ txs, tx.Fits K) :
    ∀ event ∈ Machine.events Answer.event? (programMachine.steps l txs), event.Fits K := by
  intro event hevent
  obtain ⟨e, he, houtput⟩ := List.mem_filterMap.mp hevent
  obtain ⟨pre, tx, post, rfl, rfl⟩ := Machine.mem_steps he
  have htx := htxs tx (List.mem_append_right pre List.mem_cons_self)
  have hreach := (Machine.Reachable.start hstart).run pre
  rcases transact_cases (programMachine.run l pre) tx with ⟨event', after, hrun, he⟩ | ⟨err, he⟩
  · have hsame : event' = some event := by
      rw [← houtput]
      exact (congrArg (fun r => Answer.event? r.2) he).symm
    rw [hsame] at hrun
    exact Action.event_fits (valid_of_reachable hreach) hrun htx.keys htx.time
  · have hnone : none = some event := by
      rw [← houtput]
      exact (congrArg (fun r => Answer.event? r.2) he).symm
    cases hnone

/-! ## Reading the log -/

/-- The bytes a run logs. -/
def loggedLines (D : EventDiscriminators) (K : KeyFormat Pubkey) (es : List (ProgramStep Pubkey)) :
    List (List UInt8) :=
  Machine.events (Answer.logged D K) es

omit [DecidableEq Pubkey] in
theorem loggedLines_eq (D : EventDiscriminators) (es : List (ProgramStep Pubkey)) :
    loggedLines D K es = (Machine.events Answer.event? es).map (eventCodec D K).encode :=
  List.map_filterMap.symm

/-- Every line a run logs is read as the event that was emitted, and an indexer that starts
from nothing has the register of the chain. -/
theorem log_read (D : EventDiscriminators) (hstart : programMachine.start l)
    {txs : List (Transaction Pubkey)} (htxs : ∀ tx ∈ txs, tx.Fits K) :
    (loggedLines D K (programMachine.steps l txs)).map (eventCodec D K).decode =
        (Machine.events Answer.event? (programMachine.steps l txs)).map
          (fun event => some (event, [])) ∧
      (loggedLines D K (programMachine.steps l txs)).foldl (RegisterTable.applyLine D K) .empty =
        (programMachine.run l txs).register := by
  have hread : ∀ event ∈ Machine.events Answer.event? (programMachine.steps l txs),
      (eventCodec D K).decode ((eventCodec D K).encode event) = some (event, []) := by
    intro event hevent
    have hfits := (events_fit hstart htxs event hevent).codec D K
    have hdecode := (eventCodec D K).decode_encode hfits []
    rwa [List.append_nil] at hdecode
  rw [loggedLines_eq]
  constructor
  · rw [List.map_map]
    exact List.map_congr_left hread
  · rw [List.foldl_map, ← replayed_steps hstart txs, replayed]
    refine List.foldl_ext _ _ _ fun table event hevent => ?_
    rw [RegisterTable.applyLine, hread event hevent]

/-- Discriminators for the sample runs. -/
def Address.eventDiscriminators : EventDiscriminators where
  of
    | .assetRegistered => .replicate 8 11
    | .assetTokenized => .replicate 8 12
    | .ownershipTransferred => .replicate 8 13
    | .assetMetadataUpdated => .replicate 8 14
    | .assetStatusChanged => .replicate 8 15
    | .assetRedeemed => .replicate 8 16
    | .ownershipVerified => .replicate 8 17
  injective a b := by
    cases a <;> cases b <;> decide

theorem log_read_house :
    (loggedLines Address.eventDiscriminators Address.keyFormat
        (programMachine.steps Address.genesis Address.houseEdits)).foldl
      (RegisterTable.applyLine Address.eventDiscriminators Address.keyFormat) .empty =
      (programMachine.run Address.genesis Address.houseEdits).register :=
  have hstart : programMachine.start Address.genesis := rfl
  (log_read Address.eventDiscriminators hstart Address.houseEdits_fit).2

end RwaTokenization
