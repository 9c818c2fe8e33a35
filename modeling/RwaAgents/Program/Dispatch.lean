import RwaAgents.Library.Layout
import RwaAgents.Program.EventFormat

/-!
# Instructions as they arrive

`lib.rs`.  The runtime hands the program a list of accounts and some bytes.  The first
eight bytes select one of the eight instructions.  Its arguments are read off the rest,
and its accounts off the list, in the order of the source.  Bytes and accounts behind
these are ignored.

`dispatch_ok` says exactly what runs which instruction.  So the runs on what arrives are
the runs on instructions with arguments in range (`raw_run`).  Put together with the
storage of the records, the program is one machine on bytes (`bytes_run`).

The framework adds instructions of its own, for the IDL, behind a tag.  What they do is a
parameter, and the results are about runs in which no data begins with that tag.
-/

namespace RwaTokenization

variable {Pubkey : Type}

/-! ## The parts of an instruction -/

inductive InstructionKind
  | initializeConfig
  | registerAsset
  | tokenizeAsset
  | transferOwnership
  | updateAssetMetadata
  | verifyOwnership
  | redeemAsset
  | setAssetStatus
deriving DecidableEq, Repr

namespace Instruction

abbrev Accounts (Pubkey : Type) : InstructionKind → Type
  | .initializeConfig => Initialize Pubkey
  | .registerAsset => RegisterAsset Pubkey
  | .tokenizeAsset => TokenizeAsset Pubkey
  | .transferOwnership => TransferOwnership Pubkey
  | .updateAssetMetadata => UpdateAssetMetadata Pubkey
  | .verifyOwnership => VerifyOwnership Pubkey
  | .redeemAsset => RedeemAsset Pubkey
  | .setAssetStatus => SetAssetStatus Pubkey

abbrev Args : InstructionKind → Type
  | .initializeConfig => InitializeParams
  | .registerAsset => RegisterAssetArgs
  | .tokenizeAsset => ℕ
  | .transferOwnership => ℕ
  | .updateAssetMetadata => UpdateAssetMetadataArgs
  | .verifyOwnership => Unit
  | .redeemAsset => ℕ
  | .setAssetStatus => AssetStatus

def ofParts : (kind : InstructionKind) → Accounts Pubkey kind → Args kind → Instruction Pubkey
  | .initializeConfig, accs, params => initializeConfig accs params
  | .registerAsset, accs, args => registerAsset accs args
  | .tokenizeAsset, accs, totalSupply => tokenizeAsset accs totalSupply
  | .transferOwnership, accs, amount => transferOwnership accs amount
  | .updateAssetMetadata, accs, args => updateAssetMetadata accs args
  | .verifyOwnership, accs, _ => verifyOwnership accs
  | .redeemAsset, accs, amount => redeemAsset accs amount
  | .setAssetStatus, accs, status => setAssetStatus accs status

def kind : Instruction Pubkey → InstructionKind
  | initializeConfig _ _ => .initializeConfig
  | registerAsset _ _ => .registerAsset
  | tokenizeAsset _ _ => .tokenizeAsset
  | transferOwnership _ _ => .transferOwnership
  | updateAssetMetadata _ _ => .updateAssetMetadata
  | verifyOwnership _ => .verifyOwnership
  | redeemAsset _ _ => .redeemAsset
  | setAssetStatus _ _ => .setAssetStatus

def accountsOf : (instruction : Instruction Pubkey) → Accounts Pubkey instruction.kind
  | initializeConfig accs _ => accs
  | registerAsset accs _ => accs
  | tokenizeAsset accs _ => accs
  | transferOwnership accs _ => accs
  | updateAssetMetadata accs _ => accs
  | verifyOwnership accs => accs
  | redeemAsset accs _ => accs
  | setAssetStatus accs _ => accs

def argsOf : (instruction : Instruction Pubkey) → Args instruction.kind
  | initializeConfig _ params => params
  | registerAsset _ args => args
  | tokenizeAsset _ totalSupply => totalSupply
  | transferOwnership _ amount => amount
  | updateAssetMetadata _ args => args
  | verifyOwnership _ => ()
  | redeemAsset _ amount => amount
  | setAssetStatus _ status => status

/-- An instruction is put together from its parts in one way. -/
theorem ofParts_eq {kind : InstructionKind} {accs : Accounts Pubkey kind} {args : Args kind}
    {instruction : Instruction Pubkey} :
    ofParts kind accs args = instruction ↔
      (⟨kind, accs, args⟩ : Σ kind, Accounts Pubkey kind × Args kind) =
        ⟨instruction.kind, instruction.accountsOf, instruction.argsOf⟩ := by
  constructor
  · rintro rfl
    cases kind <;> rfl
  · intro h
    cases h
    cases instruction <;> rfl

theorem ofParts_parts (instruction : Instruction Pubkey) :
    ofParts instruction.kind instruction.accountsOf instruction.argsOf = instruction :=
  ofParts_eq.mpr rfl

end Instruction

/-! ## The formats -/

/-- What is fixed outside of the source: the bytes an instruction begins with, the two tags
of the framework, and the addresses of the programs and of the clock. -/
structure WireFormat (Pubkey : Type) where
  discriminator : InstructionKind → Vector UInt8 8
  discriminator_injective : ∀ a b, discriminator a = discriminator b → a = b
  idlTag : Vector UInt8 8
  eventTag : Vector UInt8 8
  systemProgram : Pubkey
  associatedTokenProgram : Pubkey
  tokenProgram : TokenProgram → Pubkey
  tokenProgram_injective : ∀ a b, tokenProgram a = tokenProgram b → a = b
  clock : Pubkey

namespace WireFormat

variable (W : WireFormat Pubkey)

def kind : Codec InstructionKind :=
  .table W.discriminator [.initializeConfig, .registerAsset, .tokenizeAsset, .transferOwnership,
    .updateAssetMetadata, .verifyOwnership, .redeemAsset, .setAssetStatus]
    fun a _ b _ => W.discriminator_injective a b

theorem kind_fits (k : InstructionKind) : W.kind.Fits k := by
  cases k <;> simp [kind]

theorem kind_encode (k : InstructionKind) : W.kind.encode k = (W.discriminator k).toList := rfl

variable [DecidableEq Pubkey]

/-- `Interface<'info, TokenInterface>`. -/
def tokenInterface : Layout Pubkey TokenProgram :=
  .item (fun key =>
    if W.tokenProgram .token = key then some .token
    else if W.tokenProgram .token2022 = key then some .token2022
    else none) W.tokenProgram fun key p => by
      have hne : W.tokenProgram .token ≠ W.tokenProgram .token2022 := fun he =>
        nomatch W.tokenProgram_injective _ _ he
      constructor
      · intro h
        split at h
        · next hkey => cases h; exact hkey
        · split at h
          · next hkey => cases h; exact hkey
          · cases h
      · rintro rfl
        cases p with
        | token => exact if_pos rfl
        | token2022 => rw [if_neg hne, if_pos rfl]

def initializeConfig : Layout Pubkey (Initialize Pubkey) :=
  (Layout.any.pair <| Layout.any.pair <| .known W.systemProgram).iso
    (fun (a, b, _) => ⟨a, b⟩) (fun accs => (accs.globalConfig, accs.authority, ()))
    (fun _ => rfl) fun _ => rfl

def registerAsset : Layout Pubkey (RegisterAsset Pubkey) :=
  (Layout.any.pair <| Layout.any.pair <| Layout.any.pair <| Layout.any.pair <|
    (Layout.known W.systemProgram).pair <| .known W.clock).iso
    (fun (a, b, c, d, _, _) => ⟨a, b, c, d⟩)
    (fun accs => (accs.globalConfig, accs.assetId, accs.asset, accs.owner, (), ()))
    (fun _ => rfl) fun _ => rfl

def tokenizeAsset : Layout Pubkey (TokenizeAsset Pubkey) :=
  (Layout.any.pair <| Layout.any.pair <| Layout.any.pair <| Layout.any.pair <|
    Layout.any.pair <| Layout.any.pair <| W.tokenInterface.pair <|
    (Layout.known W.associatedTokenProgram).pair <| (Layout.known W.systemProgram).pair <|
    .known W.clock).iso
    (fun (a, b, c, d, e, f, g, _, _, _) => ⟨a, b, c, d, e, f, g⟩)
    (fun accs => (accs.globalConfig, accs.asset, accs.mint, accs.tokenization,
      accs.ownerTokenAccount, accs.owner, accs.tokenProgram, (), (), ()))
    (fun _ => rfl) fun _ => rfl

def transferOwnership : Layout Pubkey (TransferOwnership Pubkey) :=
  (Layout.any.pair <| Layout.any.pair <| Layout.any.pair <| Layout.any.pair <|
    Layout.any.pair <| W.tokenInterface.pair <| .known W.clock).iso
    (fun (a, b, c, d, e, f, _) => ⟨a, b, c, d, e, f⟩)
    (fun accs => (accs.asset, accs.from, accs.fromTokenAccount, accs.toTokenAccount, accs.mint,
      accs.tokenProgram, ()))
    (fun _ => rfl) fun _ => rfl

def updateAssetMetadata : Layout Pubkey (UpdateAssetMetadata Pubkey) :=
  (Layout.any.pair <| Layout.any.pair <| .known W.clock).iso
    (fun (a, b, _) => ⟨a, b⟩) (fun accs => (accs.asset, accs.owner, ()))
    (fun _ => rfl) fun _ => rfl

def verifyOwnership : Layout Pubkey (VerifyOwnership Pubkey) :=
  (Layout.any.pair <| Layout.any.pair <| Layout.any.pair <| W.tokenInterface.pair <|
    .known W.clock).iso
    (fun (a, b, c, d, _) => ⟨a, b, c, d⟩)
    (fun accs => (accs.asset, accs.tokenAccount, accs.owner, accs.tokenProgram, ()))
    (fun _ => rfl) fun _ => rfl

def redeemAsset : Layout Pubkey (RedeemAsset Pubkey) :=
  (Layout.any.pair <| Layout.any.pair <| Layout.any.pair <| Layout.any.pair <|
    Layout.any.pair <| W.tokenInterface.pair <| .known W.clock).iso
    (fun (a, b, c, d, e, f, _) => ⟨a, b, c, d, e, f⟩)
    (fun accs => (accs.asset, accs.tokenization, accs.owner, accs.ownerTokenAccount, accs.mint,
      accs.tokenProgram, ()))
    (fun _ => rfl) fun _ => rfl

/-- The account lists, in the order of the source. -/
def accounts : (kind : InstructionKind) → Layout Pubkey (Instruction.Accounts Pubkey kind)
  | .initializeConfig => W.initializeConfig
  | .registerAsset => W.registerAsset
  | .tokenizeAsset => W.tokenizeAsset
  | .transferOwnership => W.transferOwnership
  | .updateAssetMetadata => W.updateAssetMetadata
  | .verifyOwnership => W.verifyOwnership
  | .redeemAsset => W.redeemAsset
  | .setAssetStatus => (Layout.any.pair Layout.any).iso (fun (a, b) => ⟨a, b⟩)
      (fun accs => (accs.asset, accs.owner)) (fun _ => rfl) fun _ => rfl

end WireFormat

namespace Instruction

/-- The arguments, in the order of the source. -/
def args : (kind : InstructionKind) → Codec (Args kind)
  | .initializeConfig => ((Codec.uint 8).pair <| (Codec.uint 8).pair <| Codec.uint 2).iso
      (fun (a, b, c) => ⟨a, b, c⟩)
      (fun params => (params.registrationFee, params.tokenizationFee, params.platformFeeBps))
      (fun _ => rfl) fun _ => rfl
  | .registerAsset => (AssetType.codec.pair <| Codec.string.pair <| Codec.string.pair <|
      Codec.string.pair <| Codec.string.pair <| Codec.uint 8).iso
      (fun (a, b, c, d, e, f) => ⟨a, b, c, d, e, f⟩)
      (fun args => (args.assetType, args.name, args.symbol, args.description, args.uri,
        args.valuation)) (fun _ => rfl) fun _ => rfl
  | .tokenizeAsset => Codec.uint 8
  | .transferOwnership => Codec.uint 8
  | .updateAssetMetadata => (Codec.string.option.pair <| Codec.string.option.pair <|
      Codec.string.option).iso (fun (a, b, c) => ⟨a, b, c⟩)
      (fun args => (args.name, args.description, args.uri)) (fun _ => rfl) fun _ => rfl
  | .verifyOwnership => Codec.unit
  | .redeemAsset => Codec.uint 8
  | .setAssetStatus => AssetStatus.codec

/-- The arguments are values of their types. -/
def ArgsFit : Instruction Pubkey → Prop
  | initializeConfig _ params =>
      params.registrationFee < u64Bound ∧ params.tokenizationFee < u64Bound ∧
        params.platformFeeBps < 2 ^ 16
  | registerAsset _ args =>
      args.name.utf8ByteSize < 2 ^ 32 ∧ args.symbol.utf8ByteSize < 2 ^ 32 ∧
        args.description.utf8ByteSize < 2 ^ 32 ∧ args.uri.utf8ByteSize < 2 ^ 32 ∧
        args.valuation < u64Bound
  | tokenizeAsset _ totalSupply => totalSupply < u64Bound
  | transferOwnership _ amount => amount < u64Bound
  | updateAssetMetadata _ args =>
      (∀ name ∈ args.name, name.utf8ByteSize < 2 ^ 32) ∧
        (∀ description ∈ args.description, description.utf8ByteSize < 2 ^ 32) ∧
        ∀ uri ∈ args.uri, uri.utf8ByteSize < 2 ^ 32
  | verifyOwnership _ => True
  | redeemAsset _ amount => amount < u64Bound
  | setAssetStatus _ _ => True

theorem args_fits {instruction : Instruction Pubkey} :
    (args instruction.kind).Fits instruction.argsOf ↔ instruction.ArgsFit := by
  cases instruction with
  | initializeConfig | registerAsset | updateAssetMetadata =>
      simp [args, kind, argsOf, ArgsFit, u64Bound]
  | tokenizeAsset | transferOwnership | redeemAsset => exact Iff.rfl
  | verifyOwnership | setAssetStatus => exact Iff.rfl

/-- The bytes of an instruction. -/
def data (W : WireFormat Pubkey) (instruction : Instruction Pubkey) : List UInt8 :=
  W.kind.encode instruction.kind ++ (args instruction.kind).encode instruction.argsOf

/-- The account list of an instruction. -/
def accountList [DecidableEq Pubkey] (W : WireFormat Pubkey) (instruction : Instruction Pubkey) :
    List Pubkey :=
  (W.accounts instruction.kind).write instruction.accountsOf

end Instruction

/-! ## Dispatch -/

/-- What the runtime passes to the program. -/
structure RawInstruction (Pubkey : Type) where
  accounts : List Pubkey
  /-- The accounts that are passed as writable. -/
  writable : List Pubkey
  data : List UInt8

/-- Why none of the eight instructions is run. -/
inductive DispatchError
  | instructionMissing
  /-- The data is for the IDL instructions, which run instead. -/
  | idlInstruction
  | eventInstructionStub
  | instructionFallbackNotFound
  | instructionDidNotDeserialize
  /-- An account is missing, is not the one that is expected, or is not writable. -/
  | accounts
deriving DecidableEq, Repr

/-- What is read, if anything is. -/
def orRefuse {α : Type} (read : Option α) (e : DispatchError) : Except DispatchError α :=
  match read with
  | some a => .ok a
  | none => .error e

theorem orRefuse_ok {α : Type} {read : Option α} {e : DispatchError} {a : α} :
    orRefuse read e = .ok a ↔ read = some a := by
  cases read with
  | none => exact ⟨fun h => (nomatch h), fun h => (nomatch h)⟩
  | some b => exact ⟨fun h => congrArg some (Except.ok.inj h), fun h => by cases h; rfl⟩

section

variable [DecidableEq Pubkey] (W : WireFormat Pubkey)

/-- Where data goes that begins with none of the eight discriminators.  The program is
built with the IDL instructions and without the events of cross-program calls. -/
def fallback (data : List UInt8) : DispatchError :=
  if W.idlTag.toList <+: data then .idlInstruction
  else if W.eventTag.toList <+: data then .eventInstructionStub
  else .instructionFallbackNotFound

def dispatch (raw : RawInstruction Pubkey) : Except DispatchError (Instruction Pubkey) := do
  if raw.data.length < 8 then
    throw .instructionMissing
  let (kind, ixData) ← orRefuse (W.kind.decode raw.data) (fallback W raw.data)
  let (args, _) ← orRefuse ((Instruction.args kind).decode ixData) .instructionDidNotDeserialize
  let (accounts, _) ← orRefuse ((W.accounts kind).read raw.accounts) .accounts
  let instruction := Instruction.ofParts kind accounts args
  if ¬ instruction.writable ⊆ raw.writable then
    throw .accounts
  return instruction

variable {W}

/-- An instruction is run exactly if its arguments fit, the data begins with its bytes, the
account list with its accounts, and all accounts it wants writable are. -/
theorem dispatch_ok {raw : RawInstruction Pubkey} {instruction : Instruction Pubkey} :
    dispatch W raw = .ok instruction ↔
      instruction.ArgsFit ∧ instruction.data W <+: raw.data ∧
        instruction.accountList W <+: raw.accounts ∧ instruction.writable ⊆ raw.writable := by
  simp only [dispatch, Except.guard_bind_eq_ok, Except.bind_eq_ok, orRefuse_ok, Except.pure_eq_ok,
    Prod.exists, Codec.decode_eq_some, Layout.read_eq_some, not_not, Instruction.ofParts_eq]
  constructor
  · rintro ⟨-, kind, ixData, ⟨-, hdata⟩, args, rest, ⟨hfits, hargs⟩, accs, more, haccs, hwritable,
      heq⟩
    cases heq
    rw [Instruction.ofParts_parts] at hwritable
    refine ⟨Instruction.args_fits.mp hfits, ⟨rest, ?_⟩, ⟨more, haccs.symm⟩, hwritable⟩
    rw [Instruction.data, List.append_assoc, ← hargs, hdata]
  · rintro ⟨hfits, ⟨rest, hdata⟩, ⟨more, haccs⟩, hwritable⟩
    rw [Instruction.data, List.append_assoc] at hdata
    have hlength : ¬ raw.data.length < 8 := by
      rw [← hdata, List.length_append, W.kind_encode, Vector.length_toList]
      omega
    refine ⟨hlength, instruction.kind, _, ⟨W.kind_fits _, hdata.symm⟩, instruction.argsOf, rest,
      ⟨Instruction.args_fits.mpr hfits, rfl⟩, instruction.accountsOf, more, haccs.symm, ?_, rfl⟩
    rwa [Instruction.ofParts_parts]

/-- Only data with their tag is for the IDL instructions. -/
theorem dispatch_idl {raw : RawInstruction Pubkey}
    (h : dispatch W raw = .error .idlInstruction) : W.idlTag.toList <+: raw.data := by
  rw [dispatch] at h
  split at h
  · cases h
  · cases hkind : W.kind.decode raw.data with
    | none =>
        rw [hkind] at h
        have hfallback : fallback W raw.data = .idlInstruction := Except.error.inj h
        rw [fallback] at hfallback
        split at hfallback
        · assumption
        · split at hfallback <;> cases hfallback
    | some r =>
        rw [hkind] at h
        simp only [orRefuse, Except.ok_bind] at h
        cases hargs : (Instruction.args r.1).decode r.2 with
        | none => rw [hargs] at h; cases h
        | some args =>
            cases haccs : (W.accounts r.1).read raw.accounts with
            | none => rw [hargs, haccs] at h; cases h
            | some accs =>
                simp only [hargs, haccs, Except.ok_bind] at h
                split at h <;> cases h

end

/-! ## Runs on what arrives -/

inductive RawAction (Pubkey : Type)
  | program (raw : RawInstruction Pubkey)
  | token (tokenProgram : TokenProgram) (instruction : TokenInstruction Pubkey)
  | systemTransfer (source destination : Pubkey) (amount : ℕ)

variable [DecidableEq Pubkey]

def RawAction.decode (W : WireFormat Pubkey) :
    RawAction Pubkey → Except DispatchError (Action Pubkey)
  | program raw => do return .program (← dispatch W raw)
  | token p instruction => .ok (.token p instruction)
  | systemTransfer source destination amount => .ok (.systemTransfer source destination amount)

/-- The data of an instruction begins with the tag of the IDL instructions. -/
def RawAction.AsksIdl (W : WireFormat Pubkey) : RawAction Pubkey → Prop
  | program raw => W.idlTag.toList <+: raw.data
  | _ => False

/-- The form an action arrives in. -/
def Action.raw (W : WireFormat Pubkey) : Action Pubkey → RawAction Pubkey
  | program instruction =>
      .program ⟨instruction.accountList W, instruction.writable, instruction.data W⟩
  | token p instruction => .token p instruction
  | systemTransfer source destination amount => .systemTransfer source destination amount

def Action.ArgsFit : Action Pubkey → Prop
  | program instruction => instruction.ArgsFit
  | _ => True

/-- What is read is in range, and every action in range is read. -/
theorem RawAction.decode_argsFit {W : WireFormat Pubkey} {raw : RawAction Pubkey}
    {action : Action Pubkey} (h : raw.decode W = .ok action) : action.ArgsFit := by
  cases raw with
  | program raw =>
      obtain ⟨instruction, hdispatch, haction⟩ := Except.bind_eq_ok.mp h
      cases haction
      exact (dispatch_ok.mp hdispatch).1
  | token p instruction => cases h; trivial
  | systemTransfer source destination amount => cases h; trivial

theorem RawAction.decode_raw (W : WireFormat Pubkey) {action : Action Pubkey}
    (h : action.ArgsFit) : (action.raw W).decode W = .ok action := by
  cases action with
  | program instruction =>
      refine Except.bind_eq_ok.mpr ⟨instruction, ?_, rfl⟩
      exact dispatch_ok.mpr ⟨h, List.prefix_rfl, List.prefix_rfl, List.Subset.refl _⟩
  | token p instruction => rfl
  | systemTransfer source destination amount => rfl

/-- An instruction as it arrives is not for the IDL, whose tag is no discriminator. -/
theorem Action.not_asksIdl_raw {W : WireFormat Pubkey}
    (h : ∀ kind, W.discriminator kind ≠ W.idlTag) {action : Action Pubkey} :
    ¬ (action.raw W).AsksIdl W := by
  cases action with
  | program instruction =>
      intro hasks
      have hprefix : W.idlTag.toList <+: (W.discriminator instruction.kind).toList ++ _ := hasks
      have htag := List.prefix_of_prefix_length_le hprefix (List.prefix_append _ _) (by simp)
      refine h instruction.kind (Vector.toList_inj.mp ?_)
      exact (htag.eq_of_length (by simp)).symm
  | token p instruction => exact id
  | systemTransfer source destination amount => exact id

theorem RawAction.asksIdl_of_decode {W : WireFormat Pubkey} {raw : RawAction Pubkey}
    (h : raw.decode W = .error .idlInstruction) : raw.AsksIdl W := by
  cases raw with
  | program raw =>
      cases hdispatch : dispatch W raw with
      | ok instruction => rw [decode, hdispatch] at h; cases h
      | error e =>
          rw [decode, hdispatch] at h
          cases h
          exact dispatch_idl hdispatch
  | token p instruction => cases h
  | systemTransfer source destination amount => cases h

variable [Runtime Pubkey]

structure RawTransaction (Pubkey : Type) [Runtime Pubkey] where
  ctx : Context Pubkey
  action : RawAction Pubkey

abbrev RawAnswer (Pubkey : Type) := Except (DispatchError ⊕ ProgramError) (Option (Event Pubkey))

def RawAnswer.event? : RawAnswer Pubkey → Option (Event Pubkey)
  | .ok event => event
  | .error _ => none

/-- What the IDL instructions of the framework do to a ledger or to the bytes of the
accounts, and answer. -/
abbrev IdlInstructions (Pubkey : Type) [Runtime Pubkey] (σ β : Type) :=
  σ → RawTransaction Pubkey → σ × β

/-- A transaction that is not read changes nothing, unless it is for the IDL. -/
def rawTransact (W : WireFormat Pubkey)
    (idl : IdlInstructions Pubkey (Ledger Pubkey) (RawAnswer Pubkey)) (ledger : Ledger Pubkey)
    (tx : RawTransaction Pubkey) : Ledger Pubkey × RawAnswer Pubkey :=
  match tx.action.decode W with
  | .error .idlInstruction => idl ledger tx
  | .error e => (ledger, .error (.inl e))
  | .ok action =>
      let (after, answer) := transact ledger ⟨tx.ctx, action⟩
      (after, answer.mapError .inr)

def rawMachine (W : WireFormat Pubkey)
    (idl : IdlInstructions Pubkey (Ledger Pubkey) (RawAnswer Pubkey)) :
    Machine (Ledger Pubkey) (RawTransaction Pubkey) (RawAnswer Pubkey) :=
  ⟨fun ledger => ledger.accounts = .empty, rawTransact W idl⟩

/-- The transaction that is read, if one is. -/
def RawTransaction.transaction? (W : WireFormat Pubkey) (tx : RawTransaction Pubkey) :
    Option (Transaction Pubkey) :=
  (tx.action.decode W).toOption.map (⟨tx.ctx, ·⟩)

def Transaction.raw (W : WireFormat Pubkey) (tx : Transaction Pubkey) : RawTransaction Pubkey :=
  ⟨tx.ctx, tx.action.raw W⟩

variable {W : WireFormat Pubkey}
  {idl : IdlInstructions Pubkey (Ledger Pubkey) (RawAnswer Pubkey)}

theorem RawTransaction.transaction?_of_ok {raw : RawTransaction Pubkey} {action : Action Pubkey}
    (h : raw.action.decode W = .ok action) : raw.transaction? W = some ⟨raw.ctx, action⟩ := by
  rw [transaction?, h]
  rfl

theorem RawTransaction.transaction?_of_error {raw : RawTransaction Pubkey} {e : DispatchError}
    (h : raw.action.decode W = .error e) : raw.transaction? W = none := by
  rw [transaction?, h]
  rfl

theorem RawTransaction.argsFit {raw : RawTransaction Pubkey} {tx : Transaction Pubkey}
    (h : raw.transaction? W = some tx) : tx.action.ArgsFit := by
  cases hdecode : raw.action.decode W with
  | error e =>
      rw [transaction?_of_error hdecode] at h
      cases h
  | ok action =>
      rw [transaction?_of_ok hdecode] at h
      cases h
      exact RawAction.decode_argsFit hdecode

theorem rawTransact_of_ok {raw : RawTransaction Pubkey} {action : Action Pubkey}
    (h : raw.action.decode W = .ok action) (l : Ledger Pubkey) :
    rawTransact W idl l raw = ((transact l ⟨raw.ctx, action⟩).1,
      (transact l ⟨raw.ctx, action⟩).2.mapError .inr) := by
  rw [rawTransact, h]

/-- What is not read and not for the IDL is refused. -/
theorem rawTransact_of_error {raw : RawTransaction Pubkey} {e : DispatchError}
    (hplain : ¬ raw.action.AsksIdl W) (h : raw.action.decode W = .error e) (l : Ledger Pubkey) :
    rawTransact W idl l raw = (l, .error (.inl e)) := by
  have hne : e ≠ .idlInstruction := by
    rintro rfl
    exact hplain (RawAction.asksIdl_of_decode h)
  rw [rawTransact, h]
  cases e <;> first | rfl | exact absurd rfl hne

/-- A raw transaction that is not for the IDL. -/
abbrev PlainTransaction (W : WireFormat Pubkey) :=
  { raw : RawTransaction Pubkey // ¬ raw.action.AsksIdl W }

/-- The ledger is that of the program on the transactions that are read. -/
theorem rawMachine_embedding :
    ((rawMachine W idl).relabel (Subtype.val : PlainTransaction W → _)).Embedding programMachine id
      fun raw => raw.val.transaction? W where
  moves l raw tx h := by
    cases hdecode : raw.val.action.decode W with
    | error e =>
        rw [RawTransaction.transaction?_of_error hdecode] at h
        cases h
    | ok action =>
        rw [RawTransaction.transaction?_of_ok hdecode] at h
        cases h
        exact congrArg Prod.fst (rawTransact_of_ok hdecode l)
  stays l raw h := by
    cases hdecode : raw.val.action.decode W with
    | error e => exact congrArg Prod.fst (rawTransact_of_error raw.property hdecode l)
    | ok action =>
        rw [RawTransaction.transaction?_of_ok hdecode] at h
        cases h

omit [DecidableEq Pubkey] [Runtime Pubkey] in
theorem event?_mapError (answer : Answer Pubkey) :
    RawAnswer.event? (answer.mapError .inr) = answer.event? := by
  cases answer <;> rfl

/-- What a raw transaction emits is what the transaction it is read as does. -/
theorem rawTransact_event? (l : Ledger Pubkey) (raw : PlainTransaction W) :
    RawAnswer.event? (rawTransact W idl l raw.val).2 =
      (raw.val.transaction? W).bind fun tx => Answer.event? (transact l tx).2 := by
  cases hdecode : raw.val.action.decode W with
  | error e =>
      rw [RawTransaction.transaction?_of_error hdecode,
        rawTransact_of_error raw.property hdecode]
      rfl
  | ok action =>
      rw [RawTransaction.transaction?_of_ok hdecode, rawTransact_of_ok hdecode]
      exact event?_mapError _

theorem raw_events (l : Ledger Pubkey) (raws : List (PlainTransaction W)) :
    Machine.events RawAnswer.event? ((rawMachine W idl).steps l (raws.map Subtype.val)) =
      Machine.events Answer.event?
        (programMachine.steps l (raws.filterMap fun raw => raw.val.transaction? W)) := by
  have hsteps := (rawMachine_embedding : ((rawMachine W idl).relabel _).Embedding _ _ _).steps l raws
  rw [id] at hsteps
  rw [← Machine.events_relabel, hsteps, Machine.events, Machine.events, List.filterMap_filterMap]
  refine List.filterMap_congr fun e he => ?_
  obtain ⟨pre, raw, post, rfl, rfl⟩ := Machine.mem_steps he
  change RawAnswer.event?
    (rawTransact W idl (((rawMachine W idl).relabel Subtype.val).run l pre) raw.val).2 =
      ((raw.val.transaction? W).map (programMachine.stepAt
        (((rawMachine W idl).relabel Subtype.val).run l pre))).bind fun e => Answer.event? e.output
  rw [rawTransact_event?, Option.bind_map]
  rfl

/-- A run on what arrives is a run on instructions with arguments in range, and emits the
same events, if nothing of it is for the IDL.  Every such run arrives, and is answered as
it is. -/
theorem raw_run (W : WireFormat Pubkey)
    (idl : IdlInstructions Pubkey (Ledger Pubkey) (RawAnswer Pubkey)) (l : Ledger Pubkey) :
    (∀ raws : List (RawTransaction Pubkey), (∀ raw ∈ raws, ¬ raw.action.AsksIdl W) →
        ∃ txs : List (Transaction Pubkey),
          (∀ tx ∈ txs, tx.action.ArgsFit) ∧
            (rawMachine W idl).run l raws = programMachine.run l txs ∧
            Machine.events RawAnswer.event? ((rawMachine W idl).steps l raws) =
              Machine.events Answer.event? (programMachine.steps l txs)) ∧
      ∀ txs : List (Transaction Pubkey), (∀ tx ∈ txs, tx.action.ArgsFit) →
        ((rawMachine W idl).relabel (Transaction.raw W)).answers l txs =
            (programMachine.answers l txs).map (Prod.map id (Except.mapError .inr)) ∧
          (rawMachine W idl).run l (txs.map (Transaction.raw W)) = programMachine.run l txs := by
  constructor
  · intro raws hplain
    lift raws to List (PlainTransaction W) using hplain
    refine ⟨raws.filterMap fun raw => raw.val.transaction? W, fun tx htx => ?_, ?_,
      raw_events l raws⟩
    · obtain ⟨raw, -, htransaction⟩ := List.mem_filterMap.mp htx
      exact RawTransaction.argsFit htransaction
    · rw [← Machine.run_relabel]
      exact rawMachine_embedding.run l raws
  · intro txs htxs
    rw [← Machine.run_relabel]
    refine Machine.related_run (R := fun s t => t = s) (fun s t tx htx hst => ?_) rfl htxs
    subst t
    have hdecode : (tx.raw W).action.decode W = .ok tx.action := RawAction.decode_raw W htx
    have hraw : rawTransact W idl s (tx.raw W) = _ := rawTransact_of_ok hdecode s
    exact ⟨congrArg Prod.snd hraw, congrArg Prod.fst hraw⟩

/-! ## From bytes to bytes -/

section

variable (D : Discriminators) (K : KeyFormat Pubkey)

/-- A transaction on the bytes of the accounts. -/
def byteTransact (W : WireFormat Pubkey)
    (idl : IdlInstructions Pubkey (Storage Pubkey) (Option (RawAnswer Pubkey)))
    (s : Storage Pubkey) (raw : RawTransaction Pubkey) :
    Storage Pubkey × Option (RawAnswer Pubkey) :=
  match raw.action.decode W with
  | .error .idlInstruction => idl s raw
  | .error e => (s, some (.error (.inl e)))
  | .ok action =>
      let (after, answer) := storageTransact D K s ⟨raw.ctx, action⟩
      (after, answer.map (Except.mapError .inr))

def byteMachine (W : WireFormat Pubkey)
    (idl : IdlInstructions Pubkey (Storage Pubkey) (Option (RawAnswer Pubkey))) :
    Machine (Storage Pubkey) (RawTransaction Pubkey) (Option (RawAnswer Pubkey)) :=
  ⟨fun s => s.accounts = .empty, byteTransact D K W idl⟩

/-- The accounts that are read are in use, the clock is in range, and the transaction is not
for the IDL. -/
structure RawTransaction.Fits (W : WireFormat Pubkey) (K : KeyFormat Pubkey)
    (raw : RawTransaction Pubkey) : Prop where
  keys : ∀ action, raw.action.decode W = .ok action → ∀ key ∈ action.accounts, key ∈ K.used
  time : Codec.int64.Fits raw.ctx.unixTimestamp
  plain : ¬ raw.action.AsksIdl W

variable {D K} {idlBytes : IdlInstructions Pubkey (Storage Pubkey) (Option (RawAnswer Pubkey))}
  {raw : RawTransaction Pubkey}

theorem byteTransact_of_ok {action : Action Pubkey} (h : raw.action.decode W = .ok action)
    (s : Storage Pubkey) :
    byteTransact D K W idlBytes s raw = ((storageTransact D K s ⟨raw.ctx, action⟩).1,
      (storageTransact D K s ⟨raw.ctx, action⟩).2.map (Except.mapError .inr)) := by
  rw [byteTransact, h]

theorem byteTransact_of_error {e : DispatchError} (hplain : ¬ raw.action.AsksIdl W)
    (h : raw.action.decode W = .error e) (s : Storage Pubkey) :
    byteTransact D K W idlBytes s raw = (s, some (.error (.inl e))) := by
  have hne : e ≠ .idlInstruction := by
    rintro rfl
    exact hplain (RawAction.asksIdl_of_decode h)
  rw [byteTransact, h]
  cases e <;> first | rfl | exact absurd rfl hne

end

omit [DecidableEq Pubkey] [Runtime Pubkey] in
/-- The bytes of the arguments leave no room for more. -/
theorem Action.ArgsFit.inRange {action : Action Pubkey} (h : action.ArgsFit) : action.InRange := by
  cases action with
  | program instruction =>
      cases instruction with
      | initializeConfig accs params => exact ⟨h.1, h.2.1⟩
      | registerAsset accs args => exact h.2.2.2.2
      | _ => trivial
  | _ => trivial

/-- On bytes alone, for what arrives as for the accounts, a run answers what it answers on
the ledger, and the accounts hold the ledger, if nothing of it is for the IDL. -/
theorem bytes_run (D : Discriminators) {K : KeyFormat Pubkey}
    (idl : IdlInstructions Pubkey (Ledger Pubkey) (RawAnswer Pubkey))
    (idlBytes : IdlInstructions Pubkey (Storage Pubkey) (Option (RawAnswer Pubkey)))
    {raws : List (RawTransaction Pubkey)} (hraws : ∀ raw ∈ raws, raw.Fits W K)
    (lamports : Pubkey → ℕ) :
    (byteMachine D K W idlBytes).answers ⟨lamports, .empty⟩ raws =
        ((rawMachine W idl).answers ⟨lamports, .empty⟩ raws).map (Prod.map id some) ∧
      ((byteMachine D K W idlBytes).run ⟨lamports, .empty⟩ raws).Holds D K
        ((rawMachine W idl).run ⟨lamports, .empty⟩ raws) := by
  have hstart : Refines D K ⟨lamports, .empty⟩ ⟨lamports, .empty⟩ :=
    ⟨.start rfl, .of_empty rfl, rfl, fun _ => .empty⟩
  have hrun : (byteMachine D K W idlBytes).answers ⟨lamports, .empty⟩ raws =
        ((rawMachine W idl).answers ⟨lamports, .empty⟩ raws).map (Prod.map id some) ∧
      Refines D K ((rawMachine W idl).run ⟨lamports, .empty⟩ raws)
        ((byteMachine D K W idlBytes).run ⟨lamports, .empty⟩ raws) := by
    refine Machine.related_run (R := Refines D K) (fun l s raw hraw h => ?_) hstart hraws
    change (byteTransact D K W idlBytes s raw).2 = some (rawTransact W idl l raw).2 ∧
      Refines D K (rawTransact W idl l raw).1 (byteTransact D K W idlBytes s raw).1
    cases hdecode : raw.action.decode W with
    | error e =>
        rw [byteTransact_of_error hraw.plain hdecode, rawTransact_of_error hraw.plain hdecode]
        exact ⟨rfl, h⟩
    | ok action =>
        have hfits : Transaction.Fits K ⟨raw.ctx, action⟩ :=
          ⟨hraw.keys action hdecode, (RawAction.decode_argsFit hdecode).inRange, hraw.time⟩
        obtain ⟨houtput, hholds, -⟩ := h.holds.transact ⟨raw.ctx, action⟩ (h.next hfits)
        rw [byteTransact_of_ok hdecode, rawTransact_of_ok hdecode]
        exact ⟨congrArg (Option.map (Except.mapError Sum.inr)) houtput,
          h.reachable.step _, h.fit.transact hfits, hholds⟩
  exact ⟨hrun.1, hrun.2.holds⟩

namespace Address

/-- Addresses and discriminators for the sample runs. -/
def wireFormat : WireFormat Address where
  discriminator
    | .initializeConfig => .replicate 8 21
    | .registerAsset => .replicate 8 22
    | .tokenizeAsset => .replicate 8 23
    | .transferOwnership => .replicate 8 24
    | .updateAssetMetadata => .replicate 8 25
    | .verifyOwnership => .replicate 8 26
    | .redeemAsset => .replicate 8 27
    | .setAssetStatus => .replicate 8 28
  discriminator_injective a b := by
    cases a <;> cases b <;> decide
  idlTag := ⟨#[64, 244, 188, 120, 167, 233, 105, 10], rfl⟩
  eventTag := ⟨#[228, 69, 165, 46, 81, 203, 154, 29], rfl⟩
  systemProgram := key 0
  associatedTokenProgram := key 1
  tokenProgram
    | .token => key 2
    | .token2022 => key 3
  tokenProgram_injective a b := by
    cases a <;> cases b <;> decide
  clock := key 4

/-- The run of the sample asset, as it arrives. -/
def rawHouseEdits : List (RawTransaction Address) := houseEdits.map (Transaction.raw wireFormat)

theorem houseEdits_argsFit : ∀ tx ∈ houseEdits, tx.action.ArgsFit := by
  simp only [houseEdits, registerHouse, List.cons_append, List.nil_append, List.forall_mem_cons]
  refine ⟨?_, ?_, ?_, ?_, List.forall_mem_nil _⟩
  · exact ⟨by decide, by decide, by decide⟩
  · exact ⟨by decide, by decide, by decide, by decide, by decide⟩
  · have hsupply : 100 < u64Bound := by decide
    exact hsupply
  · exact ⟨by decide, by decide, by decide⟩

theorem rawHouseEdits_fit : ∀ raw ∈ rawHouseEdits, raw.Fits wireFormat keyFormat := by
  intro raw hraw
  obtain ⟨tx, htx, rfl⟩ := List.mem_map.mp hraw
  have hfits := houseEdits_fit tx htx
  have hplain : ¬ (tx.raw wireFormat).action.AsksIdl wireFormat :=
    Action.not_asksIdl_raw fun kind => by cases kind <;> decide
  refine ⟨fun action hdecode => ?_, hfits.time, hplain⟩
  cases (RawAction.decode_raw wireFormat (houseEdits_argsFit tx htx)).symm.trans hdecode
  exact hfits.keys

/-- Nothing of the sample runs is for the IDL. -/
def sampleIdl : IdlInstructions Address (Ledger Address) (RawAnswer Address) :=
  fun l _ => (l, .ok none)

def sampleIdlBytes : IdlInstructions Address (Storage Address) (Option (RawAnswer Address)) :=
  fun s _ => (s, some (.ok none))

end Address

theorem raw_run_house :
    (∃ txs : List (Transaction Address), (∀ tx ∈ txs, tx.action.ArgsFit) ∧
        (rawMachine Address.wireFormat Address.sampleIdl).run Address.genesis
          Address.rawHouseEdits = programMachine.run Address.genesis txs) ∧
      (rawMachine Address.wireFormat Address.sampleIdl).run Address.genesis
        Address.rawHouseEdits = programMachine.run Address.genesis Address.houseEdits := by
  obtain ⟨harrived, hsent⟩ := raw_run Address.wireFormat Address.sampleIdl Address.genesis
  obtain ⟨txs, hfits, hrun, -⟩ := harrived Address.rawHouseEdits fun raw hraw =>
    (Address.rawHouseEdits_fit raw hraw).plain
  exact ⟨⟨txs, hfits, hrun⟩, (hsent Address.houseEdits Address.houseEdits_argsFit).2⟩

theorem bytes_run_house :
    (byteMachine Address.discriminators Address.keyFormat Address.wireFormat
        Address.sampleIdlBytes).answers ⟨Address.genesis.lamports, .empty⟩ Address.rawHouseEdits =
      ((rawMachine Address.wireFormat Address.sampleIdl).answers Address.genesis
        Address.rawHouseEdits).map (Prod.map id some) :=
  (bytes_run Address.discriminators Address.sampleIdl Address.sampleIdlBytes
    Address.rawHouseEdits_fit Address.genesis.lamports).1

end RwaTokenization
