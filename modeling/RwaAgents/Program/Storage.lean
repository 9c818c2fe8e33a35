import RwaAgents.Program.Locality
import RwaAgents.Program.RecordFormat

/-!
# The program on bytes

The chain stores the account of a record as bytes of a fixed number: a discriminator,
the record in the Borsh format and whatever is left behind it.  Before an instruction
the framework reads the records off the bytes, and after it the framework writes them
back over the start.  A record that has become shorter leaves a tail of the old one.

`Storage` is the ledger with these bytes, and `storageMachine` runs transactions on it.
It refines `programMachine` (`storage_run`): no write fails, and what is read is always
the record that was written last.
-/

namespace RwaTokenization

variable {Pubkey : Type}

/-! ## What the chain stores -/

/-- An account of the program as bytes, or an account of a token program. -/
inductive Stored (Pubkey : Type)
  | program (buffer : List UInt8)
  | mint (record : Mint Pubkey)
  | tokenAccount (account : TokenAccount Pubkey)

structure Storage (Pubkey : Type) where
  lamports : Pubkey → ℕ
  accounts : OrderedMap Pubkey (Stored Pubkey)

section

variable (D : Discriminators) (K : KeyFormat Pubkey)

/-- Read an account.  What is behind the record is ignored. -/
def Stored.data? : Stored Pubkey → Option (AccountData Pubkey)
  | program buffer => ((recordCodec D K).decode buffer).map fun r => r.1.data
  | mint record => some (.mint record)
  | tokenAccount account => some (.tokenAccount account)

/-- The bytes of an account, all zero if it was created just now. -/
def Stored.buffer (space : ℕ) : Option (Stored Pubkey) → List UInt8
  | some (program buffer) => buffer
  | _ => List.replicate space 0

/-- Write an account.  An account of the program keeps its size. -/
def AccountData.store (old : Option (Stored Pubkey)) : AccountData Pubkey → Option (Stored Pubkey)
  | globalConfig config =>
      (writeBack (Stored.buffer GlobalConfig.size old) (D.of .globalConfig)
        (config.serialize K.bytes)).map .program
  | rwaAsset asset =>
      (writeBack (Stored.buffer RwaAsset.space old) (D.of .rwaAsset)
        (asset.serialize K.bytes)).map .program
  | tokenization record =>
      (writeBack (Stored.buffer Tokenization.size old) (D.of .tokenization)
        (record.serialize K.bytes)).map .program
  | mint record => some (.mint record)
  | tokenAccount account => some (.tokenAccount account)

theorem Record.store_data (r : Record Pubkey) (old : Option (Stored Pubkey)) :
    r.data.store D K old =
      (Borsh.write (Stored.buffer r.space old) ((recordCodec D K).encode r)).map .program := by
  rw [recordCodec_encode]
  cases r <;> rfl

/-- What is stored at an address and what the ledger holds there. -/
inductive Stored.Holds : Option (Stored Pubkey) → Option (AccountData Pubkey) → Prop
  | empty : Holds none none
  | record {buffer rest : List UInt8} (r : Record Pubkey)
      (read : (recordCodec D K).decode buffer = some (r, rest)) (size : buffer.length = r.space) :
      Holds (some (.program buffer)) (some r.data)
  | mint (record : Mint Pubkey) : Holds (some (.mint record)) (some (.mint record))
  | tokenAccount (account : TokenAccount Pubkey) :
      Holds (some (.tokenAccount account)) (some (.tokenAccount account))

variable {D K}

theorem Stored.Holds.data?_eq {stored : Option (Stored Pubkey)} {data : Option (AccountData Pubkey)}
    (h : Holds D K stored data) : stored.bind (Stored.data? D K) = data := by
  cases h with
  | empty => rfl
  | record r read size => rw [Option.bind_some, Stored.data?, read, Option.map_some]
  | mint record => rfl
  | tokenAccount account => rfl

theorem Record.space_of_kind {r r' : Record Pubkey} (h : r'.data.kind = r.data.kind) :
    r'.space = r.space := by
  cases r <;> cases r' <;> first | rfl | cases h

/-- A record that fits is stored over data of its kind or in a new account. -/
theorem Stored.Holds.store_record {old : Option (Stored Pubkey)}
    {data : Option (AccountData Pubkey)} (h : Holds D K old data) (r : Record Pubkey)
    (hkind : ∀ d ∈ data, r.data.kind = d.kind) (hfits : r.Fits K) :
    ∃ new, r.data.store D K old = some new ∧ Holds D K (some new) (some r.data) := by
  have hsize : (Stored.buffer r.space old).length = r.space := by
    cases h with
    | empty => exact List.length_replicate
    | record r' _ size => rw [Stored.buffer, size, Record.space_of_kind (hkind _ rfl)]
    | mint record => exact List.length_replicate
    | tokenAccount account => exact List.length_replicate
  have hlength : ((recordCodec D K).encode r).length ≤ (Stored.buffer r.space old).length := by
    rw [hsize]
    exact hfits.length_le
  obtain ⟨buffer, hwrite⟩ := Option.ne_none_iff_exists'.mp (Borsh.write_ne_none.mpr hlength)
  obtain ⟨rest, hread, hkept⟩ := (recordCodec D K).decode_write hfits.codec hwrite
  refine ⟨.program buffer, ?_, .record r hread (hkept.trans hsize)⟩
  rw [Record.store_data, hwrite, Option.map_some]

/-- What is stored can be replaced by what the ledger holds afterwards. -/
theorem Stored.Holds.store {old : Option (Stored Pubkey)} {data : Option (AccountData Pubkey)}
    (h : Holds D K old data) {data' : AccountData Pubkey}
    (hkind : ∀ d ∈ data, data'.kind = d.kind)
    (hfits : ∀ r : Record Pubkey, data' = r.data → r.Fits K) :
    ∃ new, data'.store D K old = some new ∧ Holds D K (some new) (some data') := by
  cases data' with
  | globalConfig config => exact h.store_record (.globalConfig config) hkind (hfits _ rfl)
  | rwaAsset asset => exact h.store_record (.rwaAsset asset) hkind (hfits _ rfl)
  | tokenization record => exact h.store_record (.tokenization record) hkind (hfits _ rfl)
  | mint record => exact ⟨_, rfl, .mint record⟩
  | tokenAccount account => exact ⟨_, rfl, .tokenAccount account⟩

/-- Writing back what was read changes no byte. -/
theorem Stored.Holds.store_self {old : Option (Stored Pubkey)} {data : AccountData Pubkey}
    (h : Holds D K old (some data)) : data.store D K old = old := by
  cases h with
  | record r read size =>
      rw [Record.store_data, Stored.buffer, (recordCodec D K).write_of_decode read, Option.map_some]
  | mint record => rfl
  | tokenAccount account => rfl

end

/-! ## Transactions on bytes -/

section

variable [DecidableEq Pubkey] (D : Discriminators) (K : KeyFormat Pubkey)

/-- Read all accounts. -/
def Storage.ledger (s : Storage Pubkey) : Ledger Pubkey :=
  ⟨s.lamports, s.accounts.filterMap (Stored.data? D K)⟩

/-- Write all accounts back, if all can be written. -/
def Storage.commit (s : Storage Pubkey) (after : Ledger Pubkey) : Option (Storage Pubkey) :=
  (s.accounts.setAll (fun old data => data.store D K old) after.accounts.entries).map fun accounts =>
    ⟨after.lamports, accounts⟩

variable [Runtime Pubkey]

/-- Run a transaction on the accounts it reads off the bytes and write them back.  The
answer is `none` if an account cannot be written. -/
def storageTransact (s : Storage Pubkey) (tx : Transaction Pubkey) :
    Storage Pubkey × Option (Answer Pubkey) :=
  match transact (s.ledger D K) tx with
  | (after, .ok event) =>
      match s.commit D K after with
      | some s' => (s', some (.ok event))
      | none => (s, none)
  | (_, .error e) => (s, some (.error e))

def storageMachine : Machine (Storage Pubkey) (Transaction Pubkey) (Option (Answer Pubkey)) :=
  ⟨fun s => s.accounts = .empty, storageTransact D K⟩

/-- Every record of the ledger fits its format. -/
def Ledger.Fits (l : Ledger Pubkey) : Prop :=
  ∀ key (r : Record Pubkey), l.data? key = some r.data → r.Fits K

/-- The storage holds what the ledger does. -/
structure Storage.Holds (s : Storage Pubkey) (l : Ledger Pubkey) : Prop where
  lamports : s.lamports = l.lamports
  accounts : ∀ key, Stored.Holds D K (s.accounts.get? key) (l.data? key)

variable {D K} {s : Storage Pubkey} {l : Ledger Pubkey}

omit [Runtime Pubkey] in
theorem Storage.Holds.view (h : s.Holds D K l) : (s.ledger D K).view = l.view := by
  funext key
  have hdata : (s.ledger D K).data? key = l.data? key :=
    (OrderedMap.get?_filterMap _ _ _).trans (h.accounts key).data?_eq
  rw [Ledger.view, Ledger.view, hdata]
  exact congrArg (·, l.data? key) (congrFun h.lamports key)

omit [Runtime Pubkey] in
/-- All accounts can be written back, and those that hold what they held keep their
bytes. -/
theorem Storage.Holds.commit (h : s.Holds D K l) {after l' : Ledger Pubkey}
    (hview : after.view = l'.view) (hkept : KindsKept l.data? l'.data?) (hfits : l'.Fits K) :
    ∃ s', s.commit D K after = some s' ∧ s'.Holds D K l' ∧
      ∀ key, l'.data? key = l.data? key → s'.accounts.get? key = s.accounts.get? key := by
  have hdata : ∀ key, after.data? key = l'.data? key := fun key =>
    congrArg Prod.snd (congrFun hview key)
  have hstore : ∀ key data', l'.data? key = some data' →
      ∃ new, data'.store D K (s.accounts.get? key) = some new ∧
        Stored.Holds D K (some new) (some data') := by
    intro key data' hdata'
    refine (h.accounts key).store (fun d hd => ?_) fun r hr => hfits key r (hr ▸ hdata')
    obtain ⟨d', hd', hkind⟩ := hkept key d hd
    cases hdata'.symm.trans hd'
    exact hkind
  have hnone : ∀ key, l'.data? key = none → l.data? key = none := by
    intro key hdata'
    by_contra hne
    obtain ⟨d, hd⟩ := Option.ne_none_iff_exists'.mp hne
    obtain ⟨d', hd', -⟩ := hkept key d hd
    cases hdata'.symm.trans hd'
  obtain ⟨accounts, hset, hget⟩ := OrderedMap.setAll_of_forall (m := s.accounts)
    (f := fun old (data : AccountData Pubkey) => data.store D K old) after.accounts.nodup
    fun e he => by
      obtain ⟨new, hnew, -⟩ := hstore e.1 e.2 ((hdata e.1).symm.trans (OrderedMap.mem_entries.mp he))
      exact ⟨new, hnew⟩
  have hafter : ∀ key, accounts.get? key = (l'.data? key).elim (s.accounts.get? key) fun data =>
      data.store D K (s.accounts.get? key) := by
    intro key
    rw [hget, ← hdata key]
    rfl
  refine ⟨⟨after.lamports, accounts⟩, by rw [Storage.commit, hset, Option.map_some], ⟨?_, ?_⟩, ?_⟩
  · exact funext fun key => congrArg Prod.fst (congrFun hview key)
  · intro key
    change Stored.Holds D K (accounts.get? key) (l'.data? key)
    rw [hafter]
    cases hdata' : l'.data? key with
    | some data' =>
        obtain ⟨new, hnew, hholds⟩ := hstore key data' hdata'
        rwa [Option.elim_some, hnew]
    | none =>
        have hold := h.accounts key
        rwa [hnone key hdata'] at hold
  · intro key hsame
    change accounts.get? key = s.accounts.get? key
    rw [hafter, hsame]
    cases hdata' : l.data? key with
    | none => rfl
    | some data =>
        have hold := h.accounts key
        rw [hdata'] at hold
        exact hold.store_self

/-- One transaction on bytes does what it does on the ledger, and keeps the bytes of the
accounts it does not name as writable. -/
theorem Storage.Holds.transact (h : s.Holds D K l) (tx : Transaction Pubkey)
    (hfits : (programMachine.next l tx).Fits K) :
    (storageMachine D K).output s tx = some (programMachine.output l tx) ∧
      ((storageMachine D K).next s tx).Holds D K (programMachine.next l tx) ∧
      ∀ key, key ∉ tx.action.writable →
        ((storageMachine D K).next s tx).accounts.get? key = s.accounts.get? key := by
  obtain ⟨houtput, hview⟩ := programMachine_footprint.view_next h.view tx
  change (storageTransact D K s tx).2 = some (programMachine.output l tx) ∧
    (storageTransact D K s tx).1.Holds D K (programMachine.next l tx) ∧
    ∀ key, key ∉ tx.action.writable →
      (storageTransact D K s tx).1.accounts.get? key = s.accounts.get? key
  rw [← houtput]
  rcases transact_cases (s.ledger D K) tx with ⟨event, after, -, he⟩ | ⟨e, he⟩
  · have hafter : after.view = (programMachine.next l tx).view := by
      rw [← hview]
      exact congrArg (fun r => r.1.view) he.symm
    obtain ⟨s', hcommit, hholds, hkept⟩ := h.commit hafter (transact_kindsKept l tx) hfits
    have hrun : storageTransact D K s tx = (s', some (.ok event)) := by
      rw [storageTransact, he]
      simp only [hcommit]
    rw [hrun]
    refine ⟨congrArg (fun r => some r.2) he.symm, hholds, fun key hkey => hkept key ?_⟩
    exact congrArg Prod.snd (programMachine_footprint.frame l tx key hkey)
  · have hrun : storageTransact D K s tx = (s, some (.error e)) := by
      rw [storageTransact, he]
    rw [hrun]
    refine ⟨congrArg (fun r => some r.2) he.symm, ?_, fun _ _ => rfl⟩
    -- The ledger answers with the same error, so it stays as it was.
    have herror : (RwaTokenization.transact l tx).2 = .error e :=
      houtput.symm.trans (congrArg Prod.snd he)
    rcases transact_cases l tx with ⟨event, after, -, he'⟩ | ⟨e', he'⟩
    · rw [he'] at herror
      cases herror
    · rwa [next_of_error he']

end

/-! ## Records fit -/

section

variable [DecidableEq Pubkey] [Runtime Pubkey] {D : Discriminators} {K : KeyFormat Pubkey}
  {l l' : Ledger Pubkey} {ctx : Context Pubkey} {action : Action Pubkey}
  {event : Option (Event Pubkey)}

/-- The arguments that no instruction checks are in the range of their types. -/
def Action.InRange : Action Pubkey → Prop
  | .program (.initializeConfig _ params) =>
      params.registrationFee < u64Bound ∧ params.tokenizationFee < u64Bound
  | .program (.registerAsset _ args) => args.valuation < u64Bound
  | _ => True

/-- What can be sent: keys that are in use, arguments and a clock in range. -/
structure Transaction.Fits (K : KeyFormat Pubkey) (tx : Transaction Pubkey) : Prop where
  keys : ∀ key ∈ tx.action.accounts, key ∈ K.used
  arguments : tx.action.InRange
  time : Codec.int64.Fits tx.ctx.unixTimestamp

/-- Every record that is read has `P`. -/
def AllRead {β : Type} (P : β → Prop) (read : Pubkey → Option β) : Prop :=
  ∀ key record, read key = some record → P record

omit [Runtime Pubkey] in
theorem AllRead.update {β : Type} {P : β → Prop} {read : Pubkey → Option β} (h : AllRead P read)
    {key : Pubkey} {record : β} (hrecord : P record) :
    AllRead P (Function.update read key (some record)) := by
  intro k r hread
  rw [Function.update_apply] at hread
  split at hread
  · cases hread
    exact hrecord
  · exact h k r hread

/-- Every record of the ledger fits, kind by kind. -/
structure RecordsFit (K : KeyFormat Pubkey) (l : Ledger Pubkey) : Prop where
  configs : AllRead K.globalConfig.Fits l.globalConfig?
  assets : AllRead K.AssetFits l.rwaAsset?
  tokenizations : AllRead K.tokenization.Fits l.tokenization?

omit [Runtime Pubkey] in
theorem RecordsFit.fits (h : RecordsFit K l) (hvalid : l.MetadataValid) : l.Fits K := by
  intro key r hdata
  cases r with
  | globalConfig config => exact h.configs key config (Ledger.globalConfig?_eq_some.mpr hdata)
  | rwaAsset asset =>
      have hread := Ledger.rwaAsset?_eq_some.mpr hdata
      exact ⟨h.assets key asset hread, hvalid key asset hread⟩
  | tokenization record =>
      exact h.tokenizations key record (Ledger.read_of_data? hdata AccountData.tokenization?)

omit [Runtime Pubkey] in
theorem RecordsFit.of_empty (h : l.accounts = .empty) : RecordsFit K l := by
  have hno : ∀ {β : Type} {P : β → Prop} {kind : AccountData Pubkey → Option β},
      AllRead P (l.read kind) := fun {β P kind} key record hread => by
    rw [Ledger.read_of_empty h] at hread
    cases hread
  exact ⟨hno, hno, hno⟩

omit [Runtime Pubkey] in
/-- Writing an asset over an asset. -/
theorem RecordsFit.put_rwaAsset (h : RecordsFit K l) {key : Pubkey} {asset asset' : RwaAsset Pubkey}
    (hread : l.rwaAsset? key = some asset) (hfits : K.AssetFits asset') :
    RecordsFit K (l.put key (.rwaAsset asset')) where
  configs := by
    rw [Ledger.putAsset_globalConfig? hread]
    exact h.configs
  assets := by
    rw [Ledger.putAsset_rwaAsset?]
    exact h.assets.update hfits
  tokenizations := by
    rw [Ledger.putAsset_tokenization? hread]
    exact h.tokenizations

theorem RecordsFit.initialize {accs : Initialize Pubkey} {params : InitializeParams}
    (h : RecordsFit K l) (effect : accs.Effect ctx params l l')
    (hkeys : ∀ key ∈ accs.accounts, key ∈ K.used)
    (hrange : params.registrationFee < u64Bound ∧ params.tokenizationFee < u64Bound) :
    RecordsFit K l' where
  configs := by
    rw [effect.globalConfig?]
    refine h.configs.update (KeyFormat.globalConfig_fits.mpr ?_)
    have hfee : params.platformFeeBps < 2 ^ 16 := Nat.lt_of_le_of_lt effect.fee (by decide)
    have hzero : 0 < u64Bound := by decide
    exact ⟨hkeys _ (by simp [Initialize.accounts]), hrange.1, hrange.2, hfee, hzero, hzero⟩
  assets := by
    rw [effect.rwaAsset?]
    exact h.assets
  tokenizations := by
    rw [effect.tokenization?]
    exact h.tokenizations

theorem RecordsFit.register {accs : RegisterAsset Pubkey} {args : RegisterAssetArgs}
    {config : GlobalConfig Pubkey} (h : RecordsFit K l) (effect : accs.Effect ctx args config l l')
    (hkeys : ∀ key ∈ accs.accounts, key ∈ K.used) (hrange : args.valuation < u64Bound)
    (htime : Codec.int64.Fits ctx.unixTimestamp) : RecordsFit K l' where
  configs := by
    obtain ⟨hauthority, hregistration, htokenization, hfee, -, htokenized⟩ :=
      KeyFormat.globalConfig_fits.mp (h.configs _ _ effect.config_read)
    rw [effect.globalConfig?]
    refine h.configs.update (KeyFormat.globalConfig_fits.mpr ?_)
    exact ⟨hauthority, hregistration, htokenization, hfee, effect.room, htokenized⟩
  assets := by
    rw [effect.rwaAsset?]
    refine h.assets.update ⟨hkeys _ ?_, hkeys _ ?_, hrange, htime, ?_, ?_⟩
    · simp [RegisterAsset.accounts, RegisterAsset.record]
    · simp [RegisterAsset.accounts, RegisterAsset.record]
    · intro time hnone
      cases hnone
    · intro key hnone
      cases hnone
  tokenizations := by
    rw [effect.tokenization?]
    exact h.tokenizations

theorem RecordsFit.tokenize {accs : TokenizeAsset Pubkey} {totalSupply : ℕ}
    {config : GlobalConfig Pubkey} {asset : RwaAsset Pubkey} (h : RecordsFit K l)
    (effect : accs.Effect ctx totalSupply config asset l l')
    (hkeys : ∀ key ∈ accs.accounts, key ∈ K.used) (htime : Codec.int64.Fits ctx.unixTimestamp) :
    RecordsFit K l' where
  configs := by
    obtain ⟨hauthority, hregistration, htokenization, hfee, htotal, -⟩ :=
      KeyFormat.globalConfig_fits.mp (h.configs _ _ effect.config_read)
    rw [effect.globalConfig?]
    refine h.configs.update (KeyFormat.globalConfig_fits.mpr ?_)
    exact ⟨hauthority, hregistration, htokenization, hfee, htotal, effect.room⟩
  assets := by
    have hold := h.assets _ _ effect.asset_read
    rw [effect.rwaAsset?]
    refine h.assets.update ⟨hold.assetId, hold.owner, hold.valuation, hold.registeredAt, ?_, ?_⟩
    · rintro time ⟨⟩
      exact htime
    · rintro key ⟨⟩
      exact hkeys _ (by simp [TokenizeAsset.accounts])
  tokenizations := by
    rw [effect.tokenization?]
    refine h.tokenizations.update (KeyFormat.tokenization_fits.mpr ⟨hkeys _ ?_, hkeys _ ?_,
      effect.bounded, htime, hkeys _ ?_⟩) <;>
      simp [TokenizeAsset.accounts, TokenizeAsset.newTokenization]

theorem RecordStep.recordsFit (hstep : RecordStep ctx l l' action event) (h : RecordsFit K l)
    (hkeys : ∀ key ∈ action.accounts, key ∈ K.used) (hrange : action.InRange)
    (htime : Codec.int64.Fits ctx.unixTimestamp) : RecordsFit K l' := by
  cases hstep with
  | idle same _ =>
      refine ⟨?_, ?_, ?_⟩
      · rw [same.configs]
        exact h.configs
      · rw [same.assets]
        exact h.assets
      · rw [same.tokenizations]
        exact h.tokenizations
  | initializeConfig effect => exact h.initialize effect hkeys hrange
  | register effect => exact h.register effect hkeys hrange htime
  | tokenize effect => exact h.tokenize effect hkeys htime
  | edit accepted after =>
      have hold := h.assets _ _ accepted.asset_read
      subst after
      exact h.put_rwaAsset accepted.asset_read ⟨hold.assetId, hold.owner, hold.valuation,
        hold.registeredAt, hold.tokenizedAt, hold.mint⟩
  | setStatus accepted after =>
      have hold := h.assets _ _ accepted.asset_read
      subst after
      exact h.put_rwaAsset accepted.asset_read ⟨hold.assetId, hold.owner, hold.valuation,
        hold.registeredAt, hold.tokenizedAt, hold.mint⟩

theorem RecordsFit.transact (h : RecordsFit K l) {tx : Transaction Pubkey} (htx : tx.Fits K) :
    RecordsFit K (programMachine.next l tx) := by
  rcases transact_recordStep l tx with ⟨event, -, hstep⟩ | ⟨e, he⟩
  · exact hstep.recordsFit h htx.keys htx.arguments htx.time
  · rwa [next_of_error he]

/-! ## The refinement -/

/-- A storage and the reachable ledger it stores. -/
structure Refines (D : Discriminators) (K : KeyFormat Pubkey) (l : Ledger Pubkey)
    (s : Storage Pubkey) : Prop where
  reachable : Reachable l
  fit : RecordsFit K l
  holds : s.Holds D K l

theorem Refines.next {s : Storage Pubkey} (h : Refines D K l s) {tx : Transaction Pubkey}
    (htx : tx.Fits K) : (programMachine.next l tx).Fits K :=
  (h.fit.transact htx).fits (metadataValid_of_reachable (h.reachable.step tx))

theorem Refines.run (lamports : Pubkey → ℕ) {txs : List (Transaction Pubkey)}
    (htxs : ∀ tx ∈ txs, tx.Fits K) :
    (storageMachine D K).answers ⟨lamports, .empty⟩ txs =
        (programMachine.answers ⟨lamports, .empty⟩ txs).map (Prod.map id some) ∧
      Refines D K (programMachine.run ⟨lamports, .empty⟩ txs)
        ((storageMachine D K).run ⟨lamports, .empty⟩ txs) := by
  have hstart : Refines D K ⟨lamports, .empty⟩ ⟨lamports, .empty⟩ :=
    ⟨.start rfl, .of_empty rfl, rfl, fun _ => .empty⟩
  refine Machine.related_run (R := Refines D K) (fun l s tx htx h => ?_) hstart htxs
  obtain ⟨houtput, hholds, -⟩ := h.holds.transact tx (h.next htx)
  exact ⟨houtput, h.reachable.step tx, h.fit.transact htx, hholds⟩

end

/-! ## A sample run on bytes -/

namespace Address

/-- Bytes for the accounts of the sample asset. -/
def keyFormat : KeyFormat Address where
  bytes
    | key n => .replicate 32 (UInt8.ofNat n)
    | pda _ => .replicate 32 201
    | pdaOf literal _ => .replicate 32 (if literal = assetSeed then 202 else 203)
    | associated _ _ _ => .replicate 32 204
  used := [key 9, key 10, houseId, houseMint, globalConfigPda, house, tokenizationPda house,
    houseAccount 10]
  injective := by decide

def discriminators : Discriminators where
  of
    | .globalConfig => .replicate 8 1
    | .rwaAsset => .replicate 8 2
    | .tokenization => .replicate 8 3
  injective a b := by
    cases a <;> cases b <;> decide

/-- The sample asset is registered, tokenized and gets a shorter name. -/
def houseEdits : List (Transaction Address) :=
  registerHouse ++ [tokenizeHouse,
    program [10] (.updateAssetMetadata ⟨house, key 10⟩ ⟨some "H", none, none⟩)]

theorem houseEdits_fit : ∀ tx ∈ houseEdits, tx.Fits keyFormat := by
  have htime : Codec.int64.Fits 0 := Codec.int64_fits.mpr (by decide)
  have hvaluation : 5 < u64Bound := by decide
  simp only [houseEdits, registerHouse, List.cons_append, List.nil_append, List.forall_mem_cons]
  exact ⟨⟨by decide, ⟨by decide, by decide⟩, htime⟩, ⟨by decide, hvaluation, htime⟩,
    ⟨by decide, trivial, htime⟩, ⟨by decide, trivial, htime⟩, fun _ h => (nomatch h)⟩

end Address

section

variable [DecidableEq Pubkey] [Runtime Pubkey]

/-- On bytes a run answers what it answers on the ledger, and the accounts hold what
the ledger does: no record fails to be written back or is read wrongly from a buffer
that still has the end of an older record. -/
theorem storage_run (D : Discriminators) {K : KeyFormat Pubkey} {txs : List (Transaction Pubkey)}
    (htxs : ∀ tx ∈ txs, tx.Fits K) (lamports : Pubkey → ℕ) :
    (storageMachine D K).answers ⟨lamports, .empty⟩ txs =
        (programMachine.answers ⟨lamports, .empty⟩ txs).map (Prod.map id some) ∧
      ((storageMachine D K).run ⟨lamports, .empty⟩ txs).Holds D K
        (programMachine.run ⟨lamports, .empty⟩ txs) := by
  obtain ⟨hanswers, hrefines⟩ := Refines.run lamports htxs
  exact ⟨hanswers, hrefines.holds⟩

theorem storage_run_house :
    (storageMachine Address.discriminators Address.keyFormat).answers
        ⟨Address.genesis.lamports, .empty⟩ Address.houseEdits =
      (programMachine.answers Address.genesis Address.houseEdits).map (Prod.map id some) :=
  (storage_run Address.discriminators Address.houseEdits_fit Address.genesis.lamports).1

/-- Every step of a run on bytes keeps every byte of the accounts that its transaction does
not name as writable. -/
theorem storage_frame (D : Discriminators) {K : KeyFormat Pubkey} {txs : List (Transaction Pubkey)}
    (htxs : ∀ tx ∈ txs, tx.Fits K) (lamports : Pubkey → ℕ) :
    ∀ e ∈ (storageMachine D K).steps ⟨lamports, .empty⟩ txs, ∀ key,
      key ∉ e.action.action.writable → e.after.accounts.get? key = e.before.accounts.get? key := by
  intro e he key hkey
  obtain ⟨pre, tx, post, rfl, rfl⟩ := Machine.mem_steps he
  have hpre := Refines.run (D := D) lamports fun tx htx => htxs tx (List.mem_append_left _ htx)
  have htx := htxs tx (List.mem_append_right pre List.mem_cons_self)
  exact (hpre.2.holds.transact tx (hpre.2.next htx)).2.2 key hkey

/-- The last step of the sample run renames the asset and leaves the bytes of the config. -/
theorem storage_frame_house :
    ((storageMachine Address.discriminators Address.keyFormat).run
        ⟨Address.genesis.lamports, .empty⟩ Address.houseEdits).accounts.get? globalConfigPda =
      ((storageMachine Address.discriminators Address.keyFormat).run
        ⟨Address.genesis.lamports, .empty⟩
        (Address.registerHouse ++ [Address.tokenizeHouse])).accounts.get? globalConfigPda := by
  let rename := Address.program [10] (.updateAssetMetadata ⟨Address.house, .key 10⟩
    ⟨some "H", none, none⟩)
  let edits := Address.registerHouse ++ [Address.tokenizeHouse]
  have hmem := Machine.stepAt_mem_steps (M := storageMachine Address.discriminators
    Address.keyFormat) ⟨Address.genesis.lamports, .empty⟩ edits rename []
  have hfixed : globalConfigPda ∉ rename.action.writable := by decide
  have hkept := storage_frame Address.discriminators Address.houseEdits_fit
    Address.genesis.lamports _ hmem globalConfigPda hfixed
  have hedits : Address.houseEdits = edits ++ [rename] := rfl
  rw [hedits, Machine.run_append]
  exact hkept

end

end RwaTokenization
