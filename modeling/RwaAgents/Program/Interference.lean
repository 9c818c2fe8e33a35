import RwaAgents.Program.AssetLife
import RwaAgents.Program.Kinds

/-!
# Interference

The token programs can do more than the program relies on.  Accounts are closed, delegated
and given away, and other programs have accounts of their own.  The runtime lets none of
them write an account of this program.

In an *open* run, others change the ledger between the transactions in any way that leaves
the records of this program alone.  Mints and token accounts may come, change and go.  The
records stand all the same (`records_stand`): each keeps its address and its kind, an asset and
its tokenization agree, and the life of every asset is a sequence of steps of its lifecycle.
-/

namespace RwaTokenization

variable {Pubkey : Type} [DecidableEq Pubkey]

theorem Ledger.tokenization?_eq_some {ledger : Ledger Pubkey} {key : Pubkey}
    {record : Tokenization Pubkey} :
    ledger.tokenization? key = some record ↔ ledger.data? key = some (.tokenization record) :=
  read_eq_some fun d => by cases d <;> simp [AccountData.tokenization?]

omit [DecidableEq Pubkey] in
/-- The kind says who owns the account. -/
theorem AccountData.isTokenData_of_kind {a b : AccountData Pubkey} (h : a.kind = b.kind) :
    a.isTokenData = b.isTokenData := by
  cases a <;> cases b <;> first | rfl | cases h

/-- Every record is still there, in its kind. -/
def RecordKindsKept (l l' : Ledger Pubkey) : Prop :=
  ∀ key data, l.data? key = some data → data.isTokenData = false →
    ∃ data', l'.data? key = some data' ∧ data'.kind = data.kind

variable {l l' l'' : Ledger Pubkey}

theorem RecordKindsKept.trans (h : RecordKindsKept l l') (h' : RecordKindsKept l' l'') :
    RecordKindsKept l l'' := by
  intro key data hdata hrecord
  obtain ⟨data', hdata', hkind⟩ := h key data hdata hrecord
  obtain ⟨data'', hdata'', hkind'⟩ :=
    h' key data' hdata' ((AccountData.isTokenData_of_kind hkind).trans hrecord)
  exact ⟨data'', hdata'', hkind'.trans hkind⟩

theorem KindsKept.recordKindsKept (h : KindsKept l.data? l'.data?) : RecordKindsKept l l' :=
  fun key data hdata _ => h key data hdata

/-- Who leaves the records alone leaves their accounts alone. -/
theorem SameRecords.recordKindsKept (h : SameRecords l l') : RecordKindsKept l l' := by
  intro key data hdata hrecord
  refine ⟨data, ?_, rfl⟩
  cases data with
  | globalConfig config =>
      rw [← Ledger.globalConfig?_eq_some] at hdata ⊢
      rwa [h.configs]
  | rwaAsset asset =>
      rw [← Ledger.rwaAsset?_eq_some] at hdata ⊢
      rwa [h.assets]
  | tokenization record =>
      rw [← Ledger.tokenization?_eq_some] at hdata ⊢
      rwa [h.tokenizations]
  | mint record => cases hrecord
  | tokenAccount account => cases hrecord

/-! ## Open runs -/

variable [Runtime Pubkey]

inductive OpenAction (Pubkey : Type) [Runtime Pubkey]
  | transaction (tx : Transaction Pubkey)
  /-- Others change the ledger. -/
  | others (change : Ledger Pubkey → Ledger Pubkey)

def openStep (ledger : Ledger Pubkey) :
    OpenAction Pubkey → Ledger Pubkey × Option (Answer Pubkey)
  | .transaction tx => ((transact ledger tx).1, some (transact ledger tx).2)
  | .others change => (change ledger, none)

def openMachine : Machine (Ledger Pubkey) (OpenAction Pubkey) (Option (Answer Pubkey)) :=
  ⟨fun ledger => ledger.accounts = .empty, openStep⟩

abbrev OpenStep (Pubkey : Type) [Runtime Pubkey] :=
  Machine.Step (Ledger Pubkey) (OpenAction Pubkey) (Option (Answer Pubkey))

/-- If the step is one of others, it leaves the records alone. -/
def OpenStep.SparesRecords (e : OpenStep Pubkey) : Prop :=
  ∀ change, e.action = .others change → SameRecords e.before e.after

/-- A step of an open run is an asset step or leaves the records alone. -/
theorem openStep_records {action : OpenAction Pubkey} (hvalid : RecordsValid l)
    (hspares : OpenStep.SparesRecords (openMachine.stepAt l action)) :
    RecordsValid (openMachine.next l action) ∧
      RecordKindsKept l (openMachine.next l action) ∧
      ∀ key, Relation.ReflGen (assetLifecycle Pubkey).Step (l.life key)
        ((openMachine.next l action).life key) := by
  cases action with
  | transaction tx =>
      have hstep := transact_assetStep l tx
      exact ⟨hvalid.step hstep, (transact_kindsKept l tx).recordKindsKept, hstep.life hvalid⟩
  | others change =>
      have hsame : SameRecords l (openMachine.next l (.others change)) := hspares change rfl
      refine ⟨hvalid.of_same hsame.assets hsame.tokenizations, hsame.recordKindsKept,
        fun key => ?_⟩
      rw [Ledger.life, Ledger.life, hsame.assets]

/-- Whatever others do to the accounts that are theirs, along every open run the assets and
the tokenizations agree, no record is lost, moved or turned into another, and every asset goes
on living its lifecycle. -/
theorem records_stand (hstart : l.accounts = .empty) {pre post : List (OpenAction Pubkey)}
    (hspares : ∀ e ∈ openMachine.steps l (pre ++ post), OpenStep.SparesRecords e) :
    let earlier := openMachine.run l pre
    let later := openMachine.run l (pre ++ post)
    RecordsValid later ∧ RecordKindsKept earlier later ∧
      ∀ key, Relation.ReflTransGen (assetLifecycle Pubkey).Step (earlier.life key)
        (later.life key) := by
  intro earlier later
  rw [Machine.steps_append, List.forall_mem_append] at hspares
  have hearlier : RecordsValid earlier :=
    (Machine.invariant_of_steps (I := RecordsValid)
      (fun l action hvalid he => (openStep_records hvalid he).1)
      (LedgerValid.of_empty hstart).records hspares.1).2
  -- The steps behind `earlier`, from which the invariant and the comparison go on.
  have hlater := (Machine.invariant_of_steps
    (I := fun l => RecordsValid l ∧ RecordKindsKept earlier l ∧
      ∀ key, Relation.ReflTransGen (assetLifecycle Pubkey).Step (earlier.life key) (l.life key))
    (fun l action hkept he => by
      obtain ⟨hvalid, hkinds, hlife⟩ := openStep_records hkept.1 he
      exact ⟨hvalid, hkept.2.1.trans hkinds, fun key =>
        (hkept.2.2 key).trans (hlife key).to_reflTransGen⟩)
    ⟨hearlier, (SameRecords.refl earlier).recordKindsKept, fun _ => .refl⟩ hspares.2).2
  have hrun : later = openMachine.run earlier post := Machine.run_append l pre post
  rw [hrun]
  exact hlater

/-! ## A token account is closed -/

omit [Runtime Pubkey]

/-- `close_account`, for an account without units. -/
def Ledger.close (key : Pubkey) (ledger : Ledger Pubkey) : Ledger Pubkey :=
  if (ledger.tokenAccount? key).any (·.amount = 0) then
    { ledger with accounts := ledger.accounts.delete key }
  else ledger

theorem Ledger.close_read {β : Type} {kind : AccountData Pubkey → Option β} (key : Pubkey)
    (hkind : ∀ {d}, d.isTokenData = true → kind d = none) :
    (l.close key).read kind = l.read kind := by
  rw [close]
  split
  · next hclosed =>
    obtain ⟨account, haccount, -⟩ := (Option.any_eq_true _ _).mp hclosed
    funext k
    rw [read, read, data?, OrderedMap.get?_delete]
    split
    · next hk =>
      rw [hk, tokenAccount?_eq_some.mp haccount]
      exact (hkind rfl).symm
    · rfl
  · rfl

theorem SameRecords.close (l : Ledger Pubkey) (key : Pubkey) : SameRecords l (l.close key) where
  configs := l.close_read key AccountData.globalConfig?_of_token
  assets := l.close_read key AccountData.rwaAsset?_of_token
  tokenizations := l.close_read key AccountData.tokenization?_of_token

namespace Address

/-- The sample asset is tokenized and redeemed, and the empty account is closed. -/
def closeHouse : List (OpenAction Address) := [
  .transaction tokenizeHouse,
  .transaction (redeemHouse 100),
  .others (Ledger.close (houseAccount 10)),
  .transaction (setHouseStatus .redeemed)]

end Address

/-- The account is gone, and the records stand. -/
theorem records_stand_house :
    (openMachine.run Address.genesis (Address.registerHouse.map .transaction ++
        Address.closeHouse)).data? (Address.houseAccount 10) = none ∧
      RecordsValid (openMachine.run Address.genesis (Address.registerHouse.map .transaction ++
        Address.closeHouse)) := by
  refine ⟨by decide, (records_stand rfl fun e he change hchange => ?_).1⟩
  obtain ⟨pre, action, post, hactions, rfl⟩ := Machine.mem_steps he
  cases hchange
  have hmem : OpenAction.others change ∈ Address.registerHouse.map .transaction ++
      Address.closeHouse := by
    rw [hactions]
    exact List.mem_append_right pre List.mem_cons_self
  simp only [Address.registerHouse, Address.closeHouse, List.map_cons, List.map_nil,
    List.mem_append, List.mem_cons, reduceCtorEq, List.not_mem_nil, OpenAction.others.injEq,
    or_false, false_or] at hmem
  rw [hmem]
  exact SameRecords.close _ _

end RwaTokenization
