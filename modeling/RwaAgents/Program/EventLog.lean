import RwaAgents.Program.RecordSafety

/-!
# The event log and the register

An indexer that reads nothing but the events keeps a table of the assets.  The
table is the register on the chain: the owner, the type and the status of every
asset, and its mint, its supply and its time once it is tokenized.

Every step changes the register exactly as its event says (`RecordStep.register_eq`),
so the log of a run rebuilds it (`register_replayed`).
-/

namespace RwaTokenization

/-- What the register says of one asset. -/
structure RegisterRow (Pubkey : Type) where
  owner : Pubkey
  assetType : AssetType
  status : AssetStatus
  mint : Option Pubkey
  totalSupply : Option ℕ
  tokenizedAt : Option ℤ
deriving DecidableEq, Repr

/-- A table of assets by their addresses. -/
abbrev RegisterTable (Pubkey : Type) := Pubkey → Option (RegisterRow Pubkey)

variable {Pubkey : Type} [DecidableEq Pubkey]

namespace RegisterTable

def empty : RegisterTable Pubkey := fun _ => none

/-- Change the row of an asset, if there is one. -/
def edit (table : RegisterTable Pubkey) (asset : Pubkey)
    (f : RegisterRow Pubkey → RegisterRow Pubkey) : RegisterTable Pubkey :=
  Function.update table asset ((table asset).map f)

/-- What an indexer makes of an event. -/
def apply (table : RegisterTable Pubkey) : Event Pubkey → RegisterTable Pubkey
  | .assetRegistered asset owner assetType _ _ =>
      Function.update table asset (some ⟨owner, assetType, .registered, none, none, none⟩)
  | .assetTokenized asset mint totalSupply tokenizedAt =>
      table.edit asset fun row => { row with
        status := .active
        mint := some mint
        totalSupply := some totalSupply
        tokenizedAt := some tokenizedAt }
  | .assetStatusChanged asset _ newStatus =>
      table.edit asset fun row => { row with status := newStatus }
  | _ => table

end RegisterTable

/-- The event of an answer. -/
def Answer.event? : Answer Pubkey → Option (Event Pubkey)
  | .ok event => event
  | .error _ => none

/-- The table an indexer has after some steps. -/
def replayed [Runtime Pubkey] (es : List (ProgramStep Pubkey)) : RegisterTable Pubkey :=
  (Machine.events Answer.event? es).foldl RegisterTable.apply .empty

/-- The row of an asset on the chain. -/
def RwaAsset.row (asset : RwaAsset Pubkey) (tokenization : Option (Tokenization Pubkey)) :
    RegisterRow Pubkey :=
  ⟨asset.owner, asset.assetType, asset.status, asset.mint,
    tokenization.map Tokenization.totalSupply, asset.tokenizedAt⟩

variable [Runtime Pubkey] {ctx : Context Pubkey} {l l' : Ledger Pubkey} {action : Action Pubkey}
  {event : Option (Event Pubkey)} {key : Pubkey} {asset : RwaAsset Pubkey}

/-- The register on the chain. -/
def Ledger.register (l : Ledger Pubkey) : RegisterTable Pubkey := fun key =>
  (l.rwaAsset? key).map fun asset => asset.row (l.tokenization? (tokenizationPda key))

/-! ## A step changes the register as its event says -/

theorem Ledger.register_of_read (h : l.rwaAsset? key = some asset) :
    l.register key = some (asset.row (l.tokenization? (tokenizationPda key))) := by
  rw [register, h, Option.map_some]

/-- Writing an asset changes its own row. -/
theorem Ledger.register_of_update
    (hassets : l'.rwaAsset? = Function.update l.rwaAsset? key (some asset))
    (htokenizations : l'.tokenization? = l.tokenization?) :
    l'.register = Function.update l.register key
      (some (asset.row (l.tokenization? (tokenizationPda key)))) := by
  funext k
  rw [register, hassets, htokenizations, Function.update_apply, Function.update_apply]
  split
  · next hk => rw [hk, Option.map_some]
  · rfl

omit [Runtime Pubkey] in
theorem RegisterTable.apply_of_quiet {e : Event Pubkey} (h : e.writesRecord = false)
    (table : RegisterTable Pubkey) : table.apply e = table := by
  cases e with
  | assetRegistered => cases h
  | assetTokenized => cases h
  | assetStatusChanged => cases h
  | _ => rfl

theorem RecordStep.register_eq (h : RecordStep ctx l l' action event) (hvalid : RecordsValid l) :
    l'.register = event.elim l.register l.register.apply := by
  cases h with
  | idle same quiet =>
      have hsame : l'.register = l.register := by
        unfold Ledger.register
        rw [same.assets, same.tokenizations]
      cases event with
      | none => exact hsame
      | some e => rw [hsame, Option.elim_some, RegisterTable.apply_of_quiet (quiet e rfl)]
  | initializeConfig effect =>
      show l'.register = l.register
      unfold Ledger.register
      rw [effect.rwaAsset?, effect.tokenization?]
  | @register accs args config effect =>
      have hfresh : l.rwaAsset? accs.asset = none := Ledger.read_of_data?_eq_none effect.fresh _
      rw [Ledger.register_of_update effect.rwaAsset? effect.tokenization?,
        hvalid.tokenization?_of_fresh hfresh]
      rfl
  | @tokenize accs totalSupply config asset effect =>
      show l'.register = l.register.edit accs.asset _
      rw [RegisterTable.edit, Ledger.register_of_read effect.asset_read, Option.map_some]
      funext k
      rw [Ledger.register, effect.rwaAsset?, effect.tokenization?, effect.tokenization_eq]
      by_cases hk : k = accs.asset
      · rw [hk, Function.update_self, Function.update_self, Function.update_self, Option.map_some]
        rfl
      · rw [Function.update_of_ne hk, Function.update_of_ne hk,
          Function.update_of_ne fun he => hk (tokenizationPda_inj.mp he)]
        rfl
  | @edit accs args asset accepted after =>
      have hrow := Ledger.register_of_read accepted.asset_read
      rw [after, Ledger.register_of_update (Ledger.putAsset_rwaAsset? _ _ _)
        (Ledger.putAsset_tokenization? accepted.asset_read _)]
      exact Function.update_eq_self_iff.mpr hrow.symm
  | @setStatus accs status asset accepted after =>
      show l'.register = l.register.edit accs.asset _
      rw [RegisterTable.edit, Ledger.register_of_read accepted.asset_read, Option.map_some, after,
        Ledger.register_of_update (Ledger.putAsset_rwaAsset? _ _ _)
          (Ledger.putAsset_tokenization? accepted.asset_read _)]
      rfl

/-- A transaction changes the register as the event it emitted says. -/
theorem register_next (h : Reachable l) (tx : Transaction Pubkey) :
    (programMachine.next l tx).register =
      (programMachine.output l tx).event?.elim l.register l.register.apply := by
  rcases transact_recordStep l tx with ⟨event, hok, hstep⟩ | ⟨err, herr⟩
  · rw [show programMachine.output l tx = .ok event from hok]
    exact hstep.register_eq (valid_of_reachable h).records
  · rw [next_of_error herr, output_of_error herr]
    rfl

/-! ## The log of a run -/

theorem replayed_steps (hstart : programMachine.start l) (txs : List (Transaction Pubkey)) :
    replayed (programMachine.steps l txs) = (programMachine.run l txs).register := by
  have hempty : (.empty : RegisterTable Pubkey) = l.register := by
    funext key
    rw [Ledger.register, Ledger.rwaAsset?, Ledger.read_of_empty hstart]
    rfl
  rw [replayed, hempty]
  exact (Machine.Reachable.start hstart).foldl_events (fun l tx h => register_next h tx) txs

/-- Who announces a status change announces the status the asset had. -/
theorem RecordStep.oldStatus {oldStatus newStatus : AssetStatus}
    (h : RecordStep ctx l l' action (some (.assetStatusChanged key oldStatus newStatus))) :
    ∃ asset, l.rwaAsset? key = some asset ∧ asset.status = oldStatus := by
  cases h with
  | idle _ quiet => cases quiet _ rfl
  | setStatus accepted _ => exact ⟨_, accepted.asset_read, rfl⟩

/-- The events of every run rebuild the register on the chain, and every status
change announces the status the rebuilt register has. -/
theorem register_replayed (hstart : programMachine.start l) (txs : List (Transaction Pubkey)) :
    replayed (programMachine.steps l txs) = (programMachine.run l txs).register ∧
      ∀ tx asset oldStatus newStatus,
        programMachine.output (programMachine.run l txs) tx =
          .ok (some (.assetStatusChanged asset oldStatus newStatus)) →
        ∃ row, replayed (programMachine.steps l txs) asset = some row ∧
          row.status = oldStatus := by
  have hreplayed := replayed_steps hstart txs
  refine ⟨hreplayed, fun tx asset oldStatus newStatus houtput => ?_⟩
  rcases transact_recordStep (programMachine.run l txs) tx with ⟨event, hok, hstep⟩ | ⟨err, herr⟩
  · cases hok.symm.trans houtput
    obtain ⟨record, hread, hstatus⟩ := hstep.oldStatus
    rw [hreplayed, Ledger.register_of_read hread]
    exact ⟨_, rfl, hstatus⟩
  · cases (output_of_error herr).symm.trans houtput

/-- The log of the sample asset, tokenized and frozen. -/
theorem register_replayed_house :
    replayed (programMachine.steps Address.genesis (Address.registerHouse ++
        [Address.tokenizeHouse, Address.setHouseStatus .frozen])) Address.house =
      some ⟨.key 10, .realEstate, .frozen, some Address.houseMint, some 100, some 0⟩ := by
  rw [(register_replayed (l := Address.genesis) rfl _).1]
  decide

end RwaTokenization
