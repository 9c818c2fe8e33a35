import RwaAgents.Program.Invariant
import RwaAgents.Program.Panics

/-!
# The counters of the configuration

The configuration counts the registered and the tokenized assets.  Both counters
are exact after every run (`CountersValid`), because a registration and a
tokenization that fail late are rolled back with everything they wrote.

A counter is unwrapped after a `checked_add`.  It takes as many registrations as
there are numbers to make that panic (`counters_accounted`).
-/

namespace RwaTokenization

variable {Pubkey : Type} [DecidableEq Pubkey] {l l' : Ledger Pubkey}

namespace Ledger

/-- The number of assets. -/
def assetCount (l : Ledger Pubkey) : ℕ := l.count AccountData.rwaAsset? fun _ => true

/-- The number of tokenized assets. -/
def tokenizedCount (l : Ledger Pubkey) : ℕ := l.count AccountData.rwaAsset? RwaAsset.isTokenized

/-- The number of tokenizations. -/
def tokenizationCount (l : Ledger Pubkey) : ℕ := l.count AccountData.tokenization? fun _ => true

omit [DecidableEq Pubkey] in
theorem tokenizedCount_le (l : Ledger Pubkey) : l.tokenizedCount ≤ l.assetCount :=
  count_le_count fun _ _ => rfl

section

variable {key : Pubkey} {asset asset' : RwaAsset Pubkey}

theorem assetCount_of_new (h : l'.rwaAsset? = Function.update l.rwaAsset? key (some asset))
    (hfresh : l.rwaAsset? key = none) : l'.assetCount = l.assetCount + 1 := by
  have hcount := count_of_update h fun _ => true
  rwa [show l.read AccountData.rwaAsset? key = none from hfresh] at hcount

theorem assetCount_of_update (h : l'.rwaAsset? = Function.update l.rwaAsset? key (some asset'))
    (hread : l.rwaAsset? key = some asset) : l'.assetCount = l.assetCount := by
  have hcount := count_of_update h fun _ => true
  rw [show l.read AccountData.rwaAsset? key = some asset from hread] at hcount
  exact Nat.add_right_cancel hcount

theorem tokenizedCount_of_new (h : l'.rwaAsset? = Function.update l.rwaAsset? key (some asset))
    (hfresh : l.rwaAsset? key = none) :
    l'.tokenizedCount = l.tokenizedCount + asset.isTokenized.toNat := by
  have hcount := count_of_update h RwaAsset.isTokenized
  rwa [show l.read AccountData.rwaAsset? key = none from hfresh] at hcount

theorem tokenizedCount_of_update (h : l'.rwaAsset? = Function.update l.rwaAsset? key (some asset'))
    (hread : l.rwaAsset? key = some asset) :
    l'.tokenizedCount + asset.isTokenized.toNat =
      l.tokenizedCount + asset'.isTokenized.toNat := by
  have hcount := count_of_update h RwaAsset.isTokenized
  rwa [show l.read AccountData.rwaAsset? key = some asset from hread] at hcount

/-- An asset that is not tokenized yet leaves room to tokenize it. -/
theorem tokenizedCount_lt (hread : l.rwaAsset? key = some asset)
    (huntokenized : asset.isTokenized = false) : l.tokenizedCount < l.assetCount := by
  have hput := put_read l key (.rwaAsset { asset with isTokenized := true }) AccountData.rwaAsset?
  have htokenized := tokenizedCount_of_update hput hread
  have hassets := assetCount_of_update hput hread
  have hle := tokenizedCount_le (l.put key (.rwaAsset { asset with isTokenized := true }))
  rw [huntokenized] at htokenized
  simp only [Bool.toNat_false, Bool.toNat_true] at htokenized
  omega

end

end Ledger

variable [Runtime Pubkey] {ctx : Context Pubkey} {action : Action Pubkey}
  {event : Option (Event Pubkey)}

/-- What a counter shows, which is nothing before there is a configuration. -/
def Ledger.counter (l : Ledger Pubkey) (counter : GlobalConfig Pubkey → ℕ) : ℕ :=
  (l.globalConfig? globalConfigPda).elim 0 counter

/-- The invariant of the counters. -/
structure CountersValid (l : Ledger Pubkey) : Prop where
  /-- There is one configuration. -/
  config_eq : ∀ {key config}, l.globalConfig? key = some config → key = globalConfigPda
  assets : l.counter GlobalConfig.totalAssets = l.assetCount
  tokenized : l.counter GlobalConfig.totalTokenizedAssets = l.tokenizedCount
  tokenizations : l.tokenizationCount = l.tokenizedCount

theorem Ledger.counter_of_read {config : GlobalConfig Pubkey}
    (h : l.globalConfig? globalConfigPda = some config) (counter : GlobalConfig Pubkey → ℕ) :
    l.counter counter = counter config := by
  rw [Ledger.counter, h, Option.elim_some]

namespace CountersValid

theorem of_empty (h : l.accounts = .empty) : CountersValid l := by
  have hread : ∀ {β : Type} (kind : AccountData Pubkey → Option β) (p : β → Bool),
      l.count kind p = 0 := by
    intro β kind p
    rw [Ledger.count, h]
    rfl
  have hcounter : ∀ counter, l.counter counter = 0 := by
    intro counter
    rw [Ledger.counter, Ledger.globalConfig?, Ledger.read_of_empty h, Option.elim_none]
  refine ⟨fun hconfig => ?_, ?_, ?_, ?_⟩
  · rw [Ledger.globalConfig?, Ledger.read_of_empty h] at hconfig
    cases hconfig
  · rw [hcounter, Ledger.assetCount, hread]
  · rw [hcounter, Ledger.tokenizedCount, hread]
  · rw [Ledger.tokenizationCount, hread, Ledger.tokenizedCount, hread]

variable (h : CountersValid l)

include h

theorem of_same (hconfigs : l'.globalConfig? = l.globalConfig?)
    (hassets : l'.assetCount = l.assetCount) (htokenized : l'.tokenizedCount = l.tokenizedCount)
    (htokenizations : l'.tokenization? = l.tokenization?) : CountersValid l' where
  config_eq := by rw [hconfigs]; exact h.config_eq
  assets := by rw [Ledger.counter, hconfigs, hassets]; exact h.assets
  tokenized := by rw [Ledger.counter, hconfigs, htokenized]; exact h.tokenized
  tokenizations := by
    rw [htokenized, ← h.tokenizations]
    exact Ledger.count_congr htokenizations _

/-- A configuration is written at the one address it can have. -/
theorem config_eq_of_update {config : GlobalConfig Pubkey}
    (hconfigs : l'.globalConfig? =
      Function.update l.globalConfig? globalConfigPda (some config)) {key : Pubkey}
    {config' : GlobalConfig Pubkey} (hread : l'.globalConfig? key = some config') :
    key = globalConfigPda := by
  rw [hconfigs, Function.update_apply] at hread
  split at hread
  · assumption
  · exact h.config_eq hread

theorem initializeConfig {accs : Initialize Pubkey} {params : InitializeParams}
    (heffect : accs.Effect ctx params l l') : CountersValid l' := by
  have hconfigs := heffect.globalConfig?
  have hfresh : l.globalConfig? accs.globalConfig = none :=
    Ledger.read_of_data?_eq_none heffect.fresh _
  rw [heffect.config_eq] at hconfigs hfresh
  have hbefore : ∀ counter, l.counter counter = 0 := by
    intro counter
    rw [Ledger.counter, hfresh, Option.elim_none]
  have hafter := Ledger.counter_of_read (by rw [hconfigs, Function.update_self])
  have hassets : l'.assetCount = l.assetCount := Ledger.count_congr heffect.rwaAsset? _
  have htokenized : l'.tokenizedCount = l.tokenizedCount := Ledger.count_congr heffect.rwaAsset? _
  have htokenizations : l'.tokenizationCount = l.tokenizationCount :=
    Ledger.count_congr heffect.tokenization? _
  refine ⟨h.config_eq_of_update hconfigs, ?_, ?_, ?_⟩
  · rw [hafter, hassets, ← h.assets, hbefore]
  · rw [hafter, htokenized, ← h.tokenized, hbefore]
  · rw [htokenizations, htokenized, h.tokenizations]

theorem register {accs : RegisterAsset Pubkey} {args : RegisterAssetArgs}
    {config : GlobalConfig Pubkey} (heffect : accs.Effect ctx args config l l') :
    CountersValid l' := by
  have hconfigs := heffect.globalConfig?
  have hread := heffect.config_read
  rw [heffect.config_eq] at hconfigs hread
  have hfresh : l.rwaAsset? accs.asset = none := Ledger.read_of_data?_eq_none heffect.fresh _
  have hafter := Ledger.counter_of_read (by rw [hconfigs, Function.update_self])
  have hassets := Ledger.assetCount_of_new heffect.rwaAsset? hfresh
  have htokenized := Ledger.tokenizedCount_of_new heffect.rwaAsset? hfresh
  have htokenizations : l'.tokenizationCount = l.tokenizationCount :=
    Ledger.count_congr heffect.tokenization? _
  refine ⟨h.config_eq_of_update hconfigs, ?_, ?_, ?_⟩
  · rw [hafter, hassets, ← h.assets, Ledger.counter_of_read hread]
  · rw [hafter, htokenized, ← h.tokenized, Ledger.counter_of_read hread]
    rfl
  · rw [htokenizations, htokenized, h.tokenizations]
    rfl

theorem tokenize {accs : TokenizeAsset Pubkey} {totalSupply : ℕ} {config : GlobalConfig Pubkey}
    {asset : RwaAsset Pubkey} (heffect : accs.Effect ctx totalSupply config asset l l') :
    CountersValid l' := by
  have hconfigs := heffect.globalConfig?
  have hread := heffect.config_read
  rw [heffect.config_eq] at hconfigs hread
  have hafter := Ledger.counter_of_read (by rw [hconfigs, Function.update_self])
  have hassets := Ledger.assetCount_of_update heffect.rwaAsset? heffect.asset_read
  have htokenized := Ledger.tokenizedCount_of_update heffect.rwaAsset? heffect.asset_read
  rw [heffect.untokenized] at htokenized
  have htokenizations : l'.tokenizationCount = l.tokenizationCount + 1 := by
    have hcount := Ledger.count_of_update heffect.tokenization? fun _ => true
    rwa [show l.read AccountData.tokenization? accs.tokenization = none from
      Ledger.read_of_data?_eq_none heffect.tokenization_fresh _] at hcount
  refine ⟨h.config_eq_of_update hconfigs, ?_, ?_, ?_⟩
  · rw [hafter, hassets, ← h.assets, Ledger.counter_of_read hread]
  · have hbefore := h.tokenized
    rw [Ledger.counter_of_read hread] at hbefore
    rw [hafter, hbefore]
    exact htokenized.symm
  · rw [htokenizations, h.tokenizations]
    exact htokenized.symm

/-- Writing an asset over an asset counts nothing, if it stays tokenized or not. -/
theorem put {key : Pubkey} {asset asset' : RwaAsset Pubkey} (hread : l.rwaAsset? key = some asset)
    (htokenized : asset'.isTokenized = asset.isTokenized) :
    CountersValid (l.put key (.rwaAsset asset')) := by
  have hassets := Ledger.putAsset_rwaAsset? l key asset'
  have hcount := Ledger.tokenizedCount_of_update hassets hread
  rw [htokenized] at hcount
  exact h.of_same (Ledger.putAsset_globalConfig? hread _)
    (Ledger.assetCount_of_update hassets hread) (Nat.add_right_cancel hcount)
    (Ledger.putAsset_tokenization? hread _)

/-- Every record step keeps the invariant of the counters. -/
theorem step (hstep : RecordStep ctx l l' action event) : CountersValid l' := by
  cases hstep with
  | idle same _ =>
      exact h.of_same same.configs (Ledger.count_congr same.assets _)
        (Ledger.count_congr same.assets _) same.tokenizations
  | initializeConfig effect => exact h.initializeConfig effect
  | register effect => exact h.register effect
  | tokenize effect => exact h.tokenize effect
  | edit accepted after =>
      rw [after]
      exact h.put accepted.asset_read rfl
  | setStatus accepted after =>
      rw [after]
      exact h.put accepted.asset_read rfl

theorem transact (tx : Transaction Pubkey) : CountersValid (transact l tx).1 := by
  rcases transact_recordStep l tx with ⟨_, -, hstep⟩ | ⟨e, he⟩
  · exact h.step hstep
  · rw [he]
    exact h

end CountersValid

theorem countersValid_of_reachable (h : Reachable l) : CountersValid l :=
  h.invariant (fun _ hstart => .of_empty hstart) fun _ tx hvalid => hvalid.transact tx

/-! ## Registrations along a run -/

def Action.isRegisterAsset : Action Pubkey → Bool
  | program (.registerAsset _ _) => true
  | _ => false

/-- Was the transaction refused with an error?  A panic is none. -/
def Answer.isRefused : Answer Pubkey → Bool
  | .ok _ => false
  | .error e => e ≠ .panic

/-- Is the step a registration that was not refused? -/
def isRegistration (e : ProgramStep Pubkey) : Bool :=
  e.action.action.isRegisterAsset && !e.output.isRefused

def registrations (es : List (ProgramStep Pubkey)) : ℕ := es.countP isRegistration

/-- Only a registration makes an asset. -/
theorem RecordStep.assetCount_le (h : RecordStep ctx l l' action event) :
    l'.assetCount ≤ l.assetCount + action.isRegisterAsset.toNat := by
  cases h with
  | idle same _ => exact (Ledger.count_congr same.assets _).trans_le (Nat.le_add_right _ _)
  | initializeConfig effect => exact (Ledger.count_congr effect.rwaAsset? _).le
  | register effect =>
      exact (Ledger.assetCount_of_new effect.rwaAsset?
        (Ledger.read_of_data?_eq_none effect.fresh _)).le
  | tokenize effect => exact (Ledger.assetCount_of_update effect.rwaAsset? effect.asset_read).le
  | edit accepted after =>
      rw [after]
      exact (Ledger.assetCount_of_update (Ledger.putAsset_rwaAsset? _ _ _) accepted.asset_read).le
  | setStatus accepted after =>
      rw [after]
      exact (Ledger.assetCount_of_update (Ledger.putAsset_rwaAsset? _ _ _) accepted.asset_read).le

theorem assetCount_le_registrations (hstart : programMachine.start l)
    (txs : List (Transaction Pubkey)) :
    (programMachine.run l txs).assetCount ≤ registrations (programMachine.steps l txs) := by
  have hempty : l.assetCount ≤ registrations ([] : List (ProgramStep Pubkey)) := by
    rw [Ledger.assetCount, Ledger.count, show l.accounts = .empty from hstart]
    exact Nat.le_refl 0
  refine (Machine.Reachable.start hstart).history (P := fun es l => l.assetCount ≤ registrations es)
    (fun es l tx _ hle => ?_) hempty txs
  rw [registrations, List.countP_append]
  rcases transact_recordStep l tx with ⟨event, hok, hstep⟩ | ⟨err, herr⟩
  · have hcount : (programMachine.next l tx).assetCount ≤
        l.assetCount + tx.action.isRegisterAsset.toNat := hstep.assetCount_le
    have hregistration : isRegistration (programMachine.stepAt l tx) =
        tx.action.isRegisterAsset := by
      rw [isRegistration, show (programMachine.stepAt l tx).output = .ok event from hok]
      exact Bool.and_true _
    rw [List.countP_singleton, hregistration]
    cases hregister : tx.action.isRegisterAsset with
    | false =>
        rw [hregister] at hcount
        exact hcount.trans hle
    | true =>
        rw [hregister] at hcount
        exact hcount.trans (Nat.add_le_add_right hle 1)
  · rw [next_of_error herr]
    exact Nat.le_add_right_of_le hle

/-- A step panics only as the last registration there is a number for. -/
theorem panic_registrations (hstart : programMachine.start l) (txs : List (Transaction Pubkey))
    {tx : Transaction Pubkey}
    (hpanic : (transact (programMachine.run l txs) tx).2 = .error .panic) :
    u64Bound ≤ registrations (programMachine.steps l (txs ++ [tx])) := by
  have hreach := (Machine.Reachable.start hstart).run txs
  have hvalid := countersValid_of_reachable hreach
  have hassets := assetCount_le_registrations hstart txs
  obtain ⟨after, hrun⟩ := execute_of_transact_panic hpanic
  obtain ⟨key, config, hconfig, hfull⟩ := tx.action.panicsIfFull _ _ hrun
  rw [hvalid.config_eq hconfig] at hconfig
  obtain ⟨ctx, action⟩ := tx
  rw [Machine.steps_append, registrations, List.countP_append, Machine.steps_cons,
    Machine.steps_nil, List.countP_singleton]
  cases action with
  | token _ _ => exact absurd hfull (show ¬ u64Bound ≤ 1 by decide)
  | systemTransfer _ _ _ => exact absurd hfull (show ¬ u64Bound ≤ 1 by decide)
  | program instruction =>
      cases instruction with
      | registerAsset accs args =>
          have hcounts : isRegistration (programMachine.stepAt (programMachine.run l txs)
              ⟨ctx, .program (.registerAsset accs args)⟩) = true := by
            rw [isRegistration, show (programMachine.stepAt _ _).output = _ from hpanic]
            rfl
          have hcounter := hvalid.assets
          rw [Ledger.counter_of_read hconfig] at hcounter
          rw [if_pos hcounts]
          refine hfull.trans (Nat.add_le_add_right ?_ 1)
          exact hcounter.le.trans hassets
      | tokenizeAsset accs totalSupply =>
          -- The asset is not counted as tokenized yet.
          obtain ⟨asset, hread, huntokenized⟩ := TokenizeAsset.untokenized_of_panic hrun
          have hlt := Ledger.tokenizedCount_lt hread huntokenized
          have hcounter := hvalid.tokenized
          rw [Ledger.counter_of_read hconfig] at hcounter
          refine Nat.le_add_right_of_le (hfull.trans ?_)
          show config.totalTokenizedAssets + 1 ≤ registrations _
          omega
      | _ => exact absurd hfull (show ¬ u64Bound ≤ 1 by decide)

/-- After every run the counters are exact: the configuration counts the assets, and
the tokenized ones, which are as many as the tokenizations.  In a run with fewer
registrations than there are numbers nothing panics. -/
theorem counters_accounted (hstart : programMachine.start l) (txs : List (Transaction Pubkey)) :
    (∀ key config, (programMachine.run l txs).globalConfig? key = some config →
      config.totalAssets = (programMachine.run l txs).assetCount ∧
      config.totalTokenizedAssets = (programMachine.run l txs).tokenizedCount ∧
      config.totalTokenizedAssets = (programMachine.run l txs).tokenizationCount ∧
      config.totalTokenizedAssets ≤ config.totalAssets) ∧
    (registrations (programMachine.steps l txs) < 2 ^ 64 →
      ∀ e ∈ programMachine.steps l txs, e.output ≠ .error .panic) := by
  refine ⟨fun key config hconfig => ?_, fun hfew e he hpanic => ?_⟩
  · have hvalid := countersValid_of_reachable ((Machine.Reachable.start hstart).run txs)
    rw [hvalid.config_eq hconfig] at hconfig
    have hassets := hvalid.assets
    have htokenized := hvalid.tokenized
    rw [Ledger.counter_of_read hconfig] at hassets htokenized
    refine ⟨hassets, htokenized, htokenized.trans hvalid.tokenizations.symm, ?_⟩
    rw [hassets, htokenized]
    exact Ledger.tokenizedCount_le _
  · obtain ⟨pre, tx, post, rfl, rfl⟩ := Machine.mem_steps he
    have hmany := panic_registrations hstart pre hpanic
    rw [List.append_cons, Machine.steps_append, registrations, List.countP_append] at hfew
    exact absurd hfew (Nat.not_lt.mpr (Nat.le_add_right_of_le hmany))

namespace Address

/-- The sample asset is tokenized, and its owner tries to do both again. -/
def repeatHouse : List (Transaction Address) :=
  registerHouse ++ tokenizeHouse :: registerHouse ++ [tokenizeHouse]

end Address

/-- The sample asset is counted once. -/
theorem counters_accounted_house :
    (∃ config, (programMachine.run Address.genesis Address.repeatHouse).globalConfig?
          globalConfigPda = some config ∧
        config.totalAssets = 1 ∧
        config.totalAssets =
          (programMachine.run Address.genesis Address.repeatHouse).assetCount) ∧
      ∀ e ∈ programMachine.steps Address.genesis Address.repeatHouse,
        e.output ≠ .error .panic := by
  have haccounted := counters_accounted (l := Address.genesis) rfl Address.repeatHouse
  have hconfig : (programMachine.run Address.genesis Address.repeatHouse).globalConfig?
      globalConfigPda = some ⟨.key 9, 1000, 2000, 100, true, 1, 1⟩ := by decide
  exact ⟨⟨_, hconfig, rfl, (haccounted.1 _ _ hconfig).1⟩, haccounted.2 (by decide)⟩

end RwaTokenization
