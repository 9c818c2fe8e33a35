import RwaAgents.Program.RecordSafety

/-!
# The status of an asset along a run

The comments on the statuses say that a registered asset is not tokenized yet and
that an active one is.  A tokenization keeps this, but a status change looks at
the old status only.  `status_agrees_iff` says which status changes break it.

A liquidated or redeemed asset stays so, with the mint it had.
-/

namespace RwaTokenization

variable {Pubkey : Type} [DecidableEq Pubkey] [Runtime Pubkey] {ctx : Context Pubkey}
  {l l' : Ledger Pubkey} {action : Action Pubkey} {key : Pubkey} {asset : RwaAsset Pubkey}

/-! ## Statuses and tokenizations -/

/-- An active asset is tokenized, a registered one is not yet. -/
def AssetStatus.Agrees (status : AssetStatus) (isTokenized : Bool) : Prop :=
  (status = .active → isTokenized = true) ∧ (status = .registered → isTokenized = false)

def Ledger.StatusAgrees (l : Ledger Pubkey) : Prop :=
  ∀ key asset, l.rwaAsset? key = some asset → asset.status.Agrees asset.isTokenized

/-- The owner may set the status of the asset, and sets one that does not agree. -/
def Action.SetsMismatch (ctx : Context Pubkey) (l : Ledger Pubkey) : Action Pubkey → Prop
  | program (.setAssetStatus accs status) =>
      ∃ asset, accs.Accepted ctx asset l ∧ ¬ status.Agrees asset.isTokenized
  | _ => False

omit [Runtime Pubkey] in
theorem Ledger.StatusAgrees.update (h : l.StatusAgrees)
    (hafter : l'.rwaAsset? = Function.update l.rwaAsset? key (some asset))
    (hasset : asset.status.Agrees asset.isTokenized) : l'.StatusAgrees := by
  intro k a hread
  rw [hafter, Function.update_apply] at hread
  split at hread
  · cases hread
    exact hasset
  · exact h k a hread

theorem AssetStep.statusAgrees (h : AssetStep ctx l l' action) (hagrees : l.StatusAgrees)
    (hmismatch : ¬ action.SetsMismatch ctx l) : l'.StatusAgrees := by
  cases h with
  | idle assets _ =>
      intro key asset hread
      rw [assets] at hread
      exact hagrees key asset hread
  | register effect =>
      refine hagrees.update effect.rwaAsset? ⟨fun he => ?_, fun _ => rfl⟩
      cases he
  | tokenize effect =>
      refine hagrees.update effect.rwaAsset? ⟨fun _ => rfl, fun he => ?_⟩
      cases he
  | edit accepted after =>
      have hold := hagrees _ _ accepted.asset_read
      refine hagrees.update (after ▸ Ledger.putAsset_rwaAsset? _ _ _) ?_
      exact hold
  | setStatus accepted after =>
      refine hagrees.update (after ▸ Ledger.putAsset_rwaAsset? _ _ _) ?_
      by_contra hne
      exact hmismatch ⟨_, accepted, hne⟩

/-- A status change that does not agree is carried out. -/
theorem not_statusAgrees_of_setsMismatch {tx : Transaction Pubkey}
    (h : tx.action.SetsMismatch tx.ctx l) : ¬ (transact l tx).1.StatusAgrees := by
  obtain ⟨ctx, action⟩ := tx
  cases action with
  | token _ _ => exact h.elim
  | systemTransfer _ _ _ => exact h.elim
  | program instruction =>
      cases instruction with
      | setAssetStatus accs status =>
          obtain ⟨asset, haccepted, hne⟩ := h
          have hrun : ((Action.program (.setAssetStatus accs status)).execute ctx).run l = _ :=
            SetAssetStatus.execute_ok.mpr ⟨asset, haccepted, rfl, rfl⟩
          rw [transact_of_ok hrun]
          intro hagrees
          refine hne (hagrees accs.asset { asset with status } ?_)
          rw [Ledger.putAsset_rwaAsset?, Function.update_self]
      | _ => exact h.elim

/-- In a run every status agrees with the tokenization of its asset, if and only
if no accepted status change sets a status that does not. -/
theorem status_agrees_iff (hstart : programMachine.start l) (txs : List (Transaction Pubkey)) :
    (∀ e ∈ programMachine.steps l txs, e.after.StatusAgrees) ↔
      ∀ e ∈ programMachine.steps l txs, ¬ e.action.action.SetsMismatch e.action.ctx e.before := by
  have hnone : l.StatusAgrees := fun key asset hread => by
    rw [Ledger.rwaAsset?, Ledger.read_of_empty hstart] at hread
    cases hread
  refine (Machine.Reachable.start hstart).forall_after_iff (fun l tx _ hagrees => ?_) hnone txs
  constructor
  · exact fun hafter hmismatch => not_statusAgrees_of_setsMismatch hmismatch hafter
  · exact (transact_assetStep l tx).statusAgrees hagrees

/-- The status of the sample asset agrees with its tokenization. -/
theorem status_agrees_iff_house : Address.tokenizedHouse.StatusAgrees := by
  have hquiet : ∀ e ∈ programMachine.steps Address.genesis
      (Address.registerHouse ++ [Address.tokenizeHouse]),
      ¬ e.action.action.SetsMismatch e.action.ctx e.before := by
    rw [Address.registerHouse, List.cons_append, List.cons_append, List.nil_append]
    simp only [Machine.steps_cons, Machine.steps_nil, List.forall_mem_cons]
    exact ⟨id, id, id, fun e he => absurd he List.not_mem_nil⟩
  have hafter := (status_agrees_iff (l := Address.genesis) rfl _).mpr hquiet _
    (Machine.stepAt_mem_steps _ Address.registerHouse _ [])
  rwa [Address.tokenizedHouse, Machine.run_append]

/-- The owner sets an untokenized asset active, and a tokenized one registered. -/
theorem house_status_disagrees :
    ¬ (programMachine.run Address.genesis
        (Address.registerHouse ++ [Address.setHouseStatus .active])).StatusAgrees ∧
      ¬ (programMachine.run Address.genesis (Address.registerHouse ++
        [Address.tokenizeHouse, Address.setHouseStatus .registered])).StatusAgrees := by
  constructor
  · intro h
    have hactive := (h Address.house
      { Address.houseAsset with isTokenized := false, mint := none, tokenizedAt := none }
      (by decide)).1 rfl
    cases hactive
  · intro h
    have hregistered := (h Address.house { Address.houseAsset with status := .registered }
      (by decide)).2 rfl
    cases hregistered

/-! ## Terminal statuses -/

/-- Does the action tokenize or transfer this asset? -/
def Action.TokenizesOrTransfers (key : Pubkey) : Action Pubkey → Prop
  | program (.tokenizeAsset accs _) => accs.asset = key
  | program (.transferOwnership accs _) => accs.asset = key
  | _ => False

/-- An asset in a terminal status is what it was, up to its texts. -/
theorem terminal_run (h : Reachable l) (txs : List (Transaction Pubkey))
    (hread : l.rwaAsset? key = some asset) (hterminal : asset.status.IsTerminal) :
    ∃ asset', (programMachine.run l txs).rwaAsset? key = some asset' ∧
      asset'.life = asset.life := by
  have hsteps := life_simulates h txs key
  rw [Ledger.life_eq_some.mpr ⟨asset, hread, rfl⟩] at hsteps
  exact Ledger.life_eq_some.mp
    (Lifecycle.eq_of_terminal hsteps (show ¬ AssetStatus.registered.IsTerminal by decide) hterminal)

/-- A tokenization asks for a registered asset and a transfer for an active one. -/
theorem Action.refused_of_terminal (hread : l.rwaAsset? key = some asset)
    (hterminal : asset.status.IsTerminal) (haction : action.TokenizesOrTransfers key)
    {event : Option (Event Pubkey)} : (action.execute ctx).run l ≠ .ok event l' := by
  intro h
  cases action with
  | token _ _ => exact haction
  | systemTransfer _ _ _ => exact haction
  | program instruction =>
      cases instruction with
      | tokenizeAsset accs totalSupply =>
          obtain ⟨-, _, asset', heffect⟩ := TokenizeAsset.effect h
          cases haction
          cases hread.symm.trans heffect.asset_read
          rw [heffect.registered] at hterminal
          exact absurd hterminal (by decide)
      | transferOwnership accs amount =>
          obtain ⟨asset', _, _, _, haccepted, -, -⟩ := TransferOwnership.execute_ok.mp h
          cases haction
          cases hread.symm.trans haccepted.asset_read
          rw [haccepted.active] at hterminal
          exact absurd hterminal (by decide)
      | _ => exact haction

/-- Once liquidated or redeemed, an asset keeps its status and its mint, and is
neither tokenized nor transferred. -/
theorem terminal_absorbing (h : Reachable l) (hread : l.rwaAsset? key = some asset)
    (hterminal : asset.status = .liquidated ∨ asset.status = .redeemed)
    (txs : List (Transaction Pubkey)) :
    (∃ asset', (programMachine.run l txs).rwaAsset? key = some asset' ∧
      asset'.status = asset.status ∧ asset'.isTokenized = asset.isTokenized ∧
      asset'.mint = asset.mint ∧ asset'.tokenizedAt = asset.tokenizedAt) ∧
    ∀ e ∈ programMachine.steps l txs, e.action.action.TokenizesOrTransfers key →
      ∃ err, e.output = .error err := by
  constructor
  · obtain ⟨asset', hread', hlife⟩ := terminal_run h txs hread hterminal
    rw [RwaAsset.life, RwaAsset.life, Lifecycle.Life.mk.injEq] at hlife
    exact ⟨asset', hread', hlife.2.1, RwaAsset.link_eq_iff.mp hlife.2.2⟩
  · intro e he haction
    obtain ⟨pre, tx, post, rfl, rfl⟩ := Machine.mem_steps he
    obtain ⟨asset', hread', hlife⟩ := terminal_run h pre hread hterminal
    have hstatus : asset'.status = asset.status := congrArg Lifecycle.Life.status hlife
    rcases transact_cases (programMachine.run l pre) tx with ⟨event, after, hrun, -⟩ | ⟨err, herr⟩
    · refine absurd hrun (Action.refused_of_terminal hread' ?_ haction)
      rw [hstatus]
      exact hterminal
    · exact ⟨err, output_of_error herr⟩

/-- The sample asset stays liquidated. -/
theorem terminal_absorbing_house :
    ∃ asset', (programMachine.run (programMachine.run Address.genesis (Address.registerHouse ++
        [Address.tokenizeHouse, Address.setHouseStatus .liquidated]))
        [Address.setHouseStatus .active]).rwaAsset? Address.house = some asset' ∧
      asset'.status = .liquidated ∧ asset'.isTokenized = true ∧
      asset'.mint = some Address.houseMint ∧ asset'.tokenizedAt = some 0 :=
  have hread : (programMachine.run Address.genesis (Address.registerHouse ++
      [Address.tokenizeHouse, Address.setHouseStatus .liquidated])).rwaAsset? Address.house =
      some { Address.houseAsset with status := .liquidated } := by decide
  (terminal_absorbing (Address.reachable_run_genesis _) hread (.inl rfl) _).1

end RwaTokenization
