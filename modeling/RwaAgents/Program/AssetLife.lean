import RwaAgents.Library.Lifecycle
import RwaAgents.Program.Invariant

/-!
# The life of an asset

What the program is for, one asset at a time.  An asset is registered with terms
that stay for good, linked to a mint at most once, and moved between statuses by
its owner until it is liquidated or redeemed.

`assetLifecycle` says this as a lifecycle, and the life of every asset along a
run of the program is a sequence of its steps (`life_simulates`).  The texts of
an asset may be edited at any time and are no part of its life.
-/

namespace RwaTokenization

/-- What a registration fixes for good. -/
structure AssetTerms (Pubkey : Type) where
  assetId : Pubkey
  owner : Pubkey
  assetType : AssetType
  symbol : String
  valuation : ℕ
  registeredAt : ℤ
deriving DecidableEq, Repr

/-- What a tokenization sets. -/
structure AssetLink (Pubkey : Type) where
  isTokenized : Bool
  mint : Option Pubkey
  tokenizedAt : Option ℤ
deriving DecidableEq, Repr

def AssetLink.unlinked {Pubkey : Type} : AssetLink Pubkey := ⟨false, none, none⟩

def AssetLink.to {Pubkey : Type} (mint : Pubkey) (now : ℤ) : AssetLink Pubkey :=
  ⟨true, some mint, some now⟩

def assetLifecycle (Pubkey : Type) : Lifecycle AssetStatus (AssetLink Pubkey) where
  initial := .registered
  active := .active
  terminal := AssetStatus.IsTerminal
  unlinked := .unlinked

abbrev AssetLife (Pubkey : Type) :=
  Lifecycle.Life (AssetTerms Pubkey) AssetStatus (AssetLink Pubkey)

variable {Pubkey : Type}

namespace RwaAsset

variable (asset : RwaAsset Pubkey)

def terms : AssetTerms Pubkey :=
  ⟨asset.assetId, asset.owner, asset.assetType, asset.symbol, asset.valuation, asset.registeredAt⟩

def link : AssetLink Pubkey := ⟨asset.isTokenized, asset.mint, asset.tokenizedAt⟩

def life : AssetLife Pubkey := ⟨asset.terms, asset.status, asset.link⟩

theorem terms_eq_iff {asset asset' : RwaAsset Pubkey} :
    asset'.terms = asset.terms ↔ asset'.assetId = asset.assetId ∧ asset'.owner = asset.owner ∧
      asset'.assetType = asset.assetType ∧ asset'.symbol = asset.symbol ∧
      asset'.valuation = asset.valuation ∧ asset'.registeredAt = asset.registeredAt := by
  rw [terms, terms, AssetTerms.mk.injEq]

theorem link_eq_iff {asset : RwaAsset Pubkey} {link : AssetLink Pubkey} :
    asset.link = link ↔ asset.isTokenized = link.isTokenized ∧ asset.mint = link.mint ∧
      asset.tokenizedAt = link.tokenizedAt := by
  rw [RwaAsset.link, AssetLink.mk.injEq]

theorem life_tokenized (mint : Pubkey) (now : ℤ) :
    (asset.tokenized mint now).life = ⟨asset.terms, .active, .to mint now⟩ := rfl

theorem life_withMetadata (name description uri : Option String) :
    (asset.withMetadata name description uri).life = asset.life := rfl

end RwaAsset

variable [DecidableEq Pubkey]

/-- The life of the asset stored at an address. -/
def Ledger.life (l : Ledger Pubkey) (key : Pubkey) : Option (AssetLife Pubkey) :=
  (l.rwaAsset? key).map RwaAsset.life

theorem Ledger.life_eq_some {l : Ledger Pubkey} {key : Pubkey} {life : AssetLife Pubkey} :
    l.life key = some life ↔ ∃ asset, l.rwaAsset? key = some asset ∧ asset.life = life :=
  Option.map_eq_some_iff

/-- The lives after an asset is written. -/
theorem Ledger.life_of_update {l l' : Ledger Pubkey} {key : Pubkey} {asset : RwaAsset Pubkey}
    (h : l'.rwaAsset? = Function.update l.rwaAsset? key (some asset)) :
    l'.life = Function.update l.life key (some asset.life) := by
  funext k
  rw [life, h, Function.update_apply, Function.update_apply]
  split <;> rfl

variable [Runtime Pubkey] {ctx : Context Pubkey} {l l' : Ledger Pubkey} {action : Action Pubkey}

/-- An untokenized asset has no mint and no tokenization time. -/
theorem RecordsValid.unlinked (h : RecordsValid l) {key : Pubkey} {asset : RwaAsset Pubkey}
    (hread : l.rwaAsset? key = some asset) (huntokenized : asset.isTokenized = false) :
    asset.link = .unlinked := by
  have hlinked := h.linked hread
  cases htokenization : l.tokenization? (tokenizationPda key) with
  | none =>
      rw [htokenization] at hlinked
      exact RwaAsset.link_eq_iff.mpr hlinked
  | some tokenization =>
      rw [htokenization] at hlinked
      rw [hlinked.tokenized] at huntokenized
      cases huntokenized

/-- A step of the program is a step in the life of every asset, or none. -/
theorem AssetStep.life (h : AssetStep ctx l l' action) (hvalid : RecordsValid l) (key : Pubkey) :
    Relation.ReflGen (assetLifecycle Pubkey).Step (l.life key) (l'.life key) := by
  -- Only the asset that is written takes a step.
  have hwrite : ∀ {k : Pubkey} {asset : RwaAsset Pubkey},
      l'.rwaAsset? = Function.update l.rwaAsset? k (some asset) →
      Relation.ReflGen (assetLifecycle Pubkey).Step (l.life k) (some asset.life) →
      Relation.ReflGen (assetLifecycle Pubkey).Step (l.life key) (l'.life key) := by
    intro k asset hafter hstep
    rw [Ledger.life_of_update hafter, Function.update_apply]
    split
    · next hkey => rwa [hkey]
    · exact .refl
  cases h with
  | idle assets _ =>
      rw [Ledger.life, Ledger.life, assets]
  | register effect =>
      refine hwrite effect.rwaAsset? ?_
      rw [Ledger.life, Ledger.rwaAsset?, Ledger.read_of_data?_eq_none effect.fresh]
      exact .single (.create _)
  | tokenize effect =>
      refine hwrite effect.rwaAsset? ?_
      rw [Ledger.life, effect.asset_read, Option.map_some, RwaAsset.life, effect.registered,
        hvalid.unlinked effect.asset_read effect.untokenized, RwaAsset.life_tokenized]
      exact .single (.link _ _)
  | edit accepted after =>
      refine hwrite (after ▸ Ledger.putAsset_rwaAsset? _ _ _) ?_
      rw [Ledger.life, accepted.asset_read, RwaAsset.life_withMetadata]
      exact .refl
  | setStatus accepted after =>
      refine hwrite (after ▸ Ledger.putAsset_rwaAsset? _ _ _) ?_
      rw [Ledger.life, accepted.asset_read]
      exact .single (.move _ _ _ accepted.open_status)

/-- The life of every asset along a run is a sequence of steps of the lifecycle. -/
theorem life_simulates (h : Reachable l) (txs : List (Transaction Pubkey)) (key : Pubkey) :
    Relation.ReflTransGen (assetLifecycle Pubkey).Step (l.life key)
      ((programMachine.run l txs).life key) := by
  have hstep : ∀ (l : Ledger Pubkey) (tx : Transaction Pubkey), Reachable l →
      Relation.ReflGen (assetLifecycle Pubkey).Step (l.life key)
        ((programMachine.next l tx).life key) :=
    fun l tx hreach => (transact_assetStep l tx).life (valid_of_reachable hreach).records key
  exact h.simulates hstep txs

end RwaTokenization
