import RwaAgents.Program.Balances

/-!
# The invariant of a run

`LedgerValid` has three parts: the records agree with each other, the tokens are
backed, and the mint of every tokenization has the tokenization address as its
mint authority and no freeze authority.  It holds of every reachable ledger
(`valid_of_reachable`).

The mint authority makes the mints of two tokenized assets different, because
the addresses of their tokenizations are.
-/

namespace RwaTokenization

variable {Pubkey : Type} [DecidableEq Pubkey] [Runtime Pubkey] {ctx : Context Pubkey}
  {l l' : Ledger Pubkey} {action : Action Pubkey}

/-- A tokenization agrees with the asset it is for. -/
structure Tokenization.For (tokenization : Tokenization Pubkey) (key : Pubkey)
    (asset : RwaAsset Pubkey) : Prop where
  asset_eq : tokenization.assetId = key
  tokenized : asset.isTokenized = true
  mint_eq : asset.mint = some tokenization.mint
  time_eq : asset.tokenizedAt = some tokenization.tokenizedAt
  authority_eq : tokenization.tokenizationAuthority = asset.owner
  positive : 0 < tokenization.totalSupply

/-- An asset is tokenized with a tokenization that agrees with it, or it is not
and there is none. -/
def RwaAsset.Linked (key : Pubkey) (asset : RwaAsset Pubkey) :
    Option (Tokenization Pubkey) → Prop
  | some tokenization => tokenization.For key asset
  | none => asset.isTokenized = false ∧ asset.mint = none ∧ asset.tokenizedAt = none

/-- The invariant of the records. -/
structure RecordsValid (l : Ledger Pubkey) : Prop where
  asset_eq : ∀ {key asset}, l.rwaAsset? key = some asset → key = assetPda asset.assetId
  linked : ∀ {key asset}, l.rwaAsset? key = some asset →
    asset.Linked key (l.tokenization? (tokenizationPda key))
  /-- A tokenization lies at the derived address of an asset. -/
  owned : ∀ {key tokenization}, l.tokenization? key = some tokenization →
    key = tokenizationPda tokenization.assetId ∧
      ∃ asset, l.rwaAsset? tokenization.assetId = some asset

namespace RecordsValid

variable (h : RecordsValid l)

include h

theorem of_same (hassets : l'.rwaAsset? = l.rwaAsset?)
    (htokenizations : l'.tokenization? = l.tokenization?) : RecordsValid l' where
  asset_eq := by rw [hassets]; exact h.asset_eq
  linked := by rw [hassets, htokenizations]; exact h.linked
  owned := by rw [hassets, htokenizations]; exact h.owned

/-- No tokenization is left over from before a registration. -/
theorem tokenization?_of_fresh {key : Pubkey} (hfresh : l.rwaAsset? key = none) :
    l.tokenization? (tokenizationPda key) = none := by
  cases htokenization : l.tokenization? (tokenizationPda key) with
  | none => rfl
  | some tokenization =>
      obtain ⟨hkey, asset, hasset⟩ := h.owned htokenization
      rw [← tokenizationPda_inj.mp hkey, hfresh] at hasset
      cases hasset

theorem register {accs : RegisterAsset Pubkey} {args : RegisterAssetArgs}
    {config : GlobalConfig Pubkey} (heffect : accs.Effect ctx args config l l') :
    RecordsValid l' := by
  have hfresh : l.rwaAsset? accs.asset = none := Ledger.read_of_data?_eq_none heffect.fresh _
  constructor
  · intro key asset hread
    rw [heffect.rwaAsset?, Function.update_apply] at hread
    split at hread
    · next hkey =>
      cases hread
      rw [hkey]
      exact heffect.asset_eq
    · exact h.asset_eq hread
  · intro key asset hread
    rw [heffect.rwaAsset?, Function.update_apply] at hread
    rw [heffect.tokenization?]
    split at hread
    · next hkey =>
      cases hread
      rw [hkey, h.tokenization?_of_fresh hfresh]
      exact ⟨rfl, rfl, rfl⟩
    · exact h.linked hread
  · intro key tokenization hread
    rw [heffect.tokenization?] at hread
    obtain ⟨hkey, asset, hasset⟩ := h.owned hread
    have hne : tokenization.assetId ≠ accs.asset := fun he => by
      rw [he, hfresh] at hasset
      cases hasset
    rw [heffect.rwaAsset?, Function.update_of_ne hne]
    exact ⟨hkey, asset, hasset⟩

theorem tokenize {accs : TokenizeAsset Pubkey} {totalSupply : ℕ} {config : GlobalConfig Pubkey}
    {asset : RwaAsset Pubkey} (heffect : accs.Effect ctx totalSupply config asset l l') :
    RecordsValid l' := by
  constructor
  · intro key a hread
    rw [heffect.rwaAsset?, Function.update_apply] at hread
    split at hread
    · next hkey =>
      cases hread
      rw [hkey]
      exact heffect.asset_eq
    · exact h.asset_eq hread
  · intro key a hread
    rw [heffect.rwaAsset?, Function.update_apply] at hread
    rw [heffect.tokenization?, heffect.tokenization_eq]
    split at hread
    · next hkey =>
      cases hread
      rw [hkey, Function.update_self]
      exact ⟨rfl, rfl, rfl, rfl, heffect.owner_eq.symm, heffect.positive⟩
    · next hkey =>
      rw [Function.update_of_ne fun he => hkey (tokenizationPda_inj.mp he)]
      exact h.linked hread
  · intro key t hread
    rw [heffect.tokenization?, Function.update_apply] at hread
    rw [heffect.rwaAsset?]
    split at hread
    · next hkey =>
      cases hread
      exact ⟨hkey.trans heffect.tokenization_eq, _, Function.update_self _ _ _⟩
    · obtain ⟨hkey, a, ha⟩ := h.owned hread
      refine ⟨hkey, ?_⟩
      rw [Function.update_apply]
      split
      · exact ⟨_, rfl⟩
      · exact ⟨a, ha⟩

/-- Writing an asset keeps the invariant if it keeps what the link speaks of. -/
theorem put {key : Pubkey} {asset asset' : RwaAsset Pubkey} (hread : l.rwaAsset? key = some asset)
    (hid : asset'.assetId = asset.assetId) (howner : asset'.owner = asset.owner)
    (htokenized : asset'.isTokenized = asset.isTokenized) (hmint : asset'.mint = asset.mint)
    (htime : asset'.tokenizedAt = asset.tokenizedAt) :
    RecordsValid (l.put key (.rwaAsset asset')) := by
  have hassets := Ledger.putAsset_rwaAsset? l key asset'
  have htokenizations := Ledger.putAsset_tokenization? hread asset'
  constructor
  · intro k a ha
    rw [hassets, Function.update_apply] at ha
    split at ha
    · next hk =>
      cases ha
      rw [hk, hid]
      exact h.asset_eq hread
    · exact h.asset_eq ha
  · intro k a ha
    rw [hassets, Function.update_apply] at ha
    rw [htokenizations]
    split at ha
    · next hk =>
      cases ha
      have hlinked := h.linked hread
      rw [hk]
      cases htokenization : l.tokenization? (tokenizationPda key) with
      | none =>
          rw [htokenization] at hlinked
          exact ⟨htokenized.trans hlinked.1, hmint.trans hlinked.2.1, htime.trans hlinked.2.2⟩
      | some tokenization =>
          rw [htokenization] at hlinked
          exact ⟨hlinked.asset_eq, htokenized.trans hlinked.tokenized,
            hmint.trans hlinked.mint_eq, htime.trans hlinked.time_eq,
            hlinked.authority_eq.trans howner.symm, hlinked.positive⟩
    · exact h.linked ha
  · intro k t ht
    rw [htokenizations] at ht
    obtain ⟨hk, a, ha⟩ := h.owned ht
    refine ⟨hk, ?_⟩
    rw [hassets, Function.update_apply]
    split
    · exact ⟨_, rfl⟩
    · exact ⟨a, ha⟩

/-- Every asset step keeps the invariant of the records. -/
theorem step (hstep : AssetStep ctx l l' action) : RecordsValid l' := by
  cases hstep with
  | idle assets tokenizations => exact h.of_same assets tokenizations
  | register effect => exact h.register effect
  | tokenize effect => exact h.tokenize effect
  | edit accepted after =>
      rw [after]
      exact h.put accepted.asset_read rfl rfl rfl rfl rfl
  | setStatus accepted after =>
      rw [after]
      exact h.put accepted.asset_read rfl rfl rfl rfl rfl

end RecordsValid

/-- A mint keeps its terms in every step. -/
theorem TokenStep.mint_kept (hstep : TokenStep ctx l l' action) {key : Pubkey}
    {mint : Mint Pubkey} (hread : l.mint? key = some mint) :
    ∃ mint', l'.mint? key = some mint' ∧ mint'.terms = mint.terms := by
  cases hstep with
  | idle _ same => exact ⟨mint, by rwa [same.mints], rfl⟩
  | newMint fresh data =>
      refine ⟨mint, ?_, rfl⟩
      rwa [Ledger.mint?, Ledger.read_update data,
        Function.update_of_ne (Ledger.ne_of_read hread fresh)]
  | newAccount _ _ _ fresh data =>
      refine ⟨mint, ?_, rfl⟩
      rwa [Ledger.mint?, Ledger.read_update data,
        Function.update_of_ne (Ledger.ne_of_read hread fresh)]
  | mintTo accepted after =>
      rw [after]
      have hsame := SameTerms.setAmount_setSupply accepted.account_eq accepted.record_eq
      exact (hsame _ _).mint_of_before hread
  | transfer accepted after =>
      rw [after]
      exact (SameTerms.moved accepted.source_eq accepted.destination_eq _).mint_of_before hread
  | burn accepted after =>
      rw [after]
      have hsame := SameTerms.setAmount_setSupply accepted.account_eq accepted.record_eq
      exact (hsame _ _).mint_of_before hread
  | setFrozen account_eq _ _ after =>
      refine ⟨mint, ?_, rfl⟩
      have hdata := Ledger.tokenAccount?_eq_some.mp account_eq
      rwa [after, Ledger.mint?, Ledger.put_read,
        Function.update_of_ne fun hkey => by
          rw [hkey, Ledger.mint?, Ledger.read_of_data? hdata] at hread; cases hread]
  | tokenize effect =>
      refine ⟨mint, ?_, rfl⟩
      rwa [effect.mint?, Function.update_of_ne (Ledger.ne_of_read hread effect.mint_fresh)]
  | transferOwnership accepted after =>
      rw [after]
      exact (SameTerms.moved accepted.transfer.source_eq accepted.transfer.destination_eq
        _).mint_of_before hread
  | redeem accepted after =>
      rw [after]
      exact (SameTerms.setAmount_setSupply accepted.burn.account_eq accepted.burn.record_eq
        _ _).mint_of_before hread

/-! ## The invariant of the ledger -/

structure LedgerValid (l : Ledger Pubkey) : Prop where
  records : RecordsValid l
  tokens : TokensValid l
  /-- Only the program can mint more of an asset, and nobody can freeze it. -/
  minted : ∀ {key tokenization}, l.tokenization? key = some tokenization →
    ∃ mint, l.mint? tokenization.mint = some mint ∧ mint.mintAuthority = some key ∧
      mint.freezeAuthority = none

namespace LedgerValid

theorem of_empty (h : l.accounts = .empty) : LedgerValid l := by
  have hno : ∀ {β : Type} {kind : AccountData Pubkey → Option β} {key : Pubkey} {record : β},
      l.read kind key ≠ some record := fun {β kind key record} he => by
    rw [Ledger.read_of_empty h] at he
    cases he
  exact ⟨⟨fun he => absurd he hno, fun he => absurd he hno, fun he => absurd he hno⟩,
    ⟨fun he => absurd he hno, fun he => absurd he hno, fun he => absurd he hno,
      fun he => absurd he hno⟩, fun he => absurd he hno⟩

theorem step (h : LedgerValid l) (hasset : AssetStep ctx l l' action)
    (htoken : TokenStep ctx l l' action) : LedgerValid l' where
  records := h.records.step hasset
  tokens := h.tokens.step htoken
  minted hread := by
    rcases hasset.tokenization_cases hread with
      hold | ⟨accs, totalSupply, _, _, -, heffect, rfl, rfl⟩
    · obtain ⟨mint, hmint, hauthority, hfreeze⟩ := h.minted hold
      obtain ⟨mint', hmint', hterms⟩ := htoken.mint_kept hmint
      obtain ⟨-, hauthority', -, hfreeze'⟩ := Mint.terms_eq hterms
      exact ⟨mint', hmint', hauthority'.trans hauthority, hfreeze'.trans hfreeze⟩
    · refine ⟨accs.newMint totalSupply, ?_, rfl, rfl⟩
      rw [heffect.mint?]
      exact Function.update_self _ _ _

theorem transact (h : LedgerValid l) (tx : Transaction Pubkey) :
    LedgerValid (transact l tx).1 := by
  rcases transact_tokenStep l tx with ⟨_, -, htoken⟩ | ⟨e, he⟩
  · exact h.step (transact_assetStep l tx) htoken
  · rw [he]
    exact h

/-- Two tokenizations of one mint are one. -/
theorem tokenization_inj (h : LedgerValid l) {key key' : Pubkey}
    {tokenization tokenization' : Tokenization Pubkey}
    (hread : l.tokenization? key = some tokenization)
    (hread' : l.tokenization? key' = some tokenization')
    (hmint : tokenization.mint = tokenization'.mint) : key = key' := by
  obtain ⟨mint, hmintRead, hauthority, -⟩ := h.minted hread
  obtain ⟨mint', hmintRead', hauthority', -⟩ := h.minted hread'
  rw [hmint, hmintRead'] at hmintRead
  cases hmintRead
  exact Option.some.inj (hauthority.symm.trans hauthority')

/-- Nobody mints units of an asset without the program, because the mint authority
would have to sign. -/
theorem mint_ne (h : LedgerValid l) {p : TokenProgram} {mint destination authority : Pubkey}
    {amount : ℕ} {account : TokenAccount Pubkey} {record : Mint Pubkey}
    (haccepted : l.MintAccepted p ctx.signers mint destination authority amount account record)
    {key : Pubkey} {tokenization : Tokenization Pubkey}
    (hread : l.tokenization? key = some tokenization) : tokenization.mint ≠ mint := by
  intro he
  obtain ⟨record', hrecord', hauthority, -⟩ := h.minted hread
  rw [he, haccepted.record_eq] at hrecord'
  cases hrecord'
  have hsigner := Option.some.inj (hauthority.symm.trans haccepted.authority_eq)
  have hsigned := haccepted.signed
  rw [← hsigner, (h.records.owned hread).1] at hsigned
  exact ctx.signers_external _ hsigned

end LedgerValid

theorem valid_of_reachable (h : Reachable l) : LedgerValid l :=
  h.invariant (fun _ hstart => .of_empty hstart) fun _ tx hvalid => hvalid.transact tx

end RwaTokenization
