import RwaAgents.Agents.LaunchOnce
import RwaAgents.Agents.Trade

/-!
# Who signs for a pairing

The Asset Signer and the identity of a pairing are derived from the agent once, when
`pairAgentWithRwa` assembles it.  The registry copies and rewrites the value but not
these two fields, so whatever it returns carries the addresses derived from its own
agent (`Derived`).

A Core `execute` on the agent signs for the derived address.  The builders take the
authority of what they wrap from the stored one, so the two agree
(`spending_authority`).
-/

namespace RwaAgents

open PairingRegistry

/-- The Asset Signer and the identity are the addresses derived from the agent. -/
structure AgentRwaPairing.Derived (umi : Umi) (p : AgentRwaPairing) : Prop where
  assetSigner_eq : p.assetSigner = (umi.findAssetSignerPda p.agentAsset).address
  agentIdentity_eq : p.agentIdentity = (umi.findAgentIdentityV1Pda p.agentAsset).address

/-- Every stored pairing is derived. -/
def PairingRegistry.Derived (umi : Umi) (s : PairingRegistry) : Prop :=
  ∀ a p, s.byAgent.get? a = some p → p.Derived umi

section

variable {umi : Umi} {s : PairingRegistry} {p q : AgentRwaPairing}

/-! ## Returned pairings -/

/-- A derived address is derived from the text of the agent, which parses to itself. -/
theorem PairAgentInput.pairing_derived {input : PairAgentInput}
    (h : input.pairing umi = .ok p) : p.Derived umi := by
  simp only [pairing, deriveAgentIdentityPda, deriveAssetSignerPda, asPublicKey,
    Except.bind_eq_ok, Except.pure_eq_ok] at h
  obtain ⟨agent, -, identity, ⟨agent₁, hagent₁, rfl⟩, signer, ⟨agent₂, hagent₂, rfl⟩, _, -, _, -,
    h⟩ := h
  rw [umi.publicKey_eq hagent₁, umi.publicKey_eq hagent₂] at h
  split at h
  all_goals
    obtain ⟨_, -, hpairing⟩ := Except.bind_eq_ok.mp h
    cases hpairing
    exact ⟨rfl, rfl⟩

theorem AgentRwaPairing.Derived.stamp (h : p.Derived umi) (s : PairingRegistry) :
    (s.stamp p).Derived umi := by
  rw [PairingRegistry.stamp]
  split
  · exact ⟨h.assetSigner_eq, h.agentIdentity_eq⟩
  · exact h

/-- What a step of the registry answers and leaves behind is derived. -/
structure DerivedStep (umi : Umi) (r : PairingRegistry × RegistryAnswer) : Prop where
  registry : r.1.Derived umi
  answer : ∀ vs, r.2 = .ok vs → ∀ v ∈ vs, v.Derived umi

/-- An operation that hands the registry a pairing value. -/
def RegistryOp.isPair : RegistryOp → Bool
  | pair _ _ => true
  | _ => false

namespace PairingRegistry.Derived

variable (hs : s.Derived umi)

include hs

theorem refused (e : String) : DerivedStep umi (s, .error e) :=
  ⟨hs, fun _ hok => by cases hok⟩

theorem read {vs : List AgentRwaPairing}
    (hvs : ∀ v ∈ vs, s.byAgent.get? v.agentAsset = some v) : DerivedStep umi (s, .ok vs) := by
  refine ⟨hs, fun ws hok v hv => ?_⟩
  cases hok
  exact hs _ v (hvs v hv)

/-- Storing a derived pairing keeps the stored ones derived. -/
theorem stored (hvalid : s.Valid) (hp : p.Derived umi) :
    DerivedStep umi ((s.record p).link (s.stamp p), .ok [s.stamp p]) := by
  constructor
  · intro a q hget
    rcases ((hvalid.toPaired.record p).get?_link_byAgent _).mp hget with ⟨-, rfl⟩ | ⟨-, hold, -⟩
    · exact hp.stamp s
    · rw [record_byAgent] at hold
      exact hs a q hold
  · intro vs hok v hv
    cases hok
    rw [List.mem_singleton.mp hv]
    exact hp.stamp s

theorem pair (hvalid : s.Valid) (hp : p.Derived umi) (options : PairOptions) :
    DerivedStep umi (registryStep s (.pair p options)) := by
  rw [registryStep, pair_run]
  cases s.refusal p options with
  | some e => exact hs.refused e
  | none => exact hs.stored hvalid hp

theorem step (hvalid : s.Valid) {op : RegistryOp} (hop : op.isPair = false) :
    DerivedStep umi (registryStep s op) := by
  cases op with
  | pair p options => cases hop
  | bindAgentToken a m =>
      rw [registryStep, hvalid.bindAgentToken_run]
      cases hcurrent : s.byAgent.get? a with
      | none => exact hs.refused _
      | some current =>
          cases hnext : RwaAgents.bindAgentToken current m with
          | error e =>
              simp only [hnext]
              exact hs.refused e
          | ok next =>
              simp only [hnext]
              refine hs.stored hvalid ?_
              have hderived := hs a current hcurrent
              rw [(bindAgentToken_ok.mp hnext).2]
              exact ⟨hderived.assetSigner_eq, hderived.agentIdentity_eq⟩
  | getByRwa r => exact hs.read fun v hv => (hvalid.rwa (Option.mem_toList.mp hv)).2
  | getByAgent a =>
      refine hs.read fun v hv => ?_
      have hget := Option.mem_toList.mp hv
      rw [(hvalid.agent hget).1]
      exact hget
  | list =>
      refine hs.read fun v hv => ?_
      obtain ⟨r, hget⟩ := OrderedMap.mem_values.mp hv
      exact (hvalid.rwa hget).2

end PairingRegistry.Derived

end

/-! ## Sessions -/

/-- Does the operation hand the registry a pairing value the caller made up? -/
def SessionOp.isPair {υ : Type} : SessionOp υ → Bool
  | registry op => op.isPair
  | _ => false

section

variable {υ : Type} {umi : Umi} {session : Session} {op : SessionOp υ}

theorem DerivedStep.issue {r : PairingRegistry × RegistryAnswer} (h : DerivedStep umi r) :
    (session.issue r : Session × SessionAnswer υ).1.registry.Derived umi ∧
      ∀ vs, (session.issue r : Session × SessionAnswer υ).2 = .ok (.pairings vs) →
        ∀ v ∈ vs, v.Derived umi := by
  rw [Session.issue]
  split
  · next ws hws =>
    refine ⟨h.registry, fun vs hvs => ?_⟩
    cases hvs
    exact h.answer ws hws
  · exact ⟨h.registry, fun vs hvs => by cases hvs⟩

/-- A step that hands the registry no made-up value keeps the stored pairings derived
and returns derived ones. -/
theorem Session.Valid.derived (hvalid : session.Valid) (hs : session.registry.Derived umi)
    (hop : op.isPair = false) :
    (sessionStep umi session op).1.registry.Derived umi ∧
      ∀ vs, (sessionStep umi session op).2 = .ok (.pairings vs) → ∀ v ∈ vs, v.Derived umi := by
  cases op with
  | pairAgentWithRwa input =>
      refine DerivedStep.issue ?_
      rw [pairAgentWithRwa, EStateM.run_bind, EStateM.run_ofExcept]
      cases hpairing : PairAgentInput.pairing umi { input with registry := true } with
      | error e => exact hs.refused e
      | ok p =>
          exact hs.pair hvalid.registry (PairAgentInput.pairing_derived hpairing)
            { replace := input.replace }
  | registry op => exact (hs.step hvalid.registry hop).issue
  | launch source token options =>
      rw [sessionStep]
      split
      · next value hvalue =>
        refine ⟨hs, fun vs hvs => ?_⟩
        cases hshape : shapeCreateAndRegisterLaunch value.pairing token options with
        | error e => rw [hshape] at hvs; cases hvs
        | ok payload => rw [hshape] at hvs; cases hvs
      · exact ⟨hs, fun vs hvs => by cases hvs⟩

/-- Every pairing a session returns is derived, if the registry was given no made-up
value. -/
theorem returned_derived {ops : List (SessionOp υ)} (hops : ∀ op ∈ ops, op.isPair = false)
    {e : SessionStep υ} (he : e ∈ (sessionMachine umi).steps .empty ops)
    {vs : List AgentRwaPairing} (hvs : e.output = .ok (.pairings vs)) {v : AgentRwaPairing}
    (hv : v ∈ vs) : v.Derived umi := by
  obtain ⟨pre, op, post, rfl, rfl⟩ := Machine.mem_steps he
  rw [List.forall_mem_append, List.forall_mem_cons] at hops
  have hstart : Session.Valid .empty ∧ PairingRegistry.Derived umi Session.empty.registry :=
    ⟨⟨valid_empty, fun value hvalue => (by cases hvalue)⟩, fun a p hget => (by cases hget)⟩
  have hpre : ∀ e ∈ (sessionMachine umi).steps .empty pre, e.action.isPair = false := by
    intro e he
    obtain ⟨pre', op', post', rfl, rfl⟩ := Machine.mem_steps he
    exact hops.1 op' (List.mem_append_right pre' List.mem_cons_self)
  have hreach : (sessionMachine umi : Machine _ (SessionOp υ) _).Reachable .empty := .start rfl
  obtain ⟨hvalid, hs⟩ := hreach.stable_of_steps
    (P := fun session => session.Valid ∧ session.registry.Derived umi)
    (fun session op _ h hop => ⟨h.1.step op, (h.1.derived h.2 hop).1⟩) hstart hpre
  exact (hvalid.derived hs hops.2.1).2 vs hvs v hv

end

/-! ## Authorities -/

/-- Who must sign a call, besides the payer. -/
def SdkCall.authority? : SdkCall → Option String
  | setAgentTokenV1 _ _ authority => some authority
  | createTokenIfMissing _ _ => none
  | transferTokens _ _ _ authority => some authority
  | updateV1 _ authority _ => some authority
  | execute _ _ _ => none

/-- Who must sign the calls of a transaction, besides the payer. -/
def authorities (builder : TransactionBuilder) : List String :=
  builder.filterMap SdkCall.authority?

/-- The transaction is one Core `execute` on the agent, and the only authority of what
it wraps is the address it signs for. -/
def AgentRwaPairing.SignsFor (umi : Umi) (v : AgentRwaPairing) (builder : TransactionBuilder) :
    Prop :=
  ∃ collection inner, builder = [.execute v.agentAsset collection inner] ∧
    authorities inner = [(umi.findAssetSignerPda v.agentAsset).address]

/-- What every builder spends from and who signs for it. -/
structure AgentRwaPairing.SpendsAsSigner (umi : TokenUmi) (v : AgentRwaPairing) : Prop where
  /-- The accounts of both transfers are the one of the derived address for the mint
  that was chosen. -/
  source : ∀ {input transfer}, buildTransferTokens umi v input = .ok transfer →
    chosenMint umi.toUmi v input.mint = .ok transfer.mint ∧ transfer.source =
      umi.findAssociatedTokenPda transfer.mint (umi.findAssetSignerPda v.agentAsset).address
  fromTokenAccount : ∀ {input plan}, buildRwaTransferOwnership umi v input = .ok plan →
    chosenMint umi.toUmi v input.mint = .ok plan.accounts.mint ∧
      plan.accounts.fromTokenAccount = (umi.findAssociatedTokenPda plan.accounts.mint
        (umi.findAssetSignerPda v.agentAsset).address).address
  transfer : ∀ {input transfer collection builder},
    buildTransferTokens umi v input = .ok transfer →
      buildAgentExecution umi.toUmi v transfer.builder collection = .ok builder →
        v.SignsFor umi.toUmi builder
  update : ∀ {input update collection builder},
    buildUpdateMetadata umi.toUmi v input = .ok update →
      buildAgentExecution umi.toUmi v update.builder collection = .ok builder →
        v.SignsFor umi.toUmi builder
  setToken : ∀ {genesisAccount collection set},
    buildSetAgentToken umi.toUmi v genesisAccount collection = .ok set →
      v.SignsFor umi.toUmi set.builder
  /-- The builders that wrap what they build. -/
  executeTransfer : ∀ {input collection transfer},
    buildExecuteTransferTokens umi v input collection = .ok transfer →
      v.SignsFor umi.toUmi transfer.builder
  executeUpdate : ∀ {input collection update},
    buildExecuteUpdateMetadata umi.toUmi v input collection = .ok update →
      v.SignsFor umi.toUmi update.builder

/-- A derived pairing spends from the address it is signed for by. -/
theorem AgentRwaPairing.Derived.spendsAsSigner {umi : TokenUmi} {v : AgentRwaPairing}
    (h : v.Derived umi.toUmi) : v.SpendsAsSigner umi := by
  have hsigner : ∀ {key}, assetSignerKey umi.toUmi v = .ok key →
      key = (umi.findAssetSignerPda v.agentAsset).address := by
    intro key hkey
    rw [assetSignerKey_eq hkey, h.assetSigner_eq]
  have htransfer : ∀ {input transfer collection builder},
      buildTransferTokens umi v input = .ok transfer →
        buildAgentExecution umi.toUmi v transfer.builder collection = .ok builder →
          v.SignsFor umi.toUmi builder := by
    intro input transfer collection builder htransfer hbuilder
    obtain ⟨mint, owner, _, -, howner, -, rfl⟩ := buildTransferTokens_ok.mp htransfer
    obtain ⟨-, -, rfl⟩ := buildAgentExecution_ok.mp hbuilder
    rw [hsigner howner]
    exact ⟨_, _, rfl, rfl⟩
  have hupdate : ∀ {input update collection builder},
      buildUpdateMetadata umi.toUmi v input = .ok update →
        buildAgentExecution umi.toUmi v update.builder collection = .ok builder →
          v.SignsFor umi.toUmi builder := by
    intro input update collection builder hupdate hbuilder
    obtain ⟨mint, authority, -, hauthority, rfl⟩ := buildUpdateMetadata_ok.mp hupdate
    obtain ⟨-, -, rfl⟩ := buildAgentExecution_ok.mp hbuilder
    rw [hsigner hauthority]
    exact ⟨_, _, rfl, rfl⟩
  constructor
  · intro input transfer htransfer
    obtain ⟨mint, owner, _, hmint, howner, -, rfl⟩ := buildTransferTokens_ok.mp htransfer
    rw [hsigner howner]
    exact ⟨hmint, rfl⟩
  · intro input plan hplan
    obtain ⟨mint, owner, _, hmint, howner, -, rfl⟩ := buildRwaTransferOwnership_ok.mp hplan
    rw [hsigner howner]
    exact ⟨hmint, rfl⟩
  · exact htransfer
  · exact hupdate
  · intro genesisAccount collection set hset
    obtain ⟨-, -, -, genesis, collection', -, -, rfl⟩ := buildSetAgentToken_ok.mp hset
    rw [h.assetSigner_eq]
    exact ⟨collection', _, rfl, rfl⟩
  · intro input collection transfer hexecute
    obtain ⟨inner, builder, hinner, hbuilder, rfl⟩ := buildExecuteTransferTokens_ok.mp hexecute
    exact htransfer hinner hbuilder
  · intro input collection update hexecute
    obtain ⟨inner, builder, hinner, hbuilder, rfl⟩ := buildExecuteUpdateMetadata_ok.mp hexecute
    exact hupdate hinner hbuilder

/-- In every run that fills a registry through `pairAgentWithRwa` and its own methods
only, every pairing it returns carries the addresses derived from its agent, and every
builder spends from the derived address and wraps what that address signs. -/
theorem spending_authority {υ : Type} (umi : TokenUmi) {ops : List (SessionOp υ)}
    (hops : ∀ op ∈ ops, op.isPair = false) {e : SessionStep υ}
    (he : e ∈ (sessionMachine umi.toUmi).steps .empty ops) {vs : List AgentRwaPairing}
    (hvs : e.output = .ok (.pairings vs)) {v : AgentRwaPairing} (hv : v ∈ vs) :
    v.assetSigner = (umi.findAssetSignerPda v.agentAsset).address ∧
      v.agentIdentity = (umi.findAgentIdentityV1Pda v.agentAsset).address ∧
      v.SpendsAsSigner umi := by
  have hderived := returned_derived hops he hvs hv
  exact ⟨hderived.assetSigner_eq, hderived.agentIdentity_eq, hderived.spendsAsSigner⟩

/-- The SDK of the sample launches, with a token plugin. -/
def sampleTokenUmi : TokenUmi where
  toUmi := sampleUmi
  findAssociatedTokenPda mint owner := ⟨"account-of-" ++ owner ++ "-for-" ++ mint, 253⟩

/-- An agent is paired, bound, and takes another RWA. -/
def pairAndMove : List (SessionOp Unit) := [
  .pairAgentWithRwa {
    agentAsset := .key "agent-a", rwaAsset := .key "rwa-x", rwaAssetId := .key "id-x" },
  .registry (.bindAgentToken "agent-a" "token-a"),
  .pairAgentWithRwa {
    agentAsset := .key "agent-a", rwaAsset := .key "rwa-y", rwaAssetId := .key "id-y",
    rwaMint := some (.key "mint-y"), replace := some true }]

/-- The pairing that comes back first. -/
def firstPairing : AgentRwaPairing where
  agentAsset := "agent-a"
  agentIdentity := "identity-of-" ++ "agent-a"
  assetSigner := "signer-of-" ++ "agent-a"
  rwaAsset := "rwa-x"
  rwaAssetId := "id-x"
  rwaMint := none
  agentToken := none
  agentTokenBound := false

/-- The pairing that comes back last. -/
def movedPairing : AgentRwaPairing where
  agentAsset := "agent-a"
  agentIdentity := "identity-of-" ++ "agent-a"
  assetSigner := "signer-of-" ++ "agent-a"
  rwaAsset := "rwa-y"
  rwaAssetId := "id-y"
  rwaMint := some "mint-y"
  agentToken := some "token-a"
  agentTokenBound := true

def sampleSale : TransferInput where
  destinationOwner := .key "buyer"
  amount := .bigint 5

def sampleRename : UpdateMetadataInput where
  name := "Updated RWA Fraction"
  symbol := "URWA"
  uri := "https://example.com/updated-rwa.json"

/-- The bound agent spends from the account of its derived address, through a transfer, a
plan and a wrapped update.  Before it was bound, the bind was wrapped as well. -/
theorem spending_authority_moved :
    (∃ transfer plan,
      buildTransferTokens sampleTokenUmi movedPairing sampleSale = .ok transfer ∧
        buildRwaTransferOwnership sampleTokenUmi movedPairing sampleSale = .ok plan ∧
        transfer.mint = "mint-y" ∧
        transfer.source = sampleTokenUmi.findAssociatedTokenPda "mint-y"
          (sampleUmi.findAssetSignerPda "agent-a").address ∧
        plan.accounts.fromTokenAccount = transfer.source.address) ∧
      (∃ transfer update,
        buildExecuteTransferTokens sampleTokenUmi movedPairing sampleSale = .ok transfer ∧
          buildExecuteUpdateMetadata sampleUmi movedPairing sampleRename = .ok update ∧
          movedPairing.SignsFor sampleUmi transfer.builder ∧
          movedPairing.SignsFor sampleUmi update.builder) ∧
      ∃ set, buildSetAgentToken sampleUmi firstPairing (.key "genesis") = .ok set ∧
        firstPairing.SignsFor sampleUmi set.builder := by
  have hspends : movedPairing.SpendsAsSigner sampleTokenUmi := by
    have hmem : (sessionMachine sampleUmi).stepAt
        ((sessionMachine sampleUmi).run .empty (pairAndMove.take 2)) pairAndMove[2] ∈
          (sessionMachine sampleUmi).steps .empty pairAndMove :=
      Machine.stepAt_mem_steps _ (pairAndMove.take 2) _ []
    exact (spending_authority sampleTokenUmi (by decide) hmem rfl
      (List.mem_singleton.mpr rfl : movedPairing ∈ [movedPairing])).2.2
  have hspends' : firstPairing.SpendsAsSigner sampleTokenUmi := by
    have hmem : (sessionMachine sampleUmi).stepAt .empty pairAndMove[0] ∈
        (sessionMachine sampleUmi).steps .empty pairAndMove :=
      Machine.stepAt_mem_steps _ [] _ (pairAndMove.drop 1)
    exact (spending_authority sampleTokenUmi (by decide) hmem rfl
      (List.mem_singleton.mpr rfl : firstPairing ∈ [firstPairing])).2.2
  refine ⟨?_, ?_, ?_⟩
  · have hbuild : buildTransferTokens sampleTokenUmi movedPairing sampleSale = .ok _ := rfl
    have hplan : buildRwaTransferOwnership sampleTokenUmi movedPairing sampleSale = .ok _ := rfl
    exact ⟨_, _, hbuild, hplan, rfl, (hspends.source hbuild).2,
      (hspends.fromTokenAccount hplan).2⟩
  · have htransfer : buildExecuteTransferTokens sampleTokenUmi movedPairing sampleSale = .ok _ :=
      rfl
    have hupdate : buildExecuteUpdateMetadata sampleUmi movedPairing sampleRename = .ok _ := rfl
    exact ⟨_, _, htransfer, hupdate, hspends.executeTransfer htransfer,
      hspends.executeUpdate hupdate⟩
  · have hset : buildSetAgentToken sampleUmi firstPairing (.key "genesis") = .ok _ := rfl
    exact ⟨_, hset, hspends'.setToken hset⟩

end RwaAgents
