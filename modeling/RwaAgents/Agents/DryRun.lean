import RwaAgents.Agents.PairSpec
import RwaAgents.Agents.Registration
import RwaAgents.Agents.Submission
import RwaAgents.Agents.TokenIssue

/-!
# The dry run

`runPairAndLaunchDryRun` of `agents/run.ts` pairs an agent with an RWA in a registry of
its own, shapes a launch, builds one transaction of every kind and reports all of it.
Nothing is sent.

The SDK context is passed in, or made for the RPC endpoint of the environment, which may
throw.  Every key comes from a flag, else from the environment, else from the samples.  With
a context, the run returns a text and writes that text if the keys and the Asset Signer of the
agent are addresses.  Otherwise it throws and writes nothing (`dry_run_ends`).  No guard of
the registry, of a launch or of a builder stands in its way.
-/

namespace RwaAgents

/-! ## The SDK context -/

/-- The context of a client, with the signers that `generateSigner` answers one after the
other. -/
structure AgentUmi extends TokenUmi where
  generateSigner : ℕ → UmiSigner toUmi

/-- `createUmi` with the plugins of the client.  It throws on an endpoint it cannot use. -/
abbrev CreateUmi := (endpoint : String) → Except String AgentUmi

def defaultRpcUrl (env : ProcessEnv) : String :=
  ((given (env "RPC_ENDPOINT")).or <| (given (env "SOLANA_RPC_URL")).or
    (given (env "RPC_URL"))).getD "http://127.0.0.1:8899"

def createAgentUmi (createUmi : CreateUmi) (rpcUrl : Option String) (env : ProcessEnv) :
    Except String AgentUmi :=
  createUmi ((given rpcUrl).getD (defaultRpcUrl env))

/-- The identity of the context is a signer of its own. -/
def createAgentUmiWithIdentity (createUmi : CreateUmi) (rpcUrl : Option String)
    (env : ProcessEnv) : Except String IdentityUmi := do
  let umi ← createAgentUmi createUmi rpcUrl env
  return {
    toTokenUmi := umi.toTokenUmi
    identity := umi.generateSigner 0
    generateSigner := umi.generateSigner 1 }

/-- The context of a run: the one that is passed in, or one made for the environment. -/
def dryRunUmi (createUmi : CreateUmi) (umi : Option IdentityUmi) (env : ProcessEnv) :
    Except String IdentityUmi :=
  match umi with
  | some umi => .ok umi
  | none => createAgentUmiWithIdentity createUmi none env

/-! ## The keys of a run -/

/-- The argument behind the first occurrence of a flag, if there is one that is not
empty. -/
def argValue (args : List String) (flag fallback : String) : String :=
  match args.findIdx? (· = flag) with
  | some index => (given args[index + 1]?).getD fallback
  | none => fallback

structure DryRunKeys where
  agentAsset : String
  rwaAsset : String
  rwaAssetId : String
  rwaMint : String
  destination : String

def defaultSampleAgentAsset : String := "So11111111111111111111111111111111111111112"

def defaultSampleRwaAsset : String := "TokenkegQfeZyiNwAJbNbGKPFXCWuBvf9Ss623VQ5DA"

def defaultSampleRwaId : String := "TokenkegQfeZyiNwAJbNbGKPFXCWuBvf9Ss623VQ5DA"

def defaultSampleRwaMint : String := "EPjFWdd5AufqSSqeM2qN1xzybapC8G4wEGGkZwyTDt1v"

def defaultSampleDestination : String := "11111111111111111111111111111111"

/-- A flag, else a variable, else a sample. -/
def dryRunKey (env : ProcessEnv) (args : List String) (flag name sample : String) : String :=
  argValue args flag ((given (env name)).getD sample)

def dryRunKeys (env : ProcessEnv) (args : List String) : DryRunKeys where
  agentAsset := dryRunKey env args "--agent" "AGENT_ASSET" defaultSampleAgentAsset
  rwaAsset := dryRunKey env args "--rwa" "RWA_ASSET" defaultSampleRwaAsset
  rwaAssetId := dryRunKey env args "--rwa-id" "RWA_ASSET_ID" defaultSampleRwaId
  rwaMint := dryRunKey env args "--mint" "RWA_MINT" defaultSampleRwaMint
  destination := dryRunKey env args "--to" "TRADE_DESTINATION" defaultSampleDestination

/-! ## The report -/

/-- The keys of the instructions the calls are built into. -/
structure InstructionKeys where
  sdk : SdkCall → List String
  issue : IssueCall → List String

/-- The keys of the instructions of a builder. -/
def instructionPubkeys {Call : Type} (keys : Call → List String) (builder : List Call) :
    List String :=
  builder.flatMap keys

def textArray (texts : List String) : JsonValue := .array (texts.map .string)

def AgentRwaPairing.reportJson (pairing : AgentRwaPairing) : JsonValue :=
  .object ([("agentAsset", .string pairing.agentAsset),
    ("assetSigner", .string pairing.assetSigner),
    ("agentIdentity", .string pairing.agentIdentity), ("rwaAsset", .string pairing.rwaAsset),
    ("rwaAssetId", .string pairing.rwaAssetId)] ++ optionalText "rwaMint" pairing.rwaMint)

/-- A `bigint` has no JSON form. -/
def Amount.toJson : Amount → Except String JsonValue
  | .number value => return .number value
  | .bigint _ => throw "Do not know how to serialize a BigInt"

def RwaTransferOwnershipPlan.toJson (plan : RwaTransferOwnershipPlan) :
    Except String JsonValue := do
  let amount ← plan.amount.toJson
  return .object [("programId", .string plan.programId),
    ("instruction", .string plan.instruction),
    ("accounts", .object [("asset", .string plan.accounts.asset),
      ("from", .string plan.accounts.from),
      ("fromTokenAccount", .string plan.accounts.fromTokenAccount),
      ("toTokenAccount", .string plan.accounts.toTokenAccount),
      ("mint", .string plan.accounts.mint),
      ("tokenProgram", .string plan.accounts.tokenProgram),
      ("clock", .string plan.accounts.clock)]),
    ("amount", amount)]

def defaultAgentToken (pairing : AgentRwaPairing) : GenesisTokenInput where
  name := "RWA Agent Token"
  symbol := "RWAA"
  image := "https://gateway.irys.xyz/rwa-agent-token"
  description := some
    s!"Canonical agent token bound to {pairing.agentAsset} for RWA {pairing.rwaAssetId}"

section

variable (umi : IdentityUmi) (keys : InstructionKeys)

/-- The transactions of the report, one of every kind. -/
def tradePlan (pairing : AgentRwaPairing) (sample : DryRunKeys) : Except String JsonValue := do
  let created ← buildCreateFungibleAndMint umi pairing {
    name := "RWA Fraction"
    symbol := "RWAF"
    uri := "https://example.com/rwa-fraction.json"
    decimals := some (.ofNat 9)
    amount := .number (.ofNat 1000000000) }
  let minted ← buildMintMore umi.toTokenUmi pairing {
    mint := .key sample.rwaMint
    amount := .number (.ofNat 100)
    destinationOwner := some (.key sample.destination) }
  let transferred ← buildTransferTokens umi.toTokenUmi pairing {
    mint := some (.key sample.rwaMint)
    destinationOwner := .key sample.destination
    amount := .number (.ofNat 50) }
  let updated ← buildUpdateMetadata umi.toUmi pairing {
    mint := some (.key sample.rwaMint)
    name := "Updated RWA Fraction"
    symbol := "URWA"
    uri := "https://example.com/updated-rwa.json" }
  let rwaTransfer ← buildRwaTransferOwnership umi.toTokenUmi pairing {
    destinationOwner := .key sample.destination
    amount := .number (.ofNat 25) }
  let rwaTransferOwnership ← rwaTransfer.toJson
  return .object [
    ("createFungible", .object [("action", .string "mint"),
      ("mint", .string created.mint.publicKey), ("destinationAta", .string created.token.address),
      ("keys", textArray (instructionPubkeys keys.issue created.builder))]),
    ("mintMore", .object [("action", .string "mint"), ("mint", .string minted.mint),
      ("destinationAta", .string minted.token.address),
      ("keys", textArray (instructionPubkeys keys.issue minted.builder))]),
    ("transfer", .object [("action", .string "transfer"), ("mint", .string transferred.mint),
      ("destinationAta", .string transferred.destination.address),
      ("keys", textArray (instructionPubkeys keys.sdk transferred.builder))]),
    ("update", .object [("action", .string "update"), ("mint", .string updated.mint),
      ("keys", textArray (instructionPubkeys keys.sdk updated.builder))]),
    ("rwaTransferOwnership", rwaTransferOwnership)]

/-- What is written: a few lines for the reader and the report. -/
def dryRunText (stringify : JsonValue → String) (pairing : AgentRwaPairing)
    (launch : GenesisLaunchPayload JsonValue) (plan : JsonValue) : String :=
  let agent := rwaTraderAgent
  let rwaMint := pairing.rwaMint.getD "undefined"
  let report := JsonValue.object [
    ("agent", .object [("id", .string agent.id.text), ("name", .string agent.registration.name),
      ("type", .string agent.registration.type)]),
    ("pairing", pairing.reportJson),
    ("launch", launch.json []),
    ("tradePlan", plan)]
  "\n".intercalate [
    s!"ERC-8004 type: {erc8004RegistrationV1}",
    s!"Paired RWA asset id: {pairing.rwaAssetId}",
    s!"Agent asset: {pairing.agentAsset}",
    s!"Asset signer: {pairing.assetSigner}",
    s!"Genesis launchType: {launch.launchType}",
    s!"Genesis setToken: {launch.agent.setToken}",
    s!"Trade plan: mint + transfer of mint {rwaMint}",
    stringify report,
    ""]

/-- The input of the pairing, into a registry of the run. -/
def DryRunKeys.pairInput (sample : DryRunKeys) : PairAgentInput where
  agentAsset := .key sample.agentAsset
  rwaAsset := .key sample.rwaAsset
  rwaAssetId := .key sample.rwaAssetId
  rwaMint := some (.key sample.rwaMint)

/-- The pairing, the launch and the text of a run. -/
def dryRunReport (stringify : JsonValue → String) (sample : DryRunKeys) :
    Except String (AgentRwaPairing × GenesisLaunchPayload JsonValue × String) := do
  let _ ← umi.publicKey sample.agentAsset
  let _ ← umi.publicKey sample.rwaAsset
  let _ ← umi.publicKey sample.rwaMint
  let pairing ← ((pairAgentWithRwa umi.toUmi sample.pairInput).settle .empty).1
  let launch ← shapeCreateAndRegisterLaunch pairing (defaultAgentToken pairing)
    { wallet := some umi.identity.publicKey }
  let plan ← tradePlan umi keys pairing sample
  return (pairing, launch, dryRunText stringify pairing launch plan)

end

/-- The state is what has been written. -/
def runPairAndLaunchDryRun (createUmi : CreateUmi) (keys : InstructionKeys)
    (stringify : JsonValue → String) (umi : Option IdentityUmi) (env : ProcessEnv)
    (args : List String) : EStateM String (List String) String := do
  let umi ← MonadExcept.ofExcept (dryRunUmi createUmi umi env)
  let (_, _, text) ← MonadExcept.ofExcept
    (dryRunReport umi keys stringify (dryRunKeys env args))
  modify (· ++ [text])
  return text

/-! ## Which key is taken -/

theorem argValue_of_flag {pre post : List String} {flag value : String} (hpre : flag ∉ pre)
    (hvalue : value ≠ "") (fallback : String) :
    argValue (pre ++ flag :: value :: post) flag fallback = value := by
  have hindex : (pre ++ flag :: value :: post).findIdx? (· = flag) = some pre.length := by
    induction pre with
    | nil => simp [List.findIdx?_cons]
    | cons arg pre ih =>
        rw [List.mem_cons, not_or] at hpre
        simp [List.findIdx?_cons, Ne.symm hpre.1, ih hpre.2]
  rw [argValue, hindex]
  simp [given, Option.filter, hvalue]

theorem argValue_of_notMem {args : List String} {flag : String} (h : flag ∉ args)
    (fallback : String) : argValue args flag fallback = fallback := by
  have hindex : args.findIdx? (· = flag) = none := by
    rw [List.findIdx?_eq_none_iff]
    intro arg harg
    exact decide_eq_false fun he => h (he ▸ harg)
  rw [argValue, hindex]

theorem given_getD_ne {text : Option String} {fallback : String} (h : fallback ≠ "") :
    (given text).getD fallback ≠ "" := by
  cases hgiven : given text with
  | none => exact h
  | some t =>
      have := (Option.filter_eq_some_iff.mp hgiven).2
      simpa using this

/-- A key is never empty. -/
theorem dryRunKey_ne {env : ProcessEnv} {args : List String} {flag name sample : String}
    (h : sample ≠ "") : dryRunKey env args flag name sample ≠ "" := by
  rw [dryRunKey, argValue]
  split
  · exact given_getD_ne (given_getD_ne h)
  · exact given_getD_ne h

/-! ## When a run ends well -/

section

variable {umi : IdentityUmi} {sample : DryRunKeys}

/-- What a run needs to be addresses. -/
structure DryRunKeys.Addresses (umi : IdentityUmi) (sample : DryRunKeys) : Prop where
  agentAsset : umi.publicKey sample.agentAsset = .ok sample.agentAsset
  rwaAsset : umi.publicKey sample.rwaAsset = .ok sample.rwaAsset
  rwaAssetId : umi.publicKey sample.rwaAssetId = .ok sample.rwaAssetId
  rwaMint : umi.publicKey sample.rwaMint = .ok sample.rwaMint
  destination : umi.publicKey sample.destination = .ok sample.destination
  assetSigner : umi.publicKey (umi.findAssetSignerPda sample.agentAsset).address =
    .ok (umi.findAssetSignerPda sample.agentAsset).address

def DryRunKeys.pairing (umi : IdentityUmi) (sample : DryRunKeys) : AgentRwaPairing where
  agentAsset := sample.agentAsset
  agentIdentity := (umi.findAgentIdentityV1Pda sample.agentAsset).address
  assetSigner := (umi.findAssetSignerPda sample.agentAsset).address
  rwaAsset := sample.rwaAsset
  rwaAssetId := sample.rwaAssetId
  rwaMint := some sample.rwaMint
  agentToken := none
  agentTokenBound := false

/-- A registry without pairings refuses none. -/
theorem pair_empty (p : AgentRwaPairing) (options : PairOptions) :
    ((PairingRegistry.pair p options).settle .empty).1 = .ok p := by
  rw [EStateM.settle, PairingRegistry.pair_run]
  rfl

theorem publicKey_self {s k : String} (h : umi.publicKey s = .ok k) : umi.publicKey s = .ok s := by
  have hk := umi.publicKey_eq h
  rwa [hk] at h

theorem pairInput_ok (hmint : sample.rwaMint ≠ "") {p : AgentRwaPairing} :
    ((pairAgentWithRwa umi.toUmi sample.pairInput).settle .empty).1 = .ok p ↔
      (umi.publicKey sample.agentAsset = .ok sample.agentAsset ∧
        umi.publicKey sample.rwaAsset = .ok sample.rwaAsset ∧
        umi.publicKey sample.rwaAssetId = .ok sample.rwaAssetId ∧
        umi.publicKey sample.rwaMint = .ok sample.rwaMint) ∧ p = sample.pairing umi := by
  have hpair : ((pairAgentWithRwa umi.toUmi sample.pairInput).settle .empty).1 =
      sample.pairInput.pairing umi.toUmi := by
    rw [pairAgentWithRwa, EStateM.settle_ofExcept_bind]
    cases sample.pairInput.pairing umi.toUmi with
    | error e => rfl
    | ok q => exact pair_empty q _
  have htruthy : AssetRef.truthy (some (.key sample.rwaMint)) = true := by
    simpa [AssetRef.truthy] using hmint
  rw [hpair]
  simp only [DryRunKeys.pairInput, PairAgentInput.pairing, deriveAgentIdentityPda,
    deriveAssetSignerPda, asPublicKey, htruthy, if_true, Except.bind_eq_ok, Except.pure_eq_ok,
    mapM_some_ok]
  constructor
  · rintro ⟨agent, hagent, _, ⟨_, hidentity, rfl⟩, _, ⟨_, hsigner, rfl⟩, _, hrwa, _, hid, _,
      ⟨mint, hmint, rfl⟩, rfl⟩
    cases umi.publicKey_eq hagent
    cases umi.publicKey_eq hidentity
    cases umi.publicKey_eq hsigner
    cases umi.publicKey_eq hrwa
    cases umi.publicKey_eq hid
    cases umi.publicKey_eq hmint
    exact ⟨⟨hagent, hrwa, hid, hmint⟩, rfl⟩
  · rintro ⟨⟨hagent, hrwa, hid, hmint⟩, rfl⟩
    exact ⟨_, hagent, _, ⟨_, hagent, rfl⟩, _, ⟨_, hagent, rfl⟩, _, hrwa, _, hid, _,
      ⟨_, hmint, rfl⟩, rfl⟩

variable {keys : InstructionKeys} {stringify : JsonValue → String}

/-- The transactions are built if the destination and the Asset Signer are addresses. -/
theorem tradePlan_ok (hmint : umi.publicKey sample.rwaMint = .ok sample.rwaMint)
    (hne : sample.rwaMint ≠ "") (hdestination : sample.destination ≠ "") :
    (∃ plan, tradePlan umi keys (sample.pairing umi) sample = .ok plan) ↔
      umi.publicKey sample.destination = .ok sample.destination ∧
        umi.publicKey (umi.findAssetSignerPda sample.agentAsset).address =
          .ok (umi.findAssetSignerPda sample.agentAsset).address := by
  constructor
  · rintro ⟨plan, hplan⟩
    simp only [tradePlan, Except.bind_eq_ok] at hplan
    obtain ⟨created, hcreated, _, -, transferred, htransferred, -⟩ := hplan
    obtain ⟨_, _, -, hsigner, -⟩ := buildCreateFungibleAndMint_ok.mp hcreated
    obtain ⟨_, _, _, -, -, howner, -⟩ := buildTransferTokens_ok.mp htransferred
    exact ⟨publicKey_self howner, publicKey_self hsigner⟩
  · rintro ⟨howner, hsigner⟩
    have hsigner' : assetSignerKey umi.toUmi (sample.pairing umi) = .ok _ := hsigner
    have hchosen : chosenMint umi.toUmi (sample.pairing umi) none = .ok sample.rwaMint := by
      rw [chosenMint, requirePairingMint, DryRunKeys.pairing]
      simp only [if_neg hne]
      exact hmint
    have hminted : chosenOwner umi.toUmi (sample.pairing umi) (some (.key sample.destination)) =
        .ok sample.destination := by
      have htruthy : AssetRef.truthy (some (.key sample.destination)) = true := by
        simpa [AssetRef.truthy] using hdestination
      simp only [chosenOwner, htruthy]
      exact howner
    simp only [tradePlan, Except.bind_eq_ok]
    refine ⟨_, _, buildCreateFungibleAndMint_ok.mpr ⟨_, _, rfl, hsigner', rfl⟩, _,
      buildMintMore_ok.mpr ⟨_, _, hmint, hminted, rfl⟩, _,
      buildTransferTokens_ok.mpr ⟨_, _, _, hmint, hsigner', howner, rfl⟩, _,
      buildUpdateMetadata_ok.mpr ⟨_, _, hmint, hsigner', rfl⟩, _,
      buildRwaTransferOwnership_ok.mpr ⟨_, _, _, hchosen, hsigner', howner, rfl⟩, _, rfl, rfl⟩

/-- What a report is about: the pairing of the keys and a launch that asks for the token
of the agent. -/
theorem dryRunReport_eq (hmint : sample.rwaMint ≠ "")
    {r : AgentRwaPairing × GenesisLaunchPayload JsonValue × String}
    (h : dryRunReport umi keys stringify sample = .ok r) :
    r.1 = sample.pairing umi ∧ r.2.1.agent = ⟨sample.agentAsset, true⟩ ∧
      ∃ plan, tradePlan umi keys (sample.pairing umi) sample = .ok plan ∧
        r.2.2 = dryRunText stringify r.1 r.2.1 plan := by
  simp only [dryRunReport, Except.bind_eq_ok, Except.pure_eq_ok] at h
  obtain ⟨_, -, _, -, _, -, pairing, hpairing, launch, hlaunch, plan, hplan, rfl⟩ := h
  obtain ⟨-, rfl⟩ := (pairInput_ok hmint).mp hpairing
  exact ⟨rfl, (shapeCreateAndRegisterLaunch_ok hlaunch).1, plan, hplan, rfl⟩

/-- A report is made exactly if all keys are addresses. -/
theorem dryRunReport_ok (hmint : sample.rwaMint ≠ "") (hdestination : sample.destination ≠ "") :
    (∃ r, dryRunReport umi keys stringify sample = .ok r) ↔ sample.Addresses umi := by
  constructor
  · rintro ⟨r, hr⟩
    simp only [dryRunReport, Except.bind_eq_ok] at hr
    obtain ⟨_, -, _, -, _, -, pairing, hpairing, launch, -, plan, hplan, -⟩ := hr
    obtain ⟨⟨hagent, hrwa, hid, hmintKey⟩, rfl⟩ := (pairInput_ok hmint).mp hpairing
    obtain ⟨howner, hsigner⟩ := (tradePlan_ok hmintKey hmint hdestination).mp ⟨plan, hplan⟩
    exact ⟨hagent, hrwa, hid, hmintKey, howner, hsigner⟩
  · intro h
    obtain ⟨plan, hplan⟩ := (tradePlan_ok h.rwaMint hmint hdestination).mpr
      ⟨h.destination, h.assetSigner⟩
    have hunbound : (sample.pairing umi).agentTokenBound = false := rfl
    obtain ⟨launch, hlaunch, -⟩ := shapeCreateAndRegisterLaunch_of_unbound hunbound
      (defaultAgentToken (sample.pairing umi))
      ({ wallet := some umi.identity.publicKey } : ShapeLaunchOptions JsonValue)
    simp only [dryRunReport, Except.bind_eq_ok]
    exact ⟨_, _, h.agentAsset, _, h.rwaAsset, _, h.rwaMint, _, (pairInput_ok hmint).mpr
      ⟨⟨h.agentAsset, h.rwaAsset, h.rwaAssetId, h.rwaMint⟩, rfl⟩, _, hlaunch, _, hplan, rfl⟩

end

section

variable {createUmi : CreateUmi} {keys : InstructionKeys} {stringify : JsonValue → String}
variable {umi? : Option IdentityUmi} {env : ProcessEnv} {args written : List String}

theorem runPairAndLaunchDryRun_noContext {e : String}
    (h : dryRunUmi createUmi umi? env = .error e) :
    (runPairAndLaunchDryRun createUmi keys stringify umi? env args).settle written =
      (.error e, written) := by
  rw [runPairAndLaunchDryRun, EStateM.settle_ofExcept_bind, h]

/-- With a context, what is written is the text of the report. -/
theorem runPairAndLaunchDryRun_context {umi : IdentityUmi}
    (h : dryRunUmi createUmi umi? env = .ok umi) :
    (runPairAndLaunchDryRun createUmi keys stringify umi? env args).settle written =
      match dryRunReport umi keys stringify (dryRunKeys env args) with
      | .ok (_, _, text) => (.ok text, written ++ [text])
      | .error e => (.error e, written) := by
  rw [runPairAndLaunchDryRun, EStateM.settle_ofExcept_bind, h]
  change EStateM.settle (MonadExcept.ofExcept _ >>= _) _ = _
  rw [EStateM.settle_ofExcept_bind]
  cases dryRunReport umi keys stringify (dryRunKeys env args) with
  | error e => rfl
  | ok r => rfl

end

/-- A run without a context throws what the SDK threw.  With one, a run whose keys and Asset
Signer are addresses writes the text it returns, on the pairing of its keys and a launch that
asks for the token of the agent, and every other run throws.  A run that throws writes
nothing. -/
theorem dry_run_ends (createUmi : CreateUmi) (keys : InstructionKeys)
    (stringify : JsonValue → String) (umi? : Option IdentityUmi) (env : ProcessEnv)
    (args written : List String) :
    let sample := dryRunKeys env args
    let run := (runPairAndLaunchDryRun createUmi keys stringify umi? env args).settle written
    (∀ e, dryRunUmi createUmi umi? env = .error e → run = (.error e, written)) ∧
      ∀ umi, dryRunUmi createUmi umi? env = .ok umi →
        (sample.Addresses umi → ∃ launch plan,
          launch.agent = ⟨sample.agentAsset, true⟩ ∧
            tradePlan umi keys (sample.pairing umi) sample = .ok plan ∧
            run = (.ok (dryRunText stringify (sample.pairing umi) launch plan),
              written ++ [dryRunText stringify (sample.pairing umi) launch plan])) ∧
          (¬ sample.Addresses umi → ∃ e, run = (.error e, written)) := by
  intro sample run
  refine ⟨fun e he => runPairAndLaunchDryRun_noContext he, fun umi humi => ?_⟩
  have hmint : sample.rwaMint ≠ "" := dryRunKey_ne (by decide)
  have hdestination : sample.destination ≠ "" := dryRunKey_ne (by decide)
  have hrun : run = _ := runPairAndLaunchDryRun_context humi
  have hreport : (∃ r, dryRunReport umi keys stringify sample = .ok r) ↔ sample.Addresses umi :=
    dryRunReport_ok hmint hdestination
  constructor
  · intro haddresses
    obtain ⟨r, hr⟩ := hreport.mpr haddresses
    obtain ⟨hpairing, hagent, plan, hplan, htext⟩ := dryRunReport_eq hmint hr
    rw [hpairing] at htext
    refine ⟨r.2.1, plan, hagent, hplan, ?_⟩
    rw [hrun, hr, ← htext]
  · intro hnot
    cases hr : dryRunReport umi keys stringify sample with
    | error e => exact ⟨e, by rw [hrun, hr]⟩
    | ok r => exact absurd (hreport.mp ⟨r, hr⟩) hnot

/-! ## A run on the samples -/

/-- The SDK of the samples, which can use an endpoint over HTTP. -/
def sampleCreateUmi : CreateUmi := fun endpoint =>
  if "http:".toList <+: endpoint.toList ∨ "https:".toList <+: endpoint.toList then
    .ok { toTokenUmi := sampleTokenUmi, generateSigner := fun n => ⟨s!"signer-{n}", rfl⟩ }
  else .error "Endpoint URL must start with `http:` or `https:`."

/-- An environment that names an endpoint, or nothing. -/
def endpointEnv (endpoint : Option String) : ProcessEnv := fun name =>
  if name = "RPC_ENDPOINT" then endpoint else none

/-- Without flags the run is about the sample keys and ends well.  An endpoint that is not
over HTTP ends it. -/
theorem dry_run_ends_sample :
    (∃ text, (runPairAndLaunchDryRun sampleCreateUmi ⟨fun _ => [], fun _ => []⟩ (fun _ => "{}")
        none (endpointEnv none) []).settle [] = (.ok text, [text])) ∧
      (runPairAndLaunchDryRun sampleCreateUmi ⟨fun _ => [], fun _ => []⟩ (fun _ => "{}")
        none (endpointEnv (some "ftp://node")) []).settle [] =
          (.error "Endpoint URL must start with `http:` or `https:`.", []) := by
  constructor
  · obtain ⟨launch, plan, -, -, hrun⟩ := ((dry_run_ends sampleCreateUmi
      ⟨fun _ => [], fun _ => []⟩ (fun _ => "{}") none (endpointEnv none) [] []).2 _ rfl).1
        ⟨rfl, rfl, rfl, rfl, rfl, rfl⟩
    exact ⟨_, hrun⟩
  · exact (dry_run_ends sampleCreateUmi _ _ none _ [] []).1 _ rfl

end RwaAgents
