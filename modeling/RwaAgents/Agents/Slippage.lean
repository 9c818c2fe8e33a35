import RwaAgents.Agents.QuoteSafety

/-!
# The slippage of a swap

`requestMetis` checks the slippage it sends and never the one that comes back:
`checkQuote` compares the mints, the amount and the mode of a quote and leaves out its
`slippageBps`.  So the slippage of the request is the slippage of the swap exactly when
the provider keeps it (`slippage_kept_iff`).
-/

namespace RwaAgents

open JsonValue

/-- The quote carries the slippage of the request. -/
def KeepsSlippage (input : MetisRequest) (quote : JsonValue) : Prop :=
  quote.own "slippageBps" = some (.number input.slippage)

/-- The slippage of the request is the slippage of the swap. -/
structure SlippageKept (node : Web3Runtime) (provider : MetisProvider) (env : ProcessEnv)
    (input : MetisRequest) (userPublicKey : Option String)
    (outcome : Except String JsonValue × List MetisCall) : Prop where
  returned : ∀ v, outcome.1 = .ok v → ∃ quote, v.own "quote" = some quote ∧
    KeepsSlippage input quote
  posted : directMetis env = true → ∀ call ∈ outcome.2, ∀ quote,
    call.body.bind (own "quoteResponse") = some quote → KeepsSlippage input quote
  /-- A quote with another slippage ends the request, and nothing more is asked for. -/
  rejected : ∀ base result quote, metisPrefix node env = .ok base →
    (provider [firstCall node env base input userPublicKey]).read = .ok result →
    quoteIn env result = .ok (some quote) → ¬ KeepsSlippage input quote →
      ∃ e, outcome.1 = .error e ∧ outcome.2.length ≤ 1

section

variable {node : Web3Runtime} {provider : MetisProvider} {env : ProcessEnv} {input : MetisRequest}
  {userPublicKey : Option String} {outcome : Except String JsonValue × List MetisCall}

/-- The one quote a direct request posts is the accepted one. -/
theorem MetisEnds.posted_accepted
    (h : MetisEnds node provider env input userPublicKey outcome)
    (hdirect : directMetis env = true) {call : MetisCall} (hcall : call ∈ outcome.2)
    {quote : JsonValue} (hbody : call.body.bind (own "quoteResponse") = some quote) :
    ∃ base result, Accepted node provider env input userPublicKey base result quote := by
  have hfirst : ∀ base, ((firstCall node env base input userPublicKey).body.bind
      (own "quoteResponse")) = none := by
    intro base
    rw [firstCall, hdirect]
    rfl
  rcases h.calls_cases with hnone | ⟨base, -, hone⟩ | ⟨base, result, q, user, hquoted, hboth⟩
  · rw [hnone] at hcall
    cases hcall
  · rw [hone, List.mem_singleton] at hcall
    rw [hcall, hfirst] at hbody
    cases hbody
  · rw [hboth, List.mem_pair] at hcall
    rcases hcall with rfl | rfl
    · rw [hfirst] at hbody
      cases hbody
    · cases hbody
      refine ⟨base, result, hquoted, fun hproxy => ?_⟩
      cases hdirect.symm.trans hproxy

/-- Once an accepted quote keeps the slippage, the request keeps it. -/
theorem MetisEnds.slippageKept (h : MetisEnds node provider env input userPublicKey outcome)
    (hkeeps : ∀ base result quote,
      Accepted node provider env input userPublicKey base result quote →
        KeepsSlippage input quote) :
    SlippageKept node provider env input userPublicKey outcome := by
  constructor
  · intro v hv
    rcases h.failed_or_accepted with ⟨e, herror, -⟩ | ⟨base, result, q, haccepted, hreturned⟩
    · cases hv.symm.trans herror
    · exact ⟨q, hreturned v hv, hkeeps _ _ _ haccepted⟩
  · intro hdirect call hcall quote hbody
    obtain ⟨base, result, haccepted⟩ := h.posted_accepted hdirect hcall hbody
    exact hkeeps _ _ _ haccepted
  · intro base result quote hbase hreply hquote hother
    rcases h.failed_or_accepted with hfailed | ⟨base', result', q, haccepted, -⟩
    · exact hfailed
    · cases hbase.symm.trans haccepted.1.metisPrefix_eq
      cases hreply.symm.trans haccepted.1.reply
      cases hquote.symm.trans haccepted.1.quoteIn_eq
      exact absurd (hkeeps _ _ _ haccepted) hother

/-- A request that keeps the slippage does so by the quote it accepts. -/
theorem MetisEnds.accepted_keeps (h : MetisEnds node provider env input userPublicKey outcome)
    (hkept : SlippageKept node provider env input userPublicKey outcome) {base : String}
    {result quote : JsonValue}
    (haccepted : Accepted node provider env input userPublicKey base result quote) :
    KeepsSlippage input quote := by
  by_contra hother
  have hquoted := haccepted.1
  obtain ⟨e, herror, hcalls⟩ := hkept.rejected base result quote hquoted.metisPrefix_eq
    hquoted.reply hquoted.quoteIn_eq hother
  exact h.not_failed haccepted herror hcalls

end

/-- The slippage is kept if and only if the provider's first reply, once it passes the
checks that are made, keeps it. -/
theorem slippage_kept_iff (node : Web3Runtime) (provider : MetisProvider) (env : ProcessEnv)
    (input : MetisRequest) (userPublicKey : Option String) :
    SlippageKept node provider env input userPublicKey
        ((requestMetis node provider env input userPublicKey).settle []) ↔
      ∀ base result quote, Accepted node provider env input userPublicKey base result quote →
        KeepsSlippage input quote := by
  have h := requestMetis_ends node provider env input userPublicKey
  constructor
  · intro hkept base result quote haccepted
    exact h.accepted_keeps hkept haccepted
  · intro hkeeps
    exact h.slippageKept hkeeps

/-! ## A provider with a slippage of its own -/

def sampleWeb3 : Web3Runtime where
  publicKey _ := .ok ()
  parseUrl text := .ok ⟨"https:", text⟩
  numberText
    | .finite q => toString q.num
    | .infinity negative => if negative then "-Infinity" else "Infinity"
    | .nan => "NaN"

def sampleMetisEnv : ProcessEnv
  | "QUICKNODE_METIS_URL" => some "https://example.com/addon"
  | _ => none

def sampleMetisRequest : MetisRequest where
  inputMint := "So11111111111111111111111111111111111111112"
  outputMint := "EPjFWdd5AufqSSqeM2qN1xzybapC8G4wEGGkZwyTDt1v"
  amount := "1000000"

/-- A quote for the sample request that gives all of it away. -/
def looseQuote : JsonValue := .object [
  ("inputMint", .string "So11111111111111111111111111111111111111112"),
  ("outputMint", .string "EPjFWdd5AufqSSqeM2qN1xzybapC8G4wEGGkZwyTDt1v"),
  ("inAmount", .string "1000000"), ("outAmount", .string "10"),
  ("swapMode", .string "ExactIn"), ("slippageBps", .number (.ofNat 10000))]

def looseProvider (calls : List MetisCall) : MetisReply :=
  if calls.length = 1 then .response 200 (.ok looseQuote)
  else .response 200 (.ok (.object [("swapTransaction", .string "unsigned")]))

/-- The request asks for the default of 50 and gets a swap for 10000. -/
theorem slippage_not_kept :
    ¬ SlippageKept sampleWeb3 looseProvider sampleMetisEnv sampleMetisRequest
      (some "So11111111111111111111111111111111111111112")
      ((requestMetis sampleWeb3 looseProvider sampleMetisEnv sampleMetisRequest
        (some "So11111111111111111111111111111111111111112")).settle []) := by
  intro h
  obtain ⟨quote, hquote, hkeeps⟩ := h.returned (.object [
    ("swapTransaction", .string "unsigned"), ("quote", looseQuote),
    ("requiresWalletSignature", .bool true)]) rfl
  cases hquote
  cases hkeeps

end RwaAgents
