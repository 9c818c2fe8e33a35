import RwaAgents.Agents.Slippage

/-!
# What a request lets in and lets out

The amount of a request goes in exactly if it is the text of a positive `u64`
(`validAmount_iff`).

The add-on's URL holds a secret, and so may the texts of the errors a provider
throws.  Neither comes out: two requests in direct mode that differ in them alone
end the same way (`requestMetis_redacts`).  A direct request looks at a reply
through `MetisReply.read` only, and at the URL only to build its calls
(`settle_direct`).
-/

namespace RwaAgents

/-- The amount test accepts the texts of the numbers from 1 to the largest `u64` and
no others. -/
theorem validAmount_iff (amount : String) :
    validAmount amount = true ↔ ∃ n : ℕ, 1 ≤ n ∧ n ≤ 2 ^ 64 - 1 ∧ amount = toString n := by
  rw [validAmount, Bool.and_eq_true, Bool.and_eq_true, decide_eq_true_eq, decide_eq_true_eq,
    Decimal.isPositive_iff]
  constructor
  · intro h
    obtain ⟨⟨⟨n, hn, rfl⟩, -⟩, hbound⟩ := h
    rw [Decimal.value_toString] at hbound
    exact ⟨n, hn, hbound, rfl⟩
  · intro h
    obtain ⟨n, hn, hbound, rfl⟩ := h
    have hlength : (toString n).length ≤ 20 := by
      -- The largest `u64` has twenty digits.
      rw [Nat.toString_eq_repr, Nat.length_repr_le_iff (by omega)]
      omega
    rw [Decimal.value_toString]
    exact ⟨⟨⟨n, hn, rfl⟩, hlength⟩, hbound⟩

/-! ## Two runs -/

/-- The transports agree on whether they throw, on the status and on the body.  They
may throw different errors, and so may the parsers of two bodies that are not JSON. -/
def MetisReply.Agrees : MetisReply → MetisReply → Prop
  | exception _, exception _ => True
  | response status json, response status' json' =>
      status = status' ∧ json.toOption = json'.toOption
  | exception _, response _ _ => False
  | response _ _, exception _ => False

/-- Replies that agree are read alike. -/
theorem MetisReply.Agrees.read_eq {reply reply' : MetisReply} (h : reply.Agrees reply') :
    reply.read = reply'.read := by
  cases reply with
  | exception text =>
      cases reply' with
      | exception text' => rfl
      | response status' json' => exact h.elim
  | response status json =>
      cases reply' with
      | exception text' => exact h.elim
      | response status' json' =>
          obtain ⟨rfl, hjson⟩ := h
          simp only [MetisReply.read]
          split
          · rfl
          · cases json with
            | error e =>
                cases json' with
                | error e' => rfl
                | ok value' => cases hjson
            | ok value =>
                cases json' with
                | error e' => cases hjson
                | ok value' =>
                    cases hjson
                    rfl

/-- The environment names the add-on by a valid HTTPS URL. -/
def AddonUrl (node : Web3Runtime) (env : ProcessEnv) : Prop :=
  ∃ url base, env "QUICKNODE_METIS_URL" = some url ∧ url ≠ "" ∧ node.parseUrl url = .ok base ∧
    base.protocol = "https:"

section

variable {node : Web3Runtime} {env : ProcessEnv}

theorem AddonUrl.direct (h : AddonUrl node env) : directMetis env = true := by
  obtain ⟨url, base, henv, hne, -, -⟩ := h
  rw [directMetis, henv]
  simp [truthy, hne]

theorem AddonUrl.metisPrefix_ok (h : AddonUrl node env) :
    ∃ base, metisPrefix node env = .ok base := by
  have hdirect := h.direct
  obtain ⟨url, base, henv, hne, hparse, hprotocol⟩ := h
  refine ⟨dropTrailingSlash base.href ++ "", ?_⟩
  have hgiven : given (env "QUICKNODE_METIS_URL") = some url := by
    rw [henv, given, Option.filter_some]
    exact if_pos (decide_eq_true hne)
  rw [metisPrefix, hgiven, Option.some_or, Option.getD_some, hparse, Except.ok_bind, hdirect]
  simp only [hprotocol, ne_eq, not_true_eq_false, if_false]
  rfl

end

section

variable (node : Web3Runtime) (provider : MetisProvider) (env : ProcessEnv) (input : MetisRequest)
  (userPublicKey : Option String)

/-- How a request in direct mode ends, part by part. -/
theorem settle_direct (hdirect : directMetis env = true) :
    (requestMetis node provider env input userPublicKey).settle [] =
      match metisBase node env input userPublicKey with
      | .error e => (.error e, [])
      | .ok base =>
          let first := firstCall node env base input userPublicKey
          match quoteFrom node env input (provider [first]) with
          | .error e => (.error e, [first])
          | .ok (_, quote) =>
              match given userPublicKey with
              | none =>
                  (.ok (.object [("quote", quote), ("source", .string "quicknode-metis")]), [first])
              | some user =>
                  let calls := [first, swapCall base quote user]
                  match swapFrom (provider calls) with
                  | .error e => (.error e, calls)
                  | .ok transaction =>
                      (.ok (transaction.extend
                        [("quote", quote), ("requiresWalletSignature", .bool true)]), calls) := by
  have h := requestMetis_ends node provider env input userPublicKey
  generalize (requestMetis node provider env input userPublicKey).settle [] = outcome at h ⊢
  cases h with
  | refused hbase => simp only [hbase]
  | unquoted hbase hquote => simp only [hbase, hquote]
  | quoted hquoted _ huser => simp only [hquoted.base_eq, hquoted.quote_eq, huser]
  | proxyQuoted _ hproxy _ => exact absurd (hproxy.symm.trans hdirect) Bool.false_ne_true
  | proxyUnswapped _ hproxy _ _ => exact absurd (hproxy.symm.trans hdirect) Bool.false_ne_true
  | proxySwapped _ hproxy _ _ => exact absurd (hproxy.symm.trans hdirect) Bool.false_ne_true
  | unswapped hquoted _ huser hswap =>
      simp only [hquoted.base_eq, hquoted.quote_eq, huser, hswap]
  | swapped hquoted _ huser hswap =>
      simp only [hquoted.base_eq, hquoted.quote_eq, huser, hswap]

variable {node env input userPublicKey}

/-- A direct request that passes its checks makes the first call. -/
theorem calls_of_base (hdirect : directMetis env = true) {base : String}
    (hbase : metisBase node env input userPublicKey = .ok base) :
    ∃ rest, ((requestMetis node provider env input userPublicKey).settle []).2 =
      firstCall node env base input userPublicKey :: rest := by
  rw [settle_direct _ _ _ _ _ hdirect]
  simp only [hbase]
  cases quoteFrom node env input (provider [firstCall node env base input userPublicKey]) with
  | error e => exact ⟨[], rfl⟩
  | ok found =>
      cases given userPublicKey with
      | none => exact ⟨[], rfl⟩
      | some user =>
          dsimp only
          cases swapFrom (provider [firstCall node env base input userPublicKey,
              swapCall base found.2 user]) with
          | error e => exact ⟨[swapCall base found.2 user], rfl⟩
          | ok transaction => exact ⟨[swapCall base found.2 user], rfl⟩

variable {provider}

/-- With a quote and the key of a user it makes the second one too. -/
theorem calls_of_quote (hdirect : directMetis env = true) {base user : String}
    {result quote : JsonValue}
    (hquoted : Quoted node provider env input userPublicKey base result quote)
    (huser : given userPublicKey = some user) :
    ((requestMetis node provider env input userPublicKey).settle []).2 =
      [firstCall node env base input userPublicKey, swapCall base quote user] := by
  rw [settle_direct _ _ _ _ _ hdirect]
  simp only [hquoted.base_eq, hquoted.quote_eq, huser]
  cases swapFrom (provider [firstCall node env base input userPublicKey,
      swapCall base quote user]) with
  | error e => rfl
  | ok transaction => rfl

end

/-- In direct mode the quote of a reply depends on what is read of the reply. -/
theorem quoteFrom_congr {node : Web3Runtime} {env env' : ProcessEnv} {input : MetisRequest}
    {reply reply' : MetisReply} (hdirect : directMetis env = true)
    (hdirect' : directMetis env' = true) (h : reply.Agrees reply') :
    quoteFrom node env input reply = quoteFrom node env' input reply' := by
  simp only [quoteFrom, quoteIn, hdirect, hdirect', h.read_eq]

theorem swapFrom_congr {reply reply' : MetisReply} (h : reply.Agrees reply') :
    swapFrom reply = swapFrom reply' := by
  rw [swapFrom, swapFrom, h.read_eq]

/-- The transports agree on each call that both requests make.  A reply may depend on
all calls up to its own. -/
def AgreeCallByCall (provider provider' : MetisProvider) (calls calls' : List MetisCall) : Prop :=
  ∀ k, 0 < k → k ≤ calls.length → k ≤ calls'.length →
    (provider (calls.take k)).Agrees (provider' (calls'.take k))

section

variable {node : Web3Runtime} {env env' : ProcessEnv} (henv : AddonUrl node env)
  (henv' : AddonUrl node env') {provider provider' : MetisProvider} {input : MetisRequest}
  {userPublicKey : Option String}
  (hagree : AgreeCallByCall provider provider'
    ((requestMetis node provider env input userPublicKey).settle []).2
    ((requestMetis node provider' env' input userPublicKey).settle []).2)

include henv henv' hagree

/-- Both requests find the same quote, or neither finds one, for the same reason. -/
theorem quoteFrom_eq {base base' : String}
    (hbase : metisBase node env input userPublicKey = .ok base)
    (hbase' : metisBase node env' input userPublicKey = .ok base') :
    quoteFrom node env input (provider [firstCall node env base input userPublicKey]) =
      quoteFrom node env' input (provider' [firstCall node env' base' input userPublicKey]) := by
  obtain ⟨rest, hcalls⟩ := calls_of_base provider henv.direct hbase
  obtain ⟨rest', hcalls'⟩ := calls_of_base provider' henv'.direct hbase'
  rw [hcalls, hcalls'] at hagree
  exact quoteFrom_congr henv.direct henv'.direct (hagree 1 (by omega) (by simp) (by simp))

/-- Both requests get the same transaction for their quote, or fail alike. -/
theorem swapFrom_eq {base base' user : String} {result result' quote : JsonValue}
    (hquoted : Quoted node provider env input userPublicKey base result quote)
    (hquoted' : Quoted node provider' env' input userPublicKey base' result' quote)
    (huser : given userPublicKey = some user) :
    swapFrom (provider [firstCall node env base input userPublicKey,
        swapCall base quote user]) =
      swapFrom (provider' [firstCall node env' base' input userPublicKey,
        swapCall base' quote user]) := by
  rw [calls_of_quote henv.direct hquoted huser,
    calls_of_quote henv'.direct hquoted' huser] at hagree
  exact swapFrom_congr (hagree 2 (by omega) (by simp) (by simp))

end

/-- Two requests in direct mode that differ only in the add-on's URL and in the errors
their transports throw return the same value or throw the same text. -/
theorem requestMetis_redacts {node : Web3Runtime} {env env' : ProcessEnv}
    (henv : AddonUrl node env) (henv' : AddonUrl node env') {provider provider' : MetisProvider}
    {input : MetisRequest} {userPublicKey : Option String}
    (hagree : AgreeCallByCall provider provider'
      ((requestMetis node provider env input userPublicKey).settle []).2
      ((requestMetis node provider' env' input userPublicKey).settle []).2) :
    ((requestMetis node provider env input userPublicKey).settle []).1 =
      ((requestMetis node provider' env' input userPublicKey).settle []).1 := by
  rw [settle_direct _ _ _ _ _ henv.direct, settle_direct _ _ _ _ _ henv'.direct]
  cases hcheck : checkRequest node input userPublicKey with
  | error e => simp only [metisBase, hcheck, Except.error_bind]
  | ok _ =>
      obtain ⟨base, hurls⟩ := henv.metisPrefix_ok
      obtain ⟨base', hurls'⟩ := henv'.metisPrefix_ok
      have hbase : metisBase node env input userPublicKey = .ok base := by
        rw [metisBase, hcheck, Except.ok_bind, hurls]
      have hbase' : metisBase node env' input userPublicKey = .ok base' := by
        rw [metisBase, hcheck, Except.ok_bind, hurls']
      have hfirst := quoteFrom_eq henv henv' hagree hbase hbase'
      cases hquote : quoteFrom node env input
          (provider [firstCall node env base input userPublicKey]) with
      | error e => simp only [hbase, hbase', hquote, ← hfirst]
      | ok found =>
          obtain ⟨result, quote⟩ := found
          have hquote' := hfirst ▸ hquote
          cases huser : given userPublicKey with
          | none => simp only [hbase, hbase', hquote, hquote']
          | some user =>
              have hsecond := swapFrom_eq henv henv' hagree ⟨hbase, hquote⟩ ⟨hbase', hquote'⟩ huser
              simp only [hbase, hbase', hquote, hquote', hsecond]
              cases swapFrom (provider' [firstCall node env' base' input userPublicKey,
                  swapCall base' quote user]) with
              | error e => rfl
              | ok transaction => rfl

/-- An environment whose add-on has a secret in its URL. -/
def secretMetisEnv : ProcessEnv
  | "QUICKNODE_METIS_URL" => some "https://example.org/secret-key"
  | _ => none

/-- A provider that quotes and then fails with a text of its own. -/
def failingProvider (text : String) (calls : List MetisCall) : MetisReply :=
  if calls.length = 1 then .response 200 (.ok looseQuote) else .exception text

/-- Neither the URL nor the text of the failed swap comes out. -/
theorem requestMetis_redacts_failing :
    ((requestMetis sampleWeb3 (failingProvider "connect example.com") sampleMetisEnv
        sampleMetisRequest (some "So11111111111111111111111111111111111111112")).settle []).1 =
      ((requestMetis sampleWeb3 (failingProvider "reset by example.org/secret-key") secretMetisEnv
        sampleMetisRequest (some "So11111111111111111111111111111111111111112")).settle []).1 := by
  refine requestMetis_redacts
    ⟨"https://example.com/addon", ⟨"https:", "https://example.com/addon"⟩, rfl, by decide, rfl, rfl⟩
    ⟨"https://example.org/secret-key", ⟨"https:", "https://example.org/secret-key"⟩, rfl,
      by decide, rfl, rfl⟩ ?_
  intro k _ hk hk'
  simp only [failingProvider, List.length_take_of_le hk, List.length_take_of_le hk']
  split
  · exact ⟨rfl, rfl⟩
  · trivial

end RwaAgents
