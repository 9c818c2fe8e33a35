import RwaAgents.Agents.Quicknode

/-!
# What a quote is checked for

Whatever the provider answers, a request that resolves returns a quote with the
mints and the amount of the request, and for a user a transaction the wallet still
has to sign (`metis_sound`).  In direct mode the second call posts that same quote.

Every proof is a case analysis over `MetisEnds`.  A request fails behind its first
call, or that call's reply passes every check on it and is `Accepted`.
-/

namespace RwaAgents

open JsonValue

/-- The quote answers the request: its mints and amount, and something comes out. -/
structure QuoteMatches (node : Web3Runtime) (input : MetisRequest) (quote : JsonValue) : Prop where
  inputMint : quote.own "inputMint" = some (.string input.inputMint)
  outputMint : quote.own "outputMint" = some (.string input.outputMint)
  inAmount : quote.own "inAmount" = some (.string input.amount)
  outAmount : ∃ n : ℕ, 0 < n ∧ textOf node.numberText (quote.own "outAmount") = .ok (toString n)
  swapMode : quote.own "swapMode" = some (.string "ExactIn")

section

variable {node : Web3Runtime} {provider : MetisProvider} {env : ProcessEnv} {input : MetisRequest}
  {userPublicKey : Option String} {base : String} {result quote transaction : JsonValue}

/-! ## The checks on a reply -/

/-- What has a property is an object, so it is not `null` or `false`. -/
theorem not_falsy_of_own {key : String} {v : JsonValue} (h : quote.own key = some v) :
    falsy quote = false := by
  cases quote with
  | object properties => rfl
  | null => cases h
  | bool value => cases h
  | number value => cases h
  | string value => cases h
  | array elements => cases h

theorem checkQuote_ok {found : Option JsonValue} :
    checkQuote node input found = .ok quote ↔
      found = some quote ∧ QuoteMatches node input quote := by
  cases found with
  | none => exact ⟨fun h => (by cases h), fun h => (by cases h.1)⟩
  | some value =>
      simp only [checkQuote, Except.guard_bind_eq_ok, Except.bind_eq_ok, Except.pure_eq_ok, not_or,
        not_not, isText_iff, Decimal.isPositive_iff, Option.some.injEq]
      constructor
      · intro h
        obtain ⟨⟨-, hinput, houtput, hamount⟩, text, htext, ⟨⟨n, hn, rfl⟩, hmode⟩, rfl⟩ := h
        exact ⟨rfl, hinput, houtput, hamount, ⟨n, hn, htext⟩, hmode⟩
      · intro h
        obtain ⟨rfl, hinput, houtput, hamount, ⟨n, hn, htext⟩, hmode⟩ := h
        refine ⟨⟨?_, hinput, houtput, hamount⟩, _, htext, ⟨⟨n, hn, rfl⟩, hmode⟩, rfl⟩
        rw [not_falsy_of_own hinput]
        exact Bool.false_ne_true

theorem checkTransaction_ok :
    checkTransaction transaction = .ok () ↔
      ∃ text, text ≠ "" ∧ transaction.own "swapTransaction" = some (.string text) := by
  rw [checkTransaction, Except.bind_eq_ok]
  constructor
  · intro h
    obtain ⟨value, hvalue, h⟩ := h
    split at h
    · next text =>
        refine ⟨text, ?_, property_eq_some.mp hvalue⟩
        intro hempty
        rw [if_pos hempty] at h
        cases h
    · cases h
  · intro h
    obtain ⟨text, hne, hown⟩ := h
    exact ⟨_, property_eq_some.mpr hown, if_neg hne⟩

theorem quoteIn_direct (hdirect : directMetis env = true) :
    quoteIn env result = .ok (some quote) ↔ result = quote := by
  rw [quoteIn, if_pos hdirect, Except.pure_eq_ok, Option.some.injEq]

theorem quoteIn_proxy (hdirect : directMetis env = false) :
    quoteIn env result = .ok (some quote) ↔ result.own "quote" = some quote := by
  rw [quoteIn, hdirect]
  exact property_eq_some

theorem quoteFrom_ok {reply : MetisReply} :
    quoteFrom node env input reply = .ok (result, quote) ↔
      reply.read = .ok result ∧ quoteIn env result = .ok (some quote) ∧
        QuoteMatches node input quote := by
  simp only [quoteFrom, Except.bind_eq_ok, Except.pure_eq_ok, checkQuote_ok, Prod.mk.injEq]
  constructor
  · intro h
    obtain ⟨_, hread, _, hfound, _, ⟨rfl, hmatches⟩, rfl, rfl⟩ := h
    exact ⟨hread, hfound, hmatches⟩
  · intro h
    exact ⟨result, h.1, _, h.2.1, quote, ⟨rfl, h.2.2⟩, rfl, rfl⟩

theorem swapFrom_ok {reply : MetisReply} :
    swapFrom reply = .ok transaction ↔
      reply.read = .ok transaction ∧ checkTransaction transaction = .ok () := by
  simp only [swapFrom, Except.bind_eq_ok, Except.pure_eq_ok]
  constructor
  · intro h
    obtain ⟨_, hread, _, hswap, rfl⟩ := h
    exact ⟨hread, hswap⟩
  · intro h
    exact ⟨transaction, h.1, (), h.2, rfl⟩

namespace Quoted

variable (h : Quoted node provider env input userPublicKey base result quote)

include h

theorem reply : (provider [firstCall node env base input userPublicKey]).read = .ok result :=
  (quoteFrom_ok.mp h.quote_eq).1

theorem quoteIn_eq : quoteIn env result = .ok (some quote) :=
  (quoteFrom_ok.mp h.quote_eq).2.1

theorem quote_matches : QuoteMatches node input quote :=
  (quoteFrom_ok.mp h.quote_eq).2.2

/-- The URLs start with the text the environment gives. -/
theorem metisPrefix_eq : metisPrefix node env = .ok base := by
  obtain ⟨_, -, hurls⟩ := Except.bind_eq_ok.mp h.base_eq
  exact hurls

/-- There is one first reply and one quote in it. -/
theorem unique {base' : String} {result' quote' : JsonValue}
    (h' : Quoted node provider env input userPublicKey base' result' quote') :
    base' = base ∧ result' = result ∧ quote' = quote := by
  cases h.base_eq.symm.trans h'.base_eq
  cases h.quote_eq.symm.trans h'.quote_eq
  exact ⟨rfl, rfl, rfl⟩

end Quoted

/-- The first reply passes every check that is made on it.  Through the proxy that
includes the transaction for a user. -/
def Accepted (node : Web3Runtime) (provider : MetisProvider) (env : ProcessEnv)
    (input : MetisRequest) (userPublicKey : Option String) (base : String)
    (result quote : JsonValue) : Prop :=
  Quoted node provider env input userPublicKey base result quote ∧
    (directMetis env = false → given userPublicKey ≠ none → checkTransaction result = .ok ())

/-! ## A run against any provider -/

/-- What comes back, the calls made for it, and what a caller may rely on. -/
structure MetisSound (node : Web3Runtime) (provider : MetisProvider) (env : ProcessEnv)
    (input : MetisRequest) (userPublicKey : Option String)
    (outcome : Except String JsonValue × List MetisCall) : Prop where
  calls_le : outcome.2.length ≤ 2
  quote : ∀ v, outcome.1 = .ok v → ∃ quote, v.own "quote" = some quote ∧
    QuoteMatches node input quote
  signature : ∀ v, outcome.1 = .ok v → ∀ user, userPublicKey = some user → user ≠ "" →
    v.own "requiresWalletSignature" = some (.bool true) ∧
      ∃ text, text ≠ "" ∧ v.own "swapTransaction" = some (.string text)
  /-- In direct mode a swap is the second call, behind a quote that passed the check. -/
  swap : directMetis env = true → ∀ base, metisPrefix node env = .ok base →
    ∀ earlier call later, outcome.2 = earlier ++ call :: later → call.url = base ++ "/swap" →
      ∃ quote, earlier.length = 1 ∧ (provider earlier).read = .ok quote ∧
        checkQuote node input (some quote) = .ok quote ∧
        call.body.bind (own "quoteResponse") = some quote ∧
        ∀ v, outcome.1 = .ok v → v.own "quote" = some quote

/-- The first call of direct mode asks for a quote, not for a swap. -/
theorem firstCall_url_ne (hdirect : directMetis env = true) :
    (firstCall node env base input userPublicKey).url ≠ base ++ "/swap" := by
  intro h
  rw [firstCall, hdirect] at h
  simp only [quoteCall, metisCall, String.append_assoc, String.append_right_inj] at h
  have hlist := congrArg String.toList h
  simp [String.toList_append] at hlist

theorem given_eq_some {text : Option String} {s : String} :
    given text = some s ↔ text = some s ∧ s ≠ "" := by
  simp [given, Option.filter_eq_some_iff]

namespace MetisEnds

variable {outcome : Except String JsonValue × List MetisCall}
  (h : MetisEnds node provider env input userPublicKey outcome)

include h

theorem calls_le : outcome.2.length ≤ 2 := by
  cases h <;> simp

/-- A request fails behind one call at most, or the first reply is accepted. -/
theorem failed_or_accepted :
    (∃ e, outcome.1 = .error e ∧ outcome.2.length ≤ 1) ∨
      ∃ base result q, Accepted node provider env input userPublicKey base result q ∧
        ∀ v, outcome.1 = .ok v → v.own "quote" = some q := by
  cases h with
  | refused => exact .inl ⟨_, rfl, Nat.zero_le 1⟩
  | unquoted => exact .inl ⟨_, rfl, Nat.le_refl 1⟩
  | proxyUnswapped => exact .inl ⟨_, rfl, Nat.le_refl 1⟩
  | quoted hquoted hdirect huser =>
      refine .inr ⟨_, _, _, ⟨hquoted, fun _ hgiven => absurd huser hgiven⟩, fun v hv => ?_⟩
      cases hv
      rfl
  | proxyQuoted hquoted hdirect huser =>
      refine .inr ⟨_, _, _, ⟨hquoted, fun _ hgiven => absurd huser hgiven⟩, fun v hv => ?_⟩
      cases hv
      exact (quoteIn_proxy hdirect).mp hquoted.quoteIn_eq
  | proxySwapped hquoted hdirect huser hswap =>
      refine .inr ⟨_, _, _, ⟨hquoted, fun _ _ => hswap⟩, fun v hv => ?_⟩
      cases hv
      have hquote := lookupIn_spread ((quoteIn_proxy hdirect).mp hquoted.quoteIn_eq)
      simpa [own_extend, OrderedMap.lookupIn_setIn] using hquote
  | unswapped hquoted hdirect =>
      refine .inr ⟨_, _, _, ⟨hquoted, fun hproxy => ?_⟩, fun v hv => (by cases hv)⟩
      cases hdirect.symm.trans hproxy
  | swapped hquoted hdirect =>
      refine .inr ⟨_, _, _, ⟨hquoted, fun hproxy => ?_⟩, fun v hv => ?_⟩
      · cases hdirect.symm.trans hproxy
      · cases hv
        simp [own_extend, OrderedMap.lookupIn_setIn]

/-- Once the first reply is accepted, the request resolves or goes on to the swap. -/
theorem not_failed {result q : JsonValue}
    (haccepted : Accepted node provider env input userPublicKey base result q) {e : String}
    (herror : outcome.1 = .error e) (hcalls : outcome.2.length ≤ 1) : False := by
  obtain ⟨hquoted, htransaction⟩ := haccepted
  cases h with
  | quoted | proxyQuoted | proxySwapped | swapped => cases herror
  | refused hbase => cases hbase.symm.trans hquoted.base_eq
  | unquoted hbase hquote =>
      cases hbase.symm.trans hquoted.base_eq
      cases hquote.symm.trans hquoted.quote_eq
  | proxyUnswapped hquoted' hdirect huser hswap =>
      obtain ⟨rfl, rfl, rfl⟩ := hquoted.unique hquoted'
      have hgiven : given userPublicKey ≠ none := by
        rw [huser]
        exact Option.some_ne_none _
      cases hswap.symm.trans (htransaction hdirect hgiven)
  | unswapped => simp at hcalls

theorem quote_matches {v : JsonValue} (hv : outcome.1 = .ok v) :
    ∃ q, v.own "quote" = some q ∧ QuoteMatches node input q := by
  rcases h.failed_or_accepted with ⟨e, herror, -⟩ | ⟨_, _, q, ⟨hquoted, -⟩, hreturned⟩
  · cases hv.symm.trans herror
  · exact ⟨q, hreturned v hv, hquoted.quote_matches⟩

/-- For a user, the result carries the flag and the transaction that was checked. -/
theorem signature {v : JsonValue} (hv : outcome.1 = .ok v) {user : String}
    (huser : given userPublicKey = some user) :
    v.own "requiresWalletSignature" = some (.bool true) ∧
      ∃ text, text ≠ "" ∧ v.own "swapTransaction" = some (.string text) := by
  cases h with
  | refused | unquoted | proxyUnswapped | unswapped => cases hv
  | quoted _ _ hnone | proxyQuoted _ _ hnone =>
      cases hnone.symm.trans huser
  | proxySwapped _ _ _ hswap =>
      cases hv
      obtain ⟨text, hne, hown⟩ := checkTransaction_ok.mp hswap
      simpa [own_extend, OrderedMap.lookupIn_setIn] using ⟨text, hne, lookupIn_spread hown⟩
  | swapped _ _ _ hswap =>
      cases hv
      obtain ⟨text, hne, hown⟩ := checkTransaction_ok.mp (swapFrom_ok.mp hswap).2
      simpa [own_extend, OrderedMap.lookupIn_setIn] using ⟨text, hne, lookupIn_spread hown⟩

/-- The quote that is returned is the one in the first reply. -/
theorem returned_quote {result q v : JsonValue}
    (hquoted : Quoted node provider env input userPublicKey base result q)
    (hv : outcome.1 = .ok v) : v.own "quote" = some q := by
  rcases h.failed_or_accepted with ⟨e, herror, -⟩ | ⟨_, _, q', ⟨hquoted', -⟩, hreturned⟩
  · cases hv.symm.trans herror
  · obtain ⟨-, -, rfl⟩ := hquoted.unique hquoted'
    exact hreturned v hv

/-- The calls are none, the first one, or the first one and the swap. -/
theorem calls_cases :
    outcome.2 = [] ∨
    (∃ base, metisPrefix node env = .ok base ∧
      outcome.2 = [firstCall node env base input userPublicKey]) ∨
    (∃ base result q user, Quoted node provider env input userPublicKey base result q ∧
      outcome.2 = [firstCall node env base input userPublicKey, swapCall base q user]) := by
  cases h with
  | refused => exact .inl rfl
  | unquoted hbase =>
      obtain ⟨_, -, hurls⟩ := Except.bind_eq_ok.mp hbase
      exact .inr (.inl ⟨_, hurls, rfl⟩)
  | quoted hquoted | proxyQuoted hquoted | proxyUnswapped hquoted | proxySwapped hquoted =>
      exact .inr (.inl ⟨_, hquoted.metisPrefix_eq, rfl⟩)
  | unswapped hquoted | swapped hquoted => exact .inr (.inr ⟨_, _, _, _, hquoted, rfl⟩)

/-- A call for a swap in direct mode comes second, behind the quote it posts. -/
theorem swap_quoted (hdirect : directMetis env = true) (hbase : metisPrefix node env = .ok base)
    {earlier later : List MetisCall} {call : MetisCall}
    (hcalls : outcome.2 = earlier ++ call :: later) (hurl : call.url = base ++ "/swap") :
    ∃ q, earlier.length = 1 ∧ (provider earlier).read = .ok q ∧
      checkQuote node input (some q) = .ok q ∧ call.body.bind (own "quoteResponse") = some q ∧
      ∀ v, outcome.1 = .ok v → v.own "quote" = some q := by
  rcases h.calls_cases with hnone | ⟨base', hbase', hfirst⟩ |
    ⟨base', result, q, user, hquoted, hboth⟩
  · rw [hnone] at hcalls
    simp at hcalls
  · cases hbase.symm.trans hbase'
    rw [hfirst] at hcalls
    cases earlier with
    | nil =>
        cases hcalls
        exact absurd hurl (firstCall_url_ne hdirect)
    | cons c cs => simp at hcalls
  · cases hbase.symm.trans hquoted.metisPrefix_eq
    rw [hboth] at hcalls
    cases earlier with
    | nil =>
        cases hcalls
        exact absurd hurl (firstCall_url_ne hdirect)
    | cons c cs =>
        cases cs with
        | nil =>
            cases hcalls
            have hresult := (quoteIn_direct hdirect).mp hquoted.quoteIn_eq
            have hreply := hquoted.reply
            rw [hresult] at hreply
            exact ⟨q, rfl, hreply, checkQuote_ok.mpr ⟨rfl, hquoted.quote_matches⟩, rfl,
              fun v hv => h.returned_quote hquoted hv⟩
        | cons d ds => simp at hcalls

end MetisEnds

end

/-- Whatever the provider answers, the caller gets a checked quote and an unsigned swap.
The quote that is posted is the value that is returned.  Where such a value holds a number
that is not finite, the text of both reads `null` there. -/
theorem metis_sound (node : Web3Runtime) (provider : MetisProvider) (env : ProcessEnv)
    (input : MetisRequest) (userPublicKey : Option String) :
    MetisSound node provider env input userPublicKey
      ((requestMetis node provider env input userPublicKey).settle []) := by
  have h := requestMetis_ends node provider env input userPublicKey
  constructor
  · exact h.calls_le
  · intro v hv
    exact h.quote_matches hv
  · intro v hv user huser hne
    exact h.signature hv (given_eq_some.mpr ⟨huser, hne⟩)
  · intro hdirect base hbase earlier call later hcalls hurl
    exact h.swap_quoted hdirect hbase hcalls hurl

end RwaAgents
