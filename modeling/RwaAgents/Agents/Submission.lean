import RwaAgents.Agents.LaunchOnce
import RwaAgents.Agents.Quicknode

/-!
# Submitting a launch

`submitGenesisLaunch` of `agents/launch.ts`.  Nothing is sent unless `execute` is
set.  What is sent is the JSON form of the payload, and by the time the reply is
looked at the request is out: a submission that throws may still have set the token
of the agent.  The body of the reply is parsed before its status is checked.

A *client* interleaves a session with submissions of the payloads it shaped, under
any replies.  A submission sends its request exactly if it is executed, whatever comes
back, and over a run every request carries a payload that a launch returned, in the order
of the submissions (`requests_run`).  The endpoint is asked for the token of an agent at
most once if the launches of the session keep to recorded values and no payload is
executed twice (`one_request_per_agent`).
-/

namespace RwaAgents

def metaplexApiBase : String := "https://api.metaplex.com"

def genesisLaunchPath : String := "/v1/genesis/launch"

def genesisLaunchUrl : String := metaplexApiBase ++ genesisLaunchPath

/-! ## The payload as JSON -/

/-- An optional text is left out where it is `undefined`. -/
def optionalText (key : String) (text : Option String) : List (String × JsonValue) :=
  (text.map fun t => (key, .string t)).toList

def GenesisTokenLinks.toJson (links : GenesisTokenLinks) : JsonValue :=
  .object (optionalText "website" links.website ++ optionalText "twitter" links.twitter ++
    optionalText "telegram" links.telegram)

def GenesisTokenInput.toJson (token : GenesisTokenInput) : JsonValue :=
  .object ([("name", .string token.name), ("symbol", .string token.symbol),
    ("image", .string token.image)] ++ optionalText "description" token.description ++
    (token.externalLinks.map fun links => ("externalLinks", links.toJson)).toList)

def GenesisLaunchAgent.toJson (agent : GenesisLaunchAgent) : JsonValue :=
  .object [("mint", .string agent.mint), ("setToken", .bool agent.setToken)]

/-- A payload, given the entries of its `launch`. -/
def GenesisLaunchPayload.json {υ : Type} (payload : GenesisLaunchPayload υ)
    (launch : List (String × JsonValue)) : JsonValue :=
  .object ([("wallet", .string payload.wallet), ("agent", payload.agent.toJson),
    ("launchType", .string payload.launchType), ("token", payload.token.toJson),
    ("launch", .object launch)] ++ optionalText "network" payload.network)

section

variable {υ : Type} (stringify : υ → Except String (Option JsonValue))

/-- The entries that have a JSON form.  A value without one is left out, or throws. -/
def jsonEntries : List (String × υ) → Except String (List (String × JsonValue))
  | [] => return []
  | (key, value) :: es => do
      let value ← stringify value
      let es ← jsonEntries es
      return (value.map (key, ·)).toList ++ es

/-- `JSON.stringify`, up to the text. -/
def GenesisLaunchPayload.toJson (payload : GenesisLaunchPayload υ) : Except String JsonValue := do
  let launch ← jsonEntries stringify payload.launch.entries
  return payload.json launch

end

/-! ## One submission -/

structure GenesisCall where
  url : String
  method : String
  headers : List (String × String)
  body : JsonValue

def genesisCall (url : Option String) (body : JsonValue) : GenesisCall where
  url := url.getD genesisLaunchUrl
  method := "POST"
  headers := [("Content-Type", "application/json")]
  body

/-- What `fetch` comes to: it throws, or there is a response. -/
abbrev GenesisReply := MetisReply

def readLaunch : GenesisReply → Except String JsonValue
  | .exception text => throw text
  | .response status json => do
      let body ← json
      if status < 200 ∨ 299 < status then
        throw s!"Genesis launch request failed ({status})"
      return body

structure SubmitLaunchOptions where
  fetch : GenesisCall → GenesisReply
  execute : Option Bool := none
  url : Option String := none

structure GenesisSubmission (υ : Type) where
  payload : GenesisLaunchPayload υ
  submitted : Bool
  response : Option JsonValue := none

section

variable {υ : Type} (stringify : υ → Except String (Option JsonValue))

/-- The state is the requests sent. -/
def submitGenesisLaunch (payload : GenesisLaunchPayload υ) (options : SubmitLaunchOptions) :
    EStateM String (List GenesisCall) (GenesisSubmission υ) := do
  if options.execute ≠ some true then
    return { payload, submitted := false }
  let body ← MonadExcept.ofExcept (payload.toJson stringify)
  let call := genesisCall options.url body
  modify (· ++ [call])
  let response ← MonadExcept.ofExcept (readLaunch (options.fetch call))
  return { payload, submitted := true, response := some response }

/-- The request a submission sends, if it sends one. -/
def launchRequest (payload : GenesisLaunchPayload υ) (options : SubmitLaunchOptions) :
    Option GenesisCall :=
  if options.execute = some true then
    (payload.toJson stringify).toOption.map (genesisCall options.url)
  else none

/-- Whatever comes back, the request is out. -/
theorem submitGenesisLaunch_calls (payload : GenesisLaunchPayload υ)
    (options : SubmitLaunchOptions) (calls : List GenesisCall) :
    ((submitGenesisLaunch stringify payload options).settle calls).2 =
      calls ++ (launchRequest stringify payload options).toList := by
  rw [submitGenesisLaunch, launchRequest]
  by_cases hexecute : options.execute = some true
  · simp only [hexecute, ne_eq, not_true_eq_false, if_false, if_true]
    rw [EStateM.settle_ofExcept_bind]
    cases payload.toJson stringify with
    | error e => simp [Except.toOption]
    | ok body =>
        simp only [EStateM.settle, EStateM.run_bind, EStateM.run_modify, EStateM.run_ofExcept]
        cases readLaunch (options.fetch (genesisCall options.url body)) <;> rfl
  · simp only [hexecute, ne_eq, not_false_eq_true, if_true, if_false]
    exact (List.append_nil calls).symm

/-- A request is sent if the submission is executed and the payload has a JSON form. -/
theorem launchRequest_isSome {payload : GenesisLaunchPayload υ} {options : SubmitLaunchOptions} :
    (launchRequest stringify payload options).isSome ↔
      options.execute = some true ∧ ∃ body, payload.toJson stringify = .ok body := by
  rw [launchRequest]
  split
  · next hexecute =>
    cases payload.toJson stringify with
    | error e => simp [Except.toOption]
    | ok body => simp [Except.toOption, hexecute]
  · next hexecute => simp [hexecute]

/-- A submission that returns says whether it sent its request. -/
theorem submitGenesisLaunch_submitted {payload : GenesisLaunchPayload υ}
    {options : SubmitLaunchOptions} {calls : List GenesisCall} {submission : GenesisSubmission υ}
    (h : ((submitGenesisLaunch stringify payload options).settle calls).1 = .ok submission) :
    submission.payload = payload ∧
      (submission.submitted = true ↔ (launchRequest stringify payload options).isSome) := by
  rw [submitGenesisLaunch] at h
  rw [launchRequest]
  by_cases hexecute : options.execute = some true
  · simp only [hexecute, ne_eq, not_true_eq_false, if_false] at h
    rw [EStateM.settle_ofExcept_bind] at h
    cases hbody : payload.toJson stringify with
    | error e => rw [hbody] at h; cases h
    | ok body =>
        rw [hbody] at h
        simp only [EStateM.settle, EStateM.run_bind, EStateM.run_modify, EStateM.run_ofExcept] at h
        cases hreply : readLaunch (options.fetch (genesisCall options.url body)) with
        | error e => rw [hreply] at h; cases h
        | ok response =>
            rw [hreply] at h
            cases h
            simp [Except.toOption, hexecute]
  · simp only [hexecute, ne_eq, not_false_eq_true, if_true] at h
    cases h
    simp [hexecute]

end

/-! ## Runs of a client -/

/-- A session, the payloads its launches returned and the requests sent, each oldest
first. -/
structure Client (υ : Type) where
  session : Session
  payloads : List (GenesisLaunchPayload υ)
  calls : List GenesisCall

inductive ClientOp (υ : Type)
  | session (op : SessionOp υ)
  | submit (source : ℕ) (options : SubmitLaunchOptions)

inductive ClientReply (υ : Type)
  | session (reply : SessionReply υ)
  | submission (submission : GenesisSubmission υ)

abbrev ClientAnswer (υ : Type) := Except String (ClientReply υ)

/-- The payload an operation of a session returned. -/
def SessionAnswer.payload? {υ : Type} : SessionAnswer υ → Option (GenesisLaunchPayload υ)
  | .ok (.payload payload) => some payload
  | _ => none

def ClientOp.session? {υ : Type} : ClientOp υ → Option (SessionOp υ)
  | session op => some op
  | submit _ _ => none

section

variable {υ : Type} (umi : Umi) (stringify : υ → Except String (Option JsonValue))

def Client.empty : Client υ := ⟨.empty, [], []⟩

def clientStep (client : Client υ) : ClientOp υ → Client υ × ClientAnswer υ
  | .session op =>
      let r := sessionStep umi client.session op
      ({ client with session := r.1, payloads := client.payloads ++ r.2.payload?.toList },
        r.2.map .session)
  | .submit source options =>
      match client.payloads[source]? with
      | some payload =>
          let r := (submitGenesisLaunch stringify payload options).settle client.calls
          ({ client with calls := r.2 }, r.1.map .submission)
      | none => (client, .error "no such payload")

def clientMachine : Machine (Client υ) (ClientOp υ) (ClientAnswer υ) :=
  ⟨(· = .empty), clientStep umi stringify⟩

abbrev ClientStep (υ : Type) := Machine.Step (Client υ) (ClientOp υ) (ClientAnswer υ)

/-- The request of a step, and the place of its payload. -/
def ClientStep.request (e : ClientStep υ) : Option (ℕ × GenesisCall) :=
  match e.action with
  | .submit source options =>
      (e.before.payloads[source]?).bind fun payload =>
        (launchRequest stringify payload options).map (source, ·)
  | .session _ => none

/-- A submission leaves the session alone. -/
theorem clientMachine_embedding :
    (clientMachine umi stringify).Embedding (sessionMachine umi) Client.session
      ClientOp.session? where
  moves client op c hop := by
    cases op with
    | session op => cases hop; rfl
    | submit source options => cases hop
  stays client op hop := by
    cases op with
    | session op => cases hop
    | submit source options =>
        change (clientStep umi stringify client (.submit source options)).1.session = client.session
        rw [clientStep]
        split <;> rfl

/-- The session operations of a run. -/
def sessionOps (ops : List (ClientOp υ)) : List (SessionOp υ) := ops.filterMap ClientOp.session?

theorem Client.payloads_run (client : Client υ) (ops : List (ClientOp υ)) :
    ((clientMachine umi stringify).run client ops).payloads = client.payloads ++
      Machine.events SessionAnswer.payload?
        ((sessionMachine umi).steps client.session (sessionOps ops)) := by
  rw [sessionOps, (clientMachine_embedding umi stringify).steps, Machine.events,
    List.filterMap_filterMap]
  refine Machine.log_run (fun client op => ?_) client ops
  cases op with
  | session op => rfl
  | submit source options =>
      change (clientStep umi stringify client (.submit source options)).1.payloads = _
      rw [clientStep]
      split <;> exact (List.append_nil _).symm

theorem Client.calls_run (client : Client υ) (ops : List (ClientOp υ)) :
    ((clientMachine umi stringify).run client ops).calls = client.calls ++
      (((clientMachine umi stringify).steps client ops).filterMap
        (ClientStep.request stringify)).map Prod.snd := by
  rw [List.map_filterMap]
  refine Machine.log_run (fun client op => ?_) client ops
  cases op with
  | session op => exact (List.append_nil _).symm
  | submit source options =>
      change (clientStep umi stringify client (.submit source options)).1.calls = _
      simp only [clientStep, ClientStep.request, Machine.stepAt]
      cases client.payloads[source]? with
      | none => exact (List.append_nil _).symm
      | some payload =>
          simp only [submitGenesisLaunch_calls, Option.bind_some, Option.map_map]
          cases launchRequest stringify payload options <;> rfl

end

/-! ## What the endpoint is asked for -/

/-- Does a request ask for the token of the agent to be set? -/
def GenesisCall.setsToken (a : String) (call : GenesisCall) : Bool :=
  (call.body.own "agent").any fun agent =>
    JsonValue.isText a (agent.own "mint") && !JsonValue.falsy (agent.own "setToken")

def GenesisLaunchPayload.setsToken {υ : Type} (a : String) (payload : GenesisLaunchPayload υ) :
    Bool :=
  payload.agent.mint = a ∧ payload.agent.setToken = true

section

variable {υ : Type} {stringify : υ → Except String (Option JsonValue)}

theorem GenesisLaunchPayload.own_agent {payload : GenesisLaunchPayload υ} {body : JsonValue}
    (h : payload.toJson stringify = .ok body) :
    body.own "agent" = some payload.agent.toJson := by
  obtain ⟨launch, -, hbody⟩ := Except.bind_eq_ok.mp h
  cases hbody
  rfl

theorem GenesisLaunchAgent.own_toJson (agent : GenesisLaunchAgent) :
    agent.toJson.own "mint" = some (.string agent.mint) ∧
      agent.toJson.own "setToken" = some (.bool agent.setToken) :=
  ⟨rfl, rfl⟩

/-- A request asks for what its payload says. -/
theorem setsToken_of_launchRequest {payload : GenesisLaunchPayload υ}
    {options : SubmitLaunchOptions} {call : GenesisCall}
    (h : launchRequest stringify payload options = some call) (a : String) :
    call.setsToken a = payload.setsToken a := by
  rw [launchRequest] at h
  split at h
  · cases hjson : payload.toJson stringify with
    | error e => rw [hjson] at h; cases h
    | ok body =>
    rw [hjson] at h
    cases h
    obtain ⟨hmint, hset⟩ := payload.agent.own_toJson
    rw [GenesisCall.setsToken, genesisCall, GenesisLaunchPayload.own_agent hjson, Option.any_some,
      hmint, hset]
    simp [JsonValue.isText, JsonValue.falsy, GenesisLaunchPayload.setsToken]
  · cases h

theorem tokenPayloads_eq_filter (a : String) (es : List (SessionStep υ)) :
    tokenPayloads a es =
      (Machine.events SessionAnswer.payload? es).filter (GenesisLaunchPayload.setsToken a) := by
  rw [tokenPayloads, Machine.events, List.filter_filterMap]
  congr 1
  funext e
  rw [SessionStep.setsToken]
  cases e.output with
  | error text => rfl
  | ok reply =>
      cases reply with
      | pairings vs => rfl
      | payload payload =>
          simp [SessionAnswer.payload?, GenesisLaunchPayload.setsToken, Option.filter]

end

/-- Two places with a mark that is set at most once are the same. -/
theorem eq_of_countP_le_one {α : Type*} {p : α → Bool} {l : List α} (h : l.countP p ≤ 1)
    {i j : ℕ} {x y : α} (hi : l[i]? = some x) (hj : l[j]? = some y) (hx : p x = true)
    (hy : p y = true) : i = j := by
  induction l generalizing i j with
  | nil => cases hi
  | cons b bs ih =>
      rw [List.countP_cons] at h
      have hpos : ∀ {k : ℕ} {z : α}, bs[k]? = some z → p z = true → 0 < bs.countP p :=
        fun hk hz => List.countP_pos_iff.mpr ⟨_, List.mem_of_getElem? hk, hz⟩
      match i, j with
      | 0, 0 => rfl
      | 0, j + 1 =>
          cases hi
          have := hpos hj hy
          rw [if_pos hx] at h
          omega
      | i + 1, 0 =>
          cases hj
          have := hpos hi hx
          rw [if_pos hy] at h
          omega
      | i + 1, j + 1 => rw [ih (by omega) hi hj]

theorem length_le_one_of_nodup {α : Type*} {l : List α} (h : l.Nodup)
    (heq : ∀ x ∈ l, ∀ y ∈ l, x = y) : l.length ≤ 1 := by
  match l with
  | [] => exact Nat.zero_le 1
  | [x] => exact Nat.le_refl 1
  | x :: y :: l =>
      exact absurd (heq x (by simp) y (by simp))
        (List.ne_of_not_mem_cons (List.nodup_cons.mp h).1)

section

variable {υ : Type} (umi : Umi) (stringify : υ → Except String (Option JsonValue))

/-- The places of the payloads a run executes. -/
def executed (ops : List (ClientOp υ)) : List ℕ :=
  (((clientMachine umi stringify).steps .empty ops).filterMap (ClientStep.request stringify)).map
    Prod.fst

variable {umi stringify}

/-- The payloads of a prefix keep their places. -/
theorem Client.payloads_of_mem_steps {ops : List (ClientOp υ)} {e : ClientStep υ}
    (he : e ∈ (clientMachine umi stringify).steps .empty ops) {i : ℕ}
    {payload : GenesisLaunchPayload υ} (h : e.before.payloads[i]? = some payload) :
    ((clientMachine umi stringify).run .empty ops).payloads[i]? = some payload := by
  obtain ⟨pre, op, post, rfl, rfl⟩ := Machine.mem_steps he
  obtain ⟨hi, -⟩ := List.getElem?_eq_some_iff.mp h
  rw [Machine.run_append, Client.payloads_run]
  exact (List.getElem?_append_left hi).trans h

/-- The payload of a request, where the run ends. -/
theorem ClientStep.payload_of_request {ops : List (ClientOp υ)} {i : ℕ} {call : GenesisCall}
    (h : (i, call) ∈ ((clientMachine umi stringify).steps .empty ops).filterMap
      (ClientStep.request stringify)) :
    ∃ payload options,
      ((clientMachine umi stringify).run .empty ops).payloads[i]? = some payload ∧
        launchRequest stringify payload options = some call := by
  obtain ⟨e, he, hrequest⟩ := List.mem_filterMap.mp h
  rw [ClientStep.request] at hrequest
  split at hrequest
  · obtain ⟨payload, hpayload, hcall⟩ := Option.bind_eq_some_iff.mp hrequest
    obtain ⟨call', hcall', heq⟩ := Option.map_eq_some_iff.mp hcall
    cases heq
    exact ⟨payload, _, Client.payloads_of_mem_steps he hpayload, hcall'⟩
  · cases hrequest

/-- A submission sends its request exactly if it is executed and the payload has a JSON
form, whatever comes back, and one that returns says whether it did.  Over a run, the
requests are the executed submissions in order, every one carries a payload that a launch of
the session returned, and submitting leaves the session as its own operations leave it. -/
theorem requests_run (umi : Umi) (stringify : υ → Except String (Option JsonValue))
    (ops : List (ClientOp υ)) :
    let client := (clientMachine umi stringify).run .empty ops
    let requests := ((clientMachine umi stringify).steps .empty ops).filterMap
      (ClientStep.request stringify)
    (∀ payload options calls,
      let submission := (submitGenesisLaunch stringify payload options).settle calls
      let request := launchRequest stringify payload options
      submission.2 = calls ++ request.toList ∧
        (request.isSome ↔
          options.execute = some true ∧ ∃ body, payload.toJson stringify = .ok body) ∧
        ∀ returned, submission.1 = .ok returned →
          returned.payload = payload ∧ (returned.submitted = true ↔ request.isSome)) ∧
      client.session = (sessionMachine umi).run .empty (sessionOps ops) ∧
      client.calls = requests.map Prod.snd ∧
      ∀ i call, (i, call) ∈ requests → ∃ payload options,
        (Machine.events SessionAnswer.payload?
          ((sessionMachine umi).steps .empty (sessionOps ops)))[i]? = some payload ∧
          launchRequest stringify payload options = some call := by
  refine ⟨fun payload options calls => ⟨?_, ?_, fun returned h => ?_⟩, ?_, ?_,
    fun i call hmem => ?_⟩
  · exact submitGenesisLaunch_calls stringify payload options calls
  · exact launchRequest_isSome stringify
  · exact submitGenesisLaunch_submitted stringify h
  · exact (clientMachine_embedding umi stringify).run .empty ops
  · exact Client.calls_run umi stringify .empty ops
  · obtain ⟨payload, options, hpayload, hcall⟩ := ClientStep.payload_of_request hmem
    rw [Client.payloads_run] at hpayload
    exact ⟨payload, options, hpayload, hcall⟩

/-- The endpoint is asked at most once for the token of an agent, whatever it answers, if
the launches after the first take recorded values and no payload is executed twice. -/
theorem one_request_per_agent {ops : List (ClientOp υ)}
    (hlaunch : LaunchesFromRecorded ((sessionMachine umi).steps .empty (sessionOps ops)))
    (hexecuted : (executed umi stringify ops).Nodup) (a : String) :
    (((clientMachine umi stringify).run .empty ops).calls.filter
      (GenesisCall.setsToken a)).length ≤ 1 := by
  have hcount : ((clientMachine umi stringify).run .empty ops).payloads.countP
      (GenesisLaunchPayload.setsToken a) ≤ 1 := by
    have hone := tokenPayloads_length_le_one hlaunch a
    rw [tokenPayloads_eq_filter, ← List.countP_eq_length_filter] at hone
    rw [Client.payloads_run]
    exact hone
  rw [Client.calls_run]
  change (List.filter _ (List.map _ _)).length ≤ 1
  rw [List.filter_map, List.length_map, ← List.length_map Prod.fst]
  refine length_le_one_of_nodup ?_ fun i hi j hj => ?_
  · exact hexecuted.sublist (List.filter_sublist.map _)
  · obtain ⟨⟨i, call⟩, hmem, rfl⟩ := List.mem_map.mp hi
    obtain ⟨⟨j, call'⟩, hmem', rfl⟩ := List.mem_map.mp hj
    obtain ⟨hin, hcall : call.setsToken a = true⟩ := List.mem_filter.mp hmem
    obtain ⟨hin', hcall' : call'.setsToken a = true⟩ := List.mem_filter.mp hmem'
    obtain ⟨payload, options, hpayload, hrequest⟩ := ClientStep.payload_of_request hin
    obtain ⟨payload', options', hpayload', hrequest'⟩ := ClientStep.payload_of_request hin'
    have hsets := (setsToken_of_launchRequest hrequest a).symm.trans hcall
    have hsets' := (setsToken_of_launchRequest hrequest' a).symm.trans hcall'
    exact eq_of_countP_le_one hcount hpayload hpayload' hsets hsets'

end

instance {υ : Type} (a : String) (es : List (SessionStep υ)) : Decidable (AskedUnrecorded a es) :=
  inferInstanceAs (Decidable (∃ e ∈ es, ∃ value ∈ e.asksToken,
    value.pairing.agentAsset = a ∧ value.recorded = false))

instance {υ : Type} (es : List (SessionStep υ)) : Decidable (LaunchesFromRecorded es) :=
  decidable_of_iff (∀ i : Fin es.length, ∀ value ∈ (es.get i).asksToken,
    AskedUnrecorded value.pairing.agentAsset (es.take i) → value.recorded = true) <| by
      constructor
      · intro h pre e post hes value hvalue hpre
        subst hes
        have hi : pre.length < (pre ++ e :: post).length := by simp
        have := h ⟨pre.length, hi⟩ value (by simpa using hvalue)
        exact this (by simpa using hpre)
      · intro h i value hvalue hpre
        refine h (es.take i) (es.get i) (es.drop (i + 1)) ?_ value hvalue hpre
        simp

/-- The endpoint is down. -/
def unavailable : SubmitLaunchOptions where
  fetch _ := .response 503 (.ok (.object []))
  execute := some true

/-- A launch is submitted and the submission throws.  The token is bound all the same, and
the next launch takes the value that says so. -/
def submitOnce : List (ClientOp JsonValue) := [
  .session (.pairAgentWithRwa {
    agentAsset := .key "agent-a", rwaAsset := .key "rwa-x", rwaAssetId := .key "id-x" }),
  .session (.launch 0 sampleToken {}),
  .submit 0 unavailable,
  .session (.registry (.bindAgentToken "agent-a" "token-a")),
  .session (.registry (.getByAgent "agent-a")),
  .session (.launch 2 sampleToken {})]

theorem one_request_per_agent_unavailable :
    (((clientMachine sampleUmi fun v => .ok (some v)).run .empty submitOnce).calls.filter
      (GenesisCall.setsToken "agent-a")).length ≤ 1 :=
  one_request_per_agent (by decide) (by decide) "agent-a"

/-- A submission that threw is tried again. -/
example :
    (((clientMachine sampleUmi fun v => .ok (some v)).run .empty
      (submitOnce ++ [.submit 0 unavailable])).calls.filter
        (GenesisCall.setsToken "agent-a")).length = 2 := by decide

end RwaAgents
