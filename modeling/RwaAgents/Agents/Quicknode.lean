import RwaAgents.Library.Decimal
import RwaAgents.Library.Effect
import RwaAgents.Agents.Types

/-!
# Quotes and swaps from Metis

`requestMetis` of `agents/quicknode.ts`.  It asks a provider for a quote, and for an
unsigned swap when a user key is given.  In direct mode (`QUICKNODE_METIS_URL` is
set) the provider is the add-on, and the swap is a second call.  Otherwise the
Musebook proxy answers with the quote and the swap at once.

The provider is not trusted.  A `MetisProvider` answers every call with anything at
all, and it knows the calls that came before.

The URL parser, the public keys of the SDK and the decimal form of a number are the
parameters in `Web3Runtime`.
-/

namespace RwaAgents

/-- An environment variable that is not set is `none`. -/
abbrev ProcessEnv := String → Option String

/-- What the client reads of a parsed URL. -/
structure ParsedUrl where
  protocol : String
  href : String

structure Web3Runtime where
  /-- `new PublicKey`.  The error is the text it throws. -/
  publicKey : String → Except String Unit
  /-- `new URL`. -/
  parseUrl : String → Except String ParsedUrl
  numberText : JsNumber → String

/-- The text of an optional string that is there and not empty. -/
def given (text : Option String) : Option String := text.filter (· ≠ "")

/-! ## Requests -/

structure MetisRequest where
  inputMint : String
  outputMint : String
  amount : String
  slippageBps : Option JsNumber := none

/-- The slippage asked for, in hundredths of a percent. -/
def MetisRequest.slippage (input : MetisRequest) : JsNumber :=
  input.slippageBps.getD (.ofNat 50)

def u64Max : ℕ := 18446744073709551615

/-- `/^[1-9]\d{0,19}$/`, and the number is at most `u64Max`. -/
def validAmount (amount : String) : Bool :=
  Decimal.isPositive amount && amount.length ≤ 20 && Decimal.value amount ≤ u64Max

/-- The checks before anything is sent. -/
def checkRequest (node : Web3Runtime) (input : MetisRequest) (userPublicKey : Option String) :
    Except String Unit := do
  node.publicKey input.inputMint
  node.publicKey input.outputMint
  if let some user := given userPublicKey then node.publicKey user
  if input.inputMint = input.outputMint ∨ ¬ validAmount input.amount then
    throw "Invalid swap amount or mints"
  if ¬ input.slippage.isInteger ∨ input.slippage.below 0 ∨ input.slippage.above 10000 then
    throw "Invalid slippage"

/-- Is the add-on called directly? -/
def directMetis (env : ProcessEnv) : Bool := truthy (env "QUICKNODE_METIS_URL")

/-- `text.replace(/\/$/, '')`. -/
def dropTrailingSlash (text : String) : String :=
  if text.toList.getLast? = some '/' then String.ofList text.toList.dropLast else text

/-- What the URLs of all calls start with. -/
def metisPrefix (node : Web3Runtime) (env : ProcessEnv) : Except String String := do
  let configured := (given (env "QUICKNODE_METIS_URL")).or (given (env "MUSEBOOK_API_URL"))
  let base ← node.parseUrl (configured.getD "https://musebook.trade")
  if base.protocol ≠ "https:" then throw "Metis requires HTTPS"
  return dropTrailingSlash base.href ++ (if directMetis env then "" else "/api/quicknode/metis")

/-! ## Calls -/

/-- A call of `fetch`.  The body is the value before `JSON.stringify`, which posts a number
that is not finite as `null`. -/
structure MetisCall where
  url : String
  method : String
  headers : List (String × String)
  body : Option JsonValue
  redirect : String
  timeout : ℕ

def metisCall (url : String) (body : Option JsonValue := none) : MetisCall where
  url
  method := if body.isSome then "POST" else "GET"
  headers := if body.isSome then [("content-type", "application/json")] else []
  body
  redirect := "error"
  timeout := 15000

/-- A digit of a percent escape. -/
def hexDigit (n : ℕ) : Char := (Nat.digitChar n).toUpper

/-- A byte in `application/x-www-form-urlencoded`. -/
def formByte (byte : UInt8) : List Char :=
  let c := Char.ofNat byte.toNat
  if c.isAlphanum ∨ c ∈ ['*', '-', '.', '_'] then [c]
  else if c = ' ' then ['+']
  else ['%', hexDigit (byte.toNat / 16), hexDigit (byte.toNat % 16)]

def formText (text : String) : String :=
  String.ofList ((text.toList.flatMap String.utf8EncodeChar).flatMap formByte)

/-- The text of a `URLSearchParams`. -/
def searchParams (params : List (String × String)) : String :=
  "&".intercalate (params.map fun param => formText param.1 ++ "=" ++ formText param.2)

def quoteCall (node : Web3Runtime) (urlPrefix : String) (input : MetisRequest) : MetisCall :=
  metisCall (urlPrefix ++ "/quote?" ++ searchParams [
    ("inputMint", input.inputMint), ("outputMint", input.outputMint), ("amount", input.amount),
    ("slippageBps", node.numberText input.slippage), ("swapMode", "ExactIn")])

def proxySwapCall (urlPrefix : String) (input : MetisRequest) (user : String) : MetisCall :=
  metisCall (urlPrefix ++ "/swap") (some (.object [
    ("inputMint", .string input.inputMint), ("outputMint", .string input.outputMint),
    ("amount", .string input.amount), ("slippageBps", .number input.slippage),
    ("userPublicKey", .string user)]))

def swapCall (urlPrefix : String) (quote : JsonValue) (user : String) : MetisCall :=
  metisCall (urlPrefix ++ "/swap") (some (.object [
    ("quoteResponse", quote), ("userPublicKey", .string user),
    ("wrapAndUnwrapSol", .bool true), ("dynamicComputeUnitLimit", .bool true)]))

/-- The first call: through the proxy, a swap is asked for at once. -/
def firstCall (node : Web3Runtime) (env : ProcessEnv) (urlPrefix : String) (input : MetisRequest)
    (userPublicKey : Option String) : MetisCall :=
  match directMetis env, given userPublicKey with
  | false, some user => proxySwapCall urlPrefix input user
  | _, _ => quoteCall node urlPrefix input

/-! ## Replies -/

/-- `fetch` throws, or there is a response, and its body may not be JSON. -/
inductive MetisReply
  | exception (text : String)
  | response (status : ℕ) (json : Except String JsonValue)

/-- No error but the status gets through. -/
def MetisReply.read : MetisReply → Except String JsonValue
  | exception _ => throw "Metis provider request failed"
  | response status json =>
      if status < 200 ∨ 299 < status then
        throw s!"Metis unavailable (HTTP {status}); check add-on configuration"
      else
        match json with
        | .error _ => throw "Invalid Metis response"
        | .ok value => return value

/-- The reply to the last of the calls so far. -/
abbrev MetisProvider := List MetisCall → MetisReply

/-- The state is the calls made. -/
abbrev MetisM := EStateM String (List MetisCall)

def MetisProvider.call (provider : MetisProvider) (call : MetisCall) : MetisM JsonValue := do
  modify (· ++ [call])
  MonadExcept.ofExcept (provider (← get)).read

/-- Where the quote is in a reply. -/
def quoteIn (env : ProcessEnv) (result : JsonValue) : Except String (Option JsonValue) :=
  if directMetis env then return some result else result.property "quote"

/-- The echoed parameters of a quote, in the order of the code. -/
def checkQuote (node : Web3Runtime) (input : MetisRequest) (quote : Option JsonValue) :
    Except String JsonValue := do
  match quote with
  | none => throw "Invalid Metis quote"
  | some quote =>
      if JsonValue.falsy quote ∨ ¬ JsonValue.isText input.inputMint (quote.own "inputMint") ∨
          ¬ JsonValue.isText input.outputMint (quote.own "outputMint") ∨
          ¬ JsonValue.isText input.amount (quote.own "inAmount") then
        throw "Invalid Metis quote"
      let outAmount ← JsonValue.textOf node.numberText (quote.own "outAmount")
      if ¬ Decimal.isPositive outAmount ∨ ¬ JsonValue.isText "ExactIn" (quote.own "swapMode") then
        throw "Invalid Metis quote"
      return quote

def checkTransaction (transaction : JsonValue) : Except String Unit := do
  match ← transaction.property "swapTransaction" with
  | some (.string text) => if text = "" then throw "Invalid Metis transaction"
  | _ => throw "Invalid Metis transaction"

/-- What follows once the quote is checked. -/
def finishMetis (provider : MetisProvider) (env : ProcessEnv) (urlPrefix : String)
    (userPublicKey : Option String) (result quote : JsonValue) : MetisM JsonValue := do
  match directMetis env, given userPublicKey with
  | true, none => return .object [("quote", quote), ("source", .string "quicknode-metis")]
  | false, none => return result
  | false, some _ =>
      MonadExcept.ofExcept (checkTransaction result)
      return result.extend [("requiresWalletSignature", .bool true)]
  | true, some user =>
      let transaction ← provider.call (swapCall urlPrefix quote user)
      MonadExcept.ofExcept (checkTransaction transaction)
      return transaction.extend [("quote", quote), ("requiresWalletSignature", .bool true)]

/-- A quote, or an unsigned transaction for the wallet to sign. -/
def requestMetis (node : Web3Runtime) (provider : MetisProvider) (env : ProcessEnv)
    (input : MetisRequest) (userPublicKey : Option String := none) : MetisM JsonValue := do
  MonadExcept.ofExcept (checkRequest node input userPublicKey)
  let urlPrefix ← MonadExcept.ofExcept (metisPrefix node env)
  let result ← provider.call (firstCall node env urlPrefix input userPublicKey)
  let found ← MonadExcept.ofExcept (quoteIn env result)
  let quote ← MonadExcept.ofExcept (checkQuote node input found)
  finishMetis provider env urlPrefix userPublicKey result quote

/-! ## How a request ends -/

/-- What comes before the first call. -/
def metisBase (node : Web3Runtime) (env : ProcessEnv) (input : MetisRequest)
    (userPublicKey : Option String) : Except String String := do
  checkRequest node input userPublicKey
  metisPrefix node env

/-- The first reply and the quote that was found in it and checked. -/
def quoteFrom (node : Web3Runtime) (env : ProcessEnv) (input : MetisRequest)
    (reply : MetisReply) : Except String (JsonValue × JsonValue) := do
  let result ← reply.read
  let quote ← checkQuote node input (← quoteIn env result)
  return (result, quote)

/-- The reply to a swap, checked. -/
def swapFrom (reply : MetisReply) : Except String JsonValue := do
  let transaction ← reply.read
  checkTransaction transaction
  return transaction

theorem MetisProvider.settle_call_bind {α : Type} (provider : MetisProvider) (call : MetisCall)
    (f : JsonValue → MetisM α) (calls : List MetisCall) :
    (provider.call call >>= f).settle calls =
      match (provider (calls ++ [call])).read with
      | .ok value => (f value).settle (calls ++ [call])
      | .error e => (.error e, calls ++ [call]) := by
  simp only [MetisProvider.call, EStateM.settle, EStateM.run_bind, EStateM.run_modify,
    EStateM.run_get, EStateM.run_ofExcept]
  cases (provider (calls ++ [call])).read <;> rfl

section

variable (node : Web3Runtime) (provider : MetisProvider) (env : ProcessEnv) (input : MetisRequest)
  (userPublicKey : Option String)

/-- The first reply holds a quote that passes the check. -/
structure Quoted (base : String) (result quote : JsonValue) : Prop where
  base_eq : metisBase node env input userPublicKey = .ok base
  quote_eq : quoteFrom node env input
    (provider [firstCall node env base input userPublicKey]) = .ok (result, quote)

/-- The ways a request ends, with the calls it has made. -/
inductive MetisEnds : Except String JsonValue × List MetisCall → Prop
  | refused {e : String} (hbase : metisBase node env input userPublicKey = .error e) :
      MetisEnds (.error e, [])
  | unquoted {base e : String} (hbase : metisBase node env input userPublicKey = .ok base)
      (hquote : quoteFrom node env input
        (provider [firstCall node env base input userPublicKey]) = .error e) :
      MetisEnds (.error e, [firstCall node env base input userPublicKey])
  | quoted {base : String} {result quote : JsonValue}
      (hquoted : Quoted node provider env input userPublicKey base result quote)
      (hdirect : directMetis env = true) (huser : given userPublicKey = none) :
      MetisEnds (.ok (.object [("quote", quote), ("source", .string "quicknode-metis")]),
        [firstCall node env base input userPublicKey])
  | proxyQuoted {base : String} {result quote : JsonValue}
      (hquoted : Quoted node provider env input userPublicKey base result quote)
      (hdirect : directMetis env = false) (huser : given userPublicKey = none) :
      MetisEnds (.ok result, [firstCall node env base input userPublicKey])
  | proxyUnswapped {base e user : String} {result quote : JsonValue}
      (hquoted : Quoted node provider env input userPublicKey base result quote)
      (hdirect : directMetis env = false) (huser : given userPublicKey = some user)
      (hswap : checkTransaction result = .error e) :
      MetisEnds (.error e, [firstCall node env base input userPublicKey])
  | proxySwapped {base user : String} {result quote : JsonValue}
      (hquoted : Quoted node provider env input userPublicKey base result quote)
      (hdirect : directMetis env = false) (huser : given userPublicKey = some user)
      (hswap : checkTransaction result = .ok ()) :
      MetisEnds (.ok (result.extend [("requiresWalletSignature", .bool true)]),
        [firstCall node env base input userPublicKey])
  | unswapped {base e user : String} {result quote : JsonValue}
      (hquoted : Quoted node provider env input userPublicKey base result quote)
      (hdirect : directMetis env = true) (huser : given userPublicKey = some user)
      (hswap : swapFrom (provider [firstCall node env base input userPublicKey,
        swapCall base quote user]) = .error e) :
      MetisEnds (.error e,
        [firstCall node env base input userPublicKey, swapCall base quote user])
  | swapped {base user : String} {result quote transaction : JsonValue}
      (hquoted : Quoted node provider env input userPublicKey base result quote)
      (hdirect : directMetis env = true) (huser : given userPublicKey = some user)
      (hswap : swapFrom (provider [firstCall node env base input userPublicKey,
        swapCall base quote user]) = .ok transaction) :
      MetisEnds
        (.ok (transaction.extend [("quote", quote), ("requiresWalletSignature", .bool true)]),
        [firstCall node env base input userPublicKey, swapCall base quote user])

variable {node provider env input userPublicKey}

/-- What follows a checked quote depends on the mode and on the key of a user. -/
theorem Quoted.finish_ends {base : String} {result quote : JsonValue}
    (h : Quoted node provider env input userPublicKey base result quote) :
    MetisEnds node provider env input userPublicKey
      ((finishMetis provider env base userPublicKey result quote).settle
        [firstCall node env base input userPublicKey]) := by
  cases hdirect : directMetis env with
  | true =>
      cases huser : given userPublicKey with
      | none =>
          simp only [finishMetis, hdirect, huser]
          exact .quoted h hdirect huser
      | some user =>
          simp only [finishMetis, hdirect, huser, MetisProvider.settle_call_bind,
            List.singleton_append]
          cases hread : (provider [firstCall node env base input userPublicKey,
              swapCall base quote user]).read with
          | error e =>
              refine .unswapped h hdirect huser ?_
              rw [swapFrom, hread, Except.error_bind]
          | ok transaction =>
              simp only [EStateM.settle_ofExcept_bind]
              cases hswap : checkTransaction transaction with
              | error e =>
                  refine .unswapped h hdirect huser ?_
                  rw [swapFrom, hread, Except.ok_bind, hswap, Except.error_bind]
              | ok _ =>
                  refine .swapped h hdirect huser ?_
                  rw [swapFrom, hread, Except.ok_bind, hswap]
                  rfl
  | false =>
      cases huser : given userPublicKey with
      | none =>
          simp only [finishMetis, hdirect, huser]
          exact .proxyQuoted h hdirect huser
      | some user =>
          simp only [finishMetis, hdirect, huser, EStateM.settle_ofExcept_bind]
          cases hswap : checkTransaction result with
          | error e => exact .proxyUnswapped h hdirect huser hswap
          | ok _ => exact .proxySwapped h hdirect huser hswap

variable (node provider env input userPublicKey)

/-- A request ends at the first of its parts that fails. -/
theorem requestMetis_ends :
    MetisEnds node provider env input userPublicKey
      ((requestMetis node provider env input userPublicKey).settle []) := by
  rw [requestMetis, EStateM.settle_ofExcept_bind]
  cases hcheck : checkRequest node input userPublicKey with
  | error e =>
      refine .refused ?_
      rw [metisBase, hcheck, Except.error_bind]
  | ok _ =>
      have hbase : metisBase node env input userPublicKey = metisPrefix node env := by
        rw [metisBase, hcheck, Except.ok_bind]
      simp only [EStateM.settle_ofExcept_bind]
      cases hurls : metisPrefix node env with
      | error e => exact .refused (hbase.trans hurls)
      | ok base =>
          rw [hurls] at hbase
          simp only [MetisProvider.settle_call_bind, List.nil_append]
          cases hread : (provider [firstCall node env base input userPublicKey]).read with
          | error e =>
              refine .unquoted hbase ?_
              rw [quoteFrom, hread, Except.error_bind]
          | ok result =>
              simp only [EStateM.settle_ofExcept_bind]
              cases hfound : quoteIn env result with
              | error e =>
                  refine .unquoted hbase ?_
                  rw [quoteFrom, hread, Except.ok_bind, hfound, Except.error_bind]
              | ok found =>
                  dsimp only
                  cases hquote : checkQuote node input found with
                  | error e =>
                      refine .unquoted hbase ?_
                      rw [quoteFrom, hread, Except.ok_bind, hfound, Except.ok_bind, hquote,
                        Except.error_bind]
                  | ok quote =>
                      refine Quoted.finish_ends ⟨hbase, ?_⟩
                      rw [quoteFrom, hread, Except.ok_bind, hfound, Except.ok_bind, hquote]
                      rfl

end

end RwaAgents
