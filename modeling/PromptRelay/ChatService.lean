import PromptRelay.Config
import PromptRelay.Http.Charset
import PromptRelay.Http.Credentials
import PromptRelay.Http.Status
import PromptRelay.Json.Form
import PromptRelay.Model

namespace PromptRelay

structure ChatService where
  endpoint : String
  model : String
  key : String
  timeout : Nat
  deriving DecidableEq, Repr

namespace ChatService

def dropSlashes (s : String) : String :=
  String.ofList (s.toList.reverse.dropWhile (· = '/')).reverse

def endpointOf (baseUrl : String) : String :=
  dropSlashes baseUrl ++ "/chat/completions"

def description (r : ChatService) : String :=
  r.model ++ " via " ++ r.endpoint

def message (role content : String) : Json :=
  .object [("role", .string role), ("content", .string content)]

def body (r : ChatService) (c : Call) : Json :=
  .ofMembers
    [("model", some (.string r.model)),
     ("messages", some (.array [message "system" c.systemPrompt, message "user" c.query])),
     ("max_tokens", some (.nat c.sampling.maxTokens)),
     ("temperature", c.sampling.temperature.map .single),
     ("top_p", c.sampling.topP.map .single)]

def isHeaderValue (s : String) : Bool :=
  s.toList.all fun c => c = '\t' || (0x20 ≤ c.toNat && c.toNat ≠ 0x7F)

def schemes : List String :=
  ["http", "https"]

def request (r : ChatService) (c : Call) : Except Http.TransportError Http.Request :=
  match Http.Url.read? r.endpoint with
  | none => .error .unbuildable
  | some url =>
    if url.host.getD "" = "" then .error (.badScheme url.text)
    else if !isHeaderValue r.key then .error .unbuildable
    else if !schemes.contains url.scheme then .error (.badScheme url.withoutUser.text)
    else .ok
      { url := url.withoutUser
        userAuthorization := url.userAuthorization?
        authorization := "Bearer " ++ r.key
        body := (r.body c).text }

def completionShape : Json.Shape :=
  .record "ChatCompletionResponse"
    [("choices",
      .list (.record "ChatChoice"
        [("message",
          .record "ChatChoiceMessage" [("content", .option .string, some .null)], none)]),
      some (.array []))]

def completionText? : Json → Option String
  | .object [(_, .array (.object [(_, .object [(_, .string s)])] :: _))] => some s
  | _ => none

def errorShape : Json.Shape :=
  .record "ApiErrorBody" [("error", .record "ApiErrorDetail" [("message", .string, none)], none)]

def quoteSize : Nat := 120

def detail (body : String) : String :=
  match errorShape.parse body with
  | .ok (.object [(_, .object [(_, .string s)])]) => s
  | _ => Text.truncate quoteSize (String.ofList (Unicode.trim body.toList))

def refusal (status : Nat) (body : String) : String :=
  let words := detail body
  let code := "HTTP " ++ toString status
  if Http.Status.isRefusal status then
    "authentication failed (" ++ code ++ ")" ++ if words = "" then "" else ": " ++ words
  else if words = "" then code ++ " " ++ Http.Status.reason status
  else code ++ ": " ++ words

def replyOf (status : Nat) (body : String) : Reply :=
  if !Http.Status.isSuccess status then .failure (refusal status body)
  else
    match completionShape.parse body with
    | .error e => .failure ("malformed response: " ++ e.message)
    | .ok v =>
      match completionText? v with
      | some s => .text s
      | none => .failure "malformed response: no message content"

def bodyText (r : Http.Response) : String :=
  if Http.Status.isBodiless r.status then ""
  else String.ofList (Http.Charset.decode (Http.Charset.ofContentType r.contentType) r.body)

def complete (r : ChatService) (exchange : Http.Exchange) (c : Call) : Nat × Reply :=
  match r.request c with
  | .error e => (0, .failure e.message)
  | .ok request =>
    let (delay, result) := exchange request
    if r.timeout < delay then (r.timeout, .failure Http.TransportError.late.message)
    else
      match result with
      | .error e => (delay, .failure e.message)
      | .ok response => (delay, replyOf response.status (bodyText response))

def backend (r : ChatService) (exchange : Http.Exchange) : Backend where
  kind := .remote
  description := r.description
  answer _ c :=
    let (delay, reply) := r.complete exchange c
    ⟨delay, .ok reply⟩

end ChatService

inductive BackendError where
  | missingKey (name : String)
  | model (e : ModelError)
  deriving DecidableEq, Repr

def BackendError.message : BackendError → String
  | missingKey name =>
    "API key not found: set the " ++ name ++ " environment variable (or add it to .env)"
  | model e => e.message

namespace Config

def key (environment : List (String × String)) (name : String) : Except BackendError String :=
  match (environment.lookup name).map fun s => String.ofList (Unicode.trim s.toList) with
  | none => .error (.missingKey name)
  | some k => if k = "" then .error (.missingKey name) else .ok k

def service (c : Config) (environment : List (String × String)) : Except BackendError ChatService :=
  match c.backend with
  | .onDevice => .error (.model .unavailable)
  | .remote => do
    let k ← key environment c.remote.keyVariable
    return {
      endpoint := ChatService.endpointOf c.remote.baseUrl
      model := c.remote.model
      key := k
      timeout := 1000 * c.remote.timeoutSeconds }

end Config

end PromptRelay
