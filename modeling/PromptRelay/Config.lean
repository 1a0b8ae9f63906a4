import PromptRelay.Dispatch
import PromptRelay.Json.Form

namespace PromptRelay

inductive Profile where
  | light
  | conversational
  deriving DecidableEq, Repr

namespace Profile

def contextSize : Profile → Nat
  | light => 512
  | conversational => 2048

def name : Profile → String
  | light => "light"
  | conversational => "conversational"

def all : List Profile := [light, conversational]

def ofName? (s : String) : Option Profile :=
  all.find? fun p => p.name = s

end Profile

instance : Json.Form Profile where
  shape := .choice (Profile.all.map Profile.name)
  ofJson?
    | .string s => Profile.ofName? s
    | _ => none
  toJson p := .string p.name

namespace Config

structure Server where
  host : String := "127.0.0.1"
  port : Nat := 1234
  concurrent : Bool := false
  deriving DecidableEq, Repr

structure Requests where
  systemPrompt : String := { : Dispatch }.systemPrompt
  sampling : Sampling := {}
  timeoutSeconds : Option Nat := none
  readBufferSize : Nat := { : Dispatch }.readBufferSize
  deriving DecidableEq, Repr

structure Remote where
  baseUrl : String := "https://api.groq.com/openai/v1"
  model : String := "llama-3.1-8b-instant"
  keyVariable : String := "GROQ_API_KEY"
  timeoutSeconds : Nat := 30
  deriving DecidableEq, Repr

structure OnDevice where
  modelPath : String := "SmolLM2-135M-Instruct-Q8_0.gguf"
  profile : Profile := .light
  contextSize : Option Nat := none
  threads : Nat := 4
  deriving DecidableEq, Repr

end Config

structure Config where
  server : Config.Server := {}
  requests : Config.Requests := {}
  backend : BackendKind := .remote
  remote : Config.Remote := {}
  onDevice : Config.OnDevice := {}
  transcript : Option String := none
  deriving DecidableEq, Repr

inductive ConfigError where
  | zeroTimeout (setting : String)
  | emptyHost
  | emptyBaseUrl
  | emptyRemoteModel
  | emptyModelPath
  | zeroContextSize
  | zeroReadBufferSize
  | dispatch (e : DispatchError)
  deriving DecidableEq, Repr

def ConfigError.message : ConfigError → String
  | zeroTimeout setting => setting ++ " cannot be 0"
  | emptyHost => "server.host cannot be empty"
  | emptyBaseUrl => "remote.base_url cannot be empty"
  | emptyRemoteModel => "remote.model cannot be empty"
  | emptyModelPath => "local.model_path cannot be empty when backend.kind = \"local\""
  | zeroContextSize => "local.context_size cannot be 0"
  | zeroReadBufferSize => "dispatch.read_buffer_size cannot be 0"
  | dispatch e => "dispatch: " ++ e.message

namespace Config

def Requests.dispatch (r : Requests) : Dispatch :=
  ({ systemPrompt := r.systemPrompt
     sampling := r.sampling
     timeout := r.timeoutSeconds.map (1000 * ·) } : Dispatch).withReadBufferSize r.readBufferSize

def OnDevice.effectiveContextSize (m : OnDevice) : Nat :=
  m.contextSize.getD m.profile.contextSize

structure Loading where
  path : String
  contextSize : Nat
  threads : Nat
  deriving DecidableEq, Repr

def OnDevice.loading (m : OnDevice) : Loading :=
  ⟨m.modelPath, m.effectiveContextSize, max m.threads 1⟩

def reject (b : Bool) (e : ConfigError) : Except ConfigError Unit :=
  if b then .error e else .ok ()

def validateBackend (c : Config) : Except ConfigError Unit :=
  match c.backend with
  | .remote => do
    reject (Unicode.isBlank c.remote.baseUrl) .emptyBaseUrl
    reject (Unicode.isBlank c.remote.model) .emptyRemoteModel
    reject (c.remote.timeoutSeconds = 0) (.zeroTimeout "remote.timeout_secs")
  | .onDevice => do
    reject (Unicode.isBlank c.onDevice.modelPath) .emptyModelPath
    reject (c.onDevice.effectiveContextSize = 0) .zeroContextSize

def validate (c : Config) : Except ConfigError Unit := do
  reject (Unicode.isBlank c.server.host) .emptyHost
  reject (c.requests.timeoutSeconds = some 0) (.zeroTimeout "dispatch.timeout_secs")
  reject (c.requests.readBufferSize = 0) .zeroReadBufferSize
  c.requests.dispatch.validate.mapError .dispatch
  c.validateBackend

end Config

end PromptRelay
