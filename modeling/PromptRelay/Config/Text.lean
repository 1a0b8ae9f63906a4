import PromptRelay.Config
import PromptRelay.Toml.Printer

namespace PromptRelay.Config

def natural (n : Nat) : Toml := .int n

def decimal (x : Binary) : Toml := .float (x.convert .double)

def toSections (c : Config) : List (String × List (String × Option Toml)) :=
  [("server",
    [("host", some (.string c.server.host)), ("port", some (natural c.server.port)),
     ("concurrent", some (.bool c.server.concurrent))]),
   ("dispatch",
    [("system_prompt", some (.string c.requests.systemPrompt)),
     ("max_tokens", some (natural c.requests.sampling.maxTokens)),
     ("temperature", c.requests.sampling.temperature.map decimal),
     ("top_p", c.requests.sampling.topP.map decimal),
     ("repeat_penalty", c.requests.sampling.repeatPenalty.map decimal),
     ("timeout_secs", c.requests.timeoutSeconds.map natural),
     ("read_buffer_size", some (natural c.requests.readBufferSize))]),
   ("backend", [("kind", some (.string c.backend.name))]),
   ("remote",
    [("base_url", some (.string c.remote.baseUrl)), ("model", some (.string c.remote.model)),
     ("api_key_env", some (.string c.remote.keyVariable)),
     ("timeout_secs", some (natural c.remote.timeoutSeconds))]),
   ("local",
    [("model_path", some (.string c.onDevice.modelPath)),
     ("profile", some (.string c.onDevice.profile.name)),
     ("context_size", c.onDevice.contextSize.map natural),
     ("threads", some (natural c.onDevice.threads))]),
   ("logging", [("transcript", c.transcript.map .string)])]

def text (c : Config) : Except Toml.WriteError String :=
  Toml.documentText (c.toSections.map fun (name, entries) =>
    (name, entries.filterMap fun (n, v) => v.map fun v => (n, v)))

end PromptRelay.Config
