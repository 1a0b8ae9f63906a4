import PromptRelay.Config.Setting
import PromptRelay.Toml.Reader

namespace PromptRelay.Config

open SettingReader

def serverFields : List (Setter Server) :=
  [field "host" string fun c v => { c with host := v },
   field "port" nat16 fun c v => { c with port := v },
   field "concurrent" bool fun c v => { c with concurrent := v }]

def requestFields : List (Setter Requests) :=
  [field "system_prompt" string fun c v => { c with systemPrompt := v },
   field "max_tokens" nat32 fun c v => { c with sampling.maxTokens := v },
   field "temperature" (optional single) fun c v => { c with sampling.temperature := v },
   field "top_p" (optional single) fun c v => { c with sampling.topP := v },
   field "repeat_penalty" (optional single) fun c v => { c with sampling.repeatPenalty := v },
   field "timeout_secs" (optional nat64) fun c v => { c with timeoutSeconds := v },
   field "read_buffer_size" size fun c v => { c with readBufferSize := v }]

def backendFields (variants : Variants) : List (Setter BackendKind) :=
  [field "kind" (choice variants "BackendKind" [.onDevice, .remote] BackendKind.name)
    fun _ v => v]

def remoteFields : List (Setter Remote) :=
  [field "base_url" string fun c v => { c with baseUrl := v },
   field "model" string fun c v => { c with model := v },
   field "api_key_env" string fun c v => { c with keyVariable := v },
   field "timeout_secs" nat64 fun c v => { c with timeoutSeconds := v }]

def onDeviceFields (variants : Variants) : List (Setter OnDevice) :=
  [field "model_path" string fun c v => { c with modelPath := v },
   field "profile" (choice variants "ContextProfile" Profile.all Profile.name)
     fun c v => { c with profile := v },
   field "context_size" (optional nat32) fun c v => { c with contextSize := v },
   field "threads" nat32 fun c v => { c with threads := v }]

def loggingFields : List (Setter (Option String)) :=
  [field "transcript" (optional string) fun _ v => v]

def sections (variants : Variants) : List (Setter Config) :=
  [field "server" (record "FileServerConfig" serverFields {}) fun c v => { c with server := v },
   field "dispatch" (record "FileDispatchConfig" requestFields {})
     fun c v => { c with requests := v },
   field "backend" (record "FileBackendConfig" (backendFields variants) .remote)
     fun c v => { c with backend := v },
   field "remote" (record "FileRemoteConfig" remoteFields {}) fun c v => { c with remote := v },
   field "local" (record "FileLocalConfig" (onDeviceFields variants) {})
     fun c v => { c with onDevice := v },
   field "logging" (record "FileLoggingConfig" loggingFields none)
     fun c v => { c with transcript := v }]

def ofSetting (variants : Variants) : SettingReader Config :=
  record "FileConfig" (sections variants) {}

def ofToml? (s : String) : Option Config := do
  let members ← Toml.read? s
  (ofSetting .alone (Setting.ofToml (.table members))).toOption

end PromptRelay.Config
