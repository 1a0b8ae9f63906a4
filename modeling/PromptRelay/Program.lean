import PromptRelay.ChatService
import PromptRelay.CommandLine
import PromptRelay.Config.Layers
import PromptRelay.Config.Text
import PromptRelay.Console
import PromptRelay.Listener
import PromptRelay.Report
import PromptRelay.Transcript
import PromptRelay.VariablesFile

namespace PromptRelay

def CommandLine.override (line : CommandLine) (c : Config) : Config :=
  { c with
    server.host := line.host.getD c.server.host
    server.port := line.port.getD c.server.port
    server.concurrent := line.concurrent || c.server.concurrent
    backend := line.backend.getD c.backend
    transcript := line.transcript.or c.transcript }

def ConfigError.causes : ConfigError → List String
  | .dispatch e => [e.message]
  | _ => []

namespace Program

def name : String := "kernel-bridge"

def version : String := "0.1.0"

structure Ending where
  code : Nat := 0
  output : String := ""
  errors : String := ""
  deriving DecidableEq, Repr

def Ending.failure (output failure : String) (causes : List String) : Ending :=
  ⟨1, output, Report.text failure causes⟩

def refusalText : CommandLine.Refusal → String
  | .unknownArgument => "error: unexpected argument\n"
  | .invalidValue => "error: invalid value\n"
  | .missingValue => "error: a value is required\n"
  | .repeated => "error: an argument cannot be used multiple times\n"
  | .needlessValue => "error: unexpected value\n"
  | _ => ""

def usage : String :=
  "Usage: " ++ name ++ " [OPTIONS]\n\nOptions:\n"
    ++ String.join (CommandLine.longNames.map fun (n, _) => "      --" ++ n ++ "\n")

def Ending.ofRefusal : CommandLine.Refusal → Ending
  | .help => ⟨0, usage, ""⟩
  | .version => ⟨0, name ++ " " ++ version ++ "\n", ""⟩
  | r => ⟨2, "", refusalText r⟩

def Ending.ofListenError (e : ListenError) : Ending :=
  .failure "" "Failed to start listener" (e.message :: e.causes)

structure Plan where
  config : Config
  service : ChatService
  quiet : Bool
  colors : Bool
  files : FileTree
  transcript : Option (List String)

def Plan.output (p : Plan) (address : String) : String :=
  if p.quiet then ""
  else Console.banner p.colors
    { listen := address
      kind := p.config.backend
      backend := p.service.description
      concurrent := p.config.server.concurrent
      transcript := p.config.transcript } ++ "\n"

def withVariablesFile (w : Surroundings) : Surroundings :=
  match VariablesFile.find? w.files w.here with
  | some bytes => { w with environment := VariablesFile.load w.environment bytes }
  | none => w

def withLogDirectory (w : Surroundings) (line : CommandLine) : Except Ending Surroundings :=
  match line.logDirectory with
  | none => .ok w
  | some d =>
    match w.files.makeDirectory w.here d with
    | .ok files => .ok { w with files := files }
    | .error p => .error (.failure "" ("Failed to create log directory " ++ d) [p.message])

def configuration (w : Surroundings) (line : CommandLine) : Except SettingError Config :=
  (if line.noConfig then .ok {} else Config.load w line.config).map line.override

def settingText (e : SettingError) : String :=
  e.problem.message
    ++ if e.path.isEmpty then "" else " for setting " ++ ".".intercalate e.path

def sourcesShown (w : Surroundings) (line : CommandLine) (colors : Bool) : String :=
  if line.noConfig then "" else Console.sources colors (Config.sources w line.config)

def Ending.ofText (sources : String) (colors : Bool) : Except Toml.WriteError String → Ending
  | .ok text => { output := sources ++ Console.effective colors text ++ "\n" }
  | .error e => .failure sources "Failed to render configuration" [e.message]

def showConfiguration (w : Surroundings) (line : CommandLine) (colors : Bool) (c : Config) :
    Ending :=
  .ofText (sourcesShown w line colors) colors c.text

def openTranscript (w : Surroundings) (c : Config) : FileTree × Option (List String) :=
  match c.transcript with
  | some path => Transcript.openFile w.files w.here path
  | none => (w.files, none)

def plan (w : Surroundings) (line : CommandLine) (colors : Bool) (c : Config) :
    Except Ending Plan := do
  c.validate.mapError fun e => .failure "" "Invalid configuration" (e.message :: e.causes)
  let service ← (c.service w.environment).mapError fun e =>
    .failure "" "Failed to initialize backend" [e.message]
  let (files, transcript) := openTranscript w c
  return ⟨c, service, line.quiet, colors, files, transcript⟩

def start (w : Surroundings) (arguments : List String) (terminal : Bool) : Except Ending Plan := do
  let w := withVariablesFile w
  let line ← (CommandLine.read arguments).mapError Ending.ofRefusal
  let w ← withLogDirectory w line
  let c ← (configuration w line).mapError fun e =>
    .failure "" "Failed to load configuration" [settingText e]
  let colors := Console.areColorsShown w.environment terminal
  if line.showConfig then .error (showConfiguration w line colors c) else plan w line colors c

end Program

end PromptRelay
