/-
Dispatch/CommandLine/Run.lean

What the commands do: a configuration file is checked, or the routing of a payload is shown as
if every declared backend were healthy.  No backend is ever called.
-/
import Dispatch.CommandLine.Arguments
import Dispatch.Config.Load
import Dispatch.Routing.Router

namespace Dispatch.CommandLine

/-- What a run leaves behind. -/
structure Outcome where
  exitCode : Nat
  stdout : String := ""
  stderr : String := ""
  deriving DecidableEq, Repr

/-- A run that succeeds. -/
def done (text : String) : Outcome := { exitCode := 0, stdout := text }

/-- A run that fails. -/
def failed (message : String) : Outcome :=
  { exitCode := 1, stderr := "Error: " ++ message ++ "\n" }

/-- Where a task would go over the declared backends, all of them taken as healthy. -/
def dryRun (config : Config) (task : Task) : Except RouteError Decision :=
  config.routing.route task (Catalog.ofDescriptors config.descriptors)

/-- A dry run as the command line shows it. -/
def report (kind : TaskKind) (decision : Decision) : String :=
  (Json.obj [
    ("kind", .str kind.tag),
    ("reason", decision.reason.toJson),
    ("candidates", .strings decision.candidates)]).pretty ""

/-- What `check` says of a configuration. -/
def summary (config : Config) : String :=
  "Config OK\n"
    ++ "  default backend: " ++ config.routing.defaultBackend ++ "\n"
    ++ "  rules:           " ++ toString config.routing.ruleList.length ++ "\n"
    ++ "  backends:        " ++ toString config.backends.size ++ "\n"

/-- The version of the program. -/
def versionText : String := "switchyard 0.1.0\n"

/-- The help on a topic. -/
def Topic.text : Topic → String
  | overview =>
    "Validate Switchyard dispatch configs and dry-run routing\n\n"
      ++ "Usage: switchyard <COMMAND>\n\n"
      ++ "Commands:\n"
      ++ "  check  Validate a dispatch config file\n"
      ++ "  route  Show where a payload would be routed\n"
      ++ "  help   Print this message or the help of the given subcommand(s)\n\n"
      ++ "Options:\n"
      ++ "  -h, --help     Print help\n"
      ++ "  -V, --version  Print version\n"
  | check =>
    "Validate a dispatch config file\n\n"
      ++ "Usage: switchyard check <CONFIG>\n\n"
      ++ "Arguments:\n"
      ++ "  <CONFIG>  Path to a YAML or JSON config\n\n"
      ++ "Options:\n"
      ++ "  -h, --help  Print help\n"
  | route =>
    "Show where a payload would be routed\n\n"
      ++ "Usage: switchyard route [OPTIONS] <CONFIG> <PAYLOAD>\n\n"
      ++ "Arguments:\n"
      ++ "  <CONFIG>   Path to a YAML or JSON config\n"
      ++ "  <PAYLOAD>  Task payload to classify and route\n\n"
      ++ "Options:\n"
      ++ "      --backend <BACKEND>        Route to this backend, bypassing classification\n"
      ++ "      --streaming                Require a streaming-capable backend\n"
      ++ "      --code-context             Require a backend that accepts code context\n"
      ++ "      --min-tokens <MIN_TOKENS>  Require at least this many tokens of context window\n"
      ++ "  -h, --help                     Print help\n"

/-- The file that a command reads. -/
def Command.path? : Command → Option String
  | check path => some path
  | route path .. => some path
  | version | help _ => none

/-- Runs a command; `content` is what its file holds, if it is there. -/
def Command.run (content : Option ByteArray) : Command → Outcome
  | version => done versionText
  | help topic => done topic.text
  | check path =>
    match Config.ofFile path content with
    | .error _ => failed ("Failed to load config " ++ path)
    | .ok config => done (summary config)
  | route path payload backend needs =>
    match Config.ofFile path content with
    | .error _ => failed ("Failed to load config " ++ path)
    | .ok config =>
      let task := { Task.ofPayload "" payload with backend, requirements := needs }
      match dryRun config task with
      | .error e => failed e.message
      | .ok decision => done (report task.kind decision ++ "\n")

/-- What a run says of arguments that make no sense. -/
def wrongUsage : Outcome :=
  { exitCode := 2, stderr := "error: wrong usage\n\n" ++ Topic.overview.text }

end Dispatch.CommandLine
