import FixedDecimal.CommandLine.Request
import FixedDecimal.EnvFile
import FixedDecimal.Json.Writer

/-! What a command line answers: an exit code, a text for the standard output, and for a failed
calculation the line that reports its error. -/
namespace FixedDecimal.CommandLine

structure Outcome where
  exit : UInt8
  output : String
  errorLine : Option String
deriving DecidableEq

def versionText : String := "decimal-calc 0.1.0\n"

def helpText : String :=
  "Usage: decimal-calc [--log-level LEVEL] eval [OPTIONS] VALUE [OPERATOR VALUE]...\n" ++
  "       decimal-calc [--log-level LEVEL] rescale [OPTIONS] VALUE\n" ++
  "Options: --precision DIGITS, --rounding MODE, --json\n"

def Request.config (r : Request) (env : Environment) : Config :=
  (Config.ofEnvironment env).withOverrides r.precision r.rounding r.json

def Request.result (r : Request) (config : Config) : Except Error Decimal :=
  match r.command with
  | .eval words => evaluateWords words config
  | .rescale word => rescaleWord word config

def resultLine (x : Decimal) (config : Config) : String :=
  (if config.jsonOutput then Json.writeEvaluation x else x.text) ++ "\n"

def answer (r : Request) (env : Environment) : Outcome :=
  let config := r.config env
  match r.result config with
  | .ok x => ⟨0, resultLine x config, none⟩
  | .error e => ⟨1, "", some e.report⟩

def unloadable : Outcome := ⟨101, "", none⟩

/-- Answers a command line. The environment file is loaded before anything else, and variables of
the environment hide those of the file. -/
def run (args : List String) (env : Environment) (envFile : String) : Outcome :=
  match EnvFile.load? env envFile with
  | none => unloadable
  | some loaded =>
    match request false args with
    | .ok r => answer r loaded
    | .error .misuse => ⟨2, "", none⟩
    | .error .help => ⟨0, helpText, none⟩
    | .error .version => ⟨0, versionText, none⟩

end FixedDecimal.CommandLine
