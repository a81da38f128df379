import RegistrySeeding.Client.Basic

/-! Settings of the program from named variables. Each variable is checked in a fixed order and
the first offending one is reported; what is not set has a default. -/
namespace RegistrySeeding

structure Trouble where
  context : String
  cause : Option String := none
  deriving DecidableEq, Repr

namespace Trouble

def text (t : Trouble) : String :=
  match t.cause with
  | some cause => t.context ++ ": " ++ cause
  | none => t.context

def report (t : Trouble) : String :=
  match t.cause with
  | some cause => "Error: " ++ t.context ++ "\n\nCaused by:\n    " ++ cause ++ "\n"
  | none => "Error: " ++ t.context ++ "\n"

end Trouble

inductive LogFormat where
  | text
  | json
  deriving DecidableEq, Repr

inductive SummaryFormat where
  | table
  | json
  deriving DecidableEq, Repr

structure Config where
  registryUrl : String
  apiToken : Option String
  dataDir : String
  timeoutMs : Nat
  logFormat : LogFormat
  summaryFormat : SummaryFormat
  deriving DecidableEq, Repr

namespace Config

inductive NumberFault where
  | empty
  | invalidDigit
  | tooLarge
  deriving DecidableEq, Repr

def NumberFault.message : NumberFault → String
  | .empty => "cannot parse integer from empty string"
  | .invalidDigit => "invalid digit found in string"
  | .tooLarge => "number too large to fit in target type"

def digits (limit : Nat) : Nat → List Char → Except NumberFault Nat
  | n, [] => .ok n
  | n, c :: rest =>
    match Text.digit? c with
    | none => .error .invalidDigit
    | some d => if n * 10 + d ≤ limit then digits limit (n * 10 + d) rest else .error .tooLarge

def number (s : String) : Except NumberFault Nat :=
  match s.toList with
  | [] => .error .empty
  | ['+'] => .error .invalidDigit
  | '+' :: rest => digits (UInt64.size - 1) 0 rest
  | cs => digits (UInt64.size - 1) 0 cs

def lower (s : String) : String := String.ofList (s.toList.map Char.toLower)

abbrev Lookup := String → Option String

def registryUrlOf (lookup : Lookup) : Except Trouble String :=
  let url := (lookup "CHAINREG_REGISTRY_URL").getD defaultRegistryUrl
  if "http://".toList.isPrefixOf url.toList || "https://".toList.isPrefixOf url.toList then .ok url
  else .error { context := "Invalid CHAINREG_REGISTRY_URL: " ++ url }

def timeoutOf (lookup : Lookup) : Except Trouble Nat :=
  match number ((lookup "CHAINREG_REQUEST_TIMEOUT_MS").getD "30000") with
  | .ok n => .ok n
  | .error fault =>
    .error { context := "Invalid CHAINREG_REQUEST_TIMEOUT_MS", cause := some fault.message }

def logFormatOf (lookup : Lookup) : Except Trouble LogFormat :=
  let name := lower ((lookup "CHAINREG_LOG_FORMAT").getD "text")
  if name = "text" then .ok .text
  else if name = "json" then .ok .json
  else .error { context := "Invalid CHAINREG_LOG_FORMAT: " ++ name }

def summaryFormatOf (lookup : Lookup) : Except Trouble SummaryFormat :=
  let name := lower ((lookup "CHAINREG_SUMMARY_FORMAT").getD "table")
  if name = "table" then .ok .table
  else if name = "json" then .ok .json
  else .error { context := "Invalid CHAINREG_SUMMARY_FORMAT: " ++ name }

def ofLookup (lookup : Lookup) : Except Trouble Config := do
  let registryUrl ← registryUrlOf lookup
  let apiToken := (lookup "CHAINREG_API_TOKEN").bind Text.nonBlank
  let dataDir := (lookup "CHAINREG_DATA_DIR").getD "./data"
  let timeoutMs ← timeoutOf lookup
  let logFormat ← logFormatOf lookup
  let summaryFormat ← summaryFormatOf lookup
  return { registryUrl, apiToken, dataDir, timeoutMs, logFormat, summaryFormat }

def client (http : Http) (config : Config) : Except Trouble Client :=
  match Client.build http config.registryUrl config.apiToken { timeoutMs := config.timeoutMs } with
  | .ok client => .ok client
  | .error e => .error { context := "Failed to build registry client", cause := some e.message }

end Config
end RegistrySeeding
