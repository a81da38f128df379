import RegistrySeeding.App
import RegistrySeeding.Client.Station
import RegistrySeeding.Seed.RunId
import Std.Time.DateTime.Timestamp

/-! The command line. Requests leave on standard output, a document a line, and their replies come
back on standard input the same way, so that any courier can carry them; the summary follows the
last request. Log lines and errors go to standard error. The run itself is a pure function of the
replies so far, done again with each reply that arrives. -/
namespace RegistrySeeding.CommandLine

def settingNames : List String :=
  ["CHAINREG_REGISTRY_URL", "CHAINREG_API_TOKEN", "CHAINREG_DATA_DIR",
   "CHAINREG_REQUEST_TIMEOUT_MS", "CHAINREG_LOG_FORMAT", "CHAINREG_SUMMARY_FORMAT"]

def environment : IO EnvFile.Variables := do
  let found ← settingNames.mapM fun name => do
    return (← IO.getEnv name).map fun value => (name, value)
  return found.filterMap id

def faultOf : IO.Error → FileFault
  | .noFileOrDirectory .. => .notFound
  | .inappropriateType .. => .isDirectory
  | e => .other (toString e)

def readPath (path : String) : IO (String × Except FileFault (List UInt8)) := do
  try
    return (path, .ok (← IO.FS.readBinFile path).toList)
  catch e => return (path, .error (faultOf e))

def files (environment : EnvFile.Variables) : IO Files := do
  let variablesFile ← readPath EnvFile.fileName
  let known (all : List (String × Except FileFault (List UInt8))) : Files := fun path =>
    (all.lookup path).getD (.error .notFound)
  match App.configure environment (known [variablesFile]) with
  | .error _ => return known [variablesFile]
  | .ok config =>
    let records ← Stage.all.mapM fun stage => readPath (joinPath config.dataDir stage.fileName)
    return known (variablesFile :: records)

def now : IO (Time.Instant × Nat) := do
  let t := (← Std.Time.Timestamp.now).toDurationSinceUnixEpoch
  let nano := t.nano.val.toNat
  return (.ofUnix t.second.val nano, t.second.val.toNat * 1000 + nano / 1000000)

def noise : IO Nat := do
  return (← IO.getRandomBytes 10).toList.foldl (fun n b => n * 256 + b.toNat) 0

def requestLine (r : Request) : String :=
  (Json.object [("method", .string Request.method), ("url", .string r.url.text),
    ("contentType", .string Request.contentType),
    ("authorization", (r.authorization.map Json.string).getD .null),
    ("timeoutMs", .number (.int r.timeoutMs)), ("body", .string r.body)]).text

def prepared (line : String) : Prepared :=
  match Json.Reader.document Json.Reader.value line with
  | .ok j =>
    match j.member? "status" with
    | some (.number (.int n)) =>
      .respond n.toNat (Text.Utf8.encode (((j.member? "body").bind Json.text?).getD ""))
    | _ => .drop
  | .error _ => .drop

def logLine (format : LogFormat) (l : Line) : String :=
  match format with
  | .text => l.level.name ++ " " ++ l.text
  | .json => (Json.object [("level", .string l.level.name.toUpper), ("fields", l.json)]).text

def courier : Transport Station := Station.listening (fun _ => true) .interrupt

partial def converse (environment : EnvFile.Variables) (files : Files) (runId : String)
    (startedAt : Time.Instant) (replies : List Prepared) : IO (App.Exit Station) := do
  let (finishedAt, _) ← now
  let stamp := ⟨runId, startedAt, finishedAt⟩
  let exit := App.execute environment files .basic courier stamp { replies }
  match exit.world.received with
  | pending :: _ =>
    if exit.world.received.length ≤ replies.length then return exit
    (← IO.getStdout).putStrLn (requestLine pending)
    (← IO.getStdout).flush
    let line ← (← IO.getStdin).getLine
    if line.isEmpty then return exit
    converse environment files runId startedAt (replies ++ [prepared line])
  | [] => return exit

end RegistrySeeding.CommandLine

open RegistrySeeding RegistrySeeding.CommandLine in
def main : IO UInt32 := do
  let environment ← environment
  let files ← files environment
  let (startedAt, millis) ← now
  let exit ← converse environment files (RunId.text millis (← noise)) startedAt []
  exit.lines.forM fun l => do (← IO.getStderr).putStrLn (logLine exit.logFormat l)
  if ¬exit.output.isEmpty then IO.println exit.output
  (← IO.getStderr).putStr exit.report
  return exit.status.toUInt32
