import RegistrySeeding.Config.EnvFile
import RegistrySeeding.Config.Basic
import RegistrySeeding.Seed.Run
import RegistrySeeding.Source.Directory
import RegistrySeeding.Summary

/-! The program: settings from the environment and its file, one run against the registry, a
summary, log lines and an exit status. -/
namespace RegistrySeeding.App

def configure (environment : EnvFile.Variables) (files : Files) : Except Trouble Config :=
  let settings := EnvFile.loadFrom files environment
  Config.ofLookup fun name => settings.lookup name

def logFormat (environment : EnvFile.Variables) (files : Files) : LogFormat :=
  let settings := EnvFile.loadFrom files environment
  match Config.logFormatOf fun name => settings.lookup name with
  | .ok format => format
  | .error _ => .text

def shutdownLine : Line := ⟨.warn, "Shutdown requested, cancelling seeding run", []⟩

def noteShutdown {σ α : Type} (x : Exchange σ α) : Exchange σ α :=
  match x.reply with
  | .abandoned => { x with lines := x.lines ++ [shutdownLine] }
  | .answered _ _ => x

def noteShutdowns {σ : Type} (registry : Registry σ) : Registry σ where
  submit s world := noteShutdown (registry.submit s world)
  list world := noteShutdown (registry.list world)

def progressLines : Event → List Line
  | .runStart id => [⟨.info, "Seeding run started", [("run_id", .text id)]⟩]
  | .stageStart stage total =>
    [⟨.info, "Stage started", [("stage", .text stage.name), ("total", .count total)]⟩]
  | .item .. => []
  | .stageComplete t =>
    [⟨.info, "Stage complete",
      [("attempted", .count t.attempted.toNat), ("created", .count t.created.toNat),
       ("failed", .count t.failed.toNat), ("skipped", .count t.skipped.toNat),
       ("stage", .text t.stage.name)]⟩]
  | .runComplete _ => []

def entryLines : Entry → List Line
  | .line l => [l]
  | .event e => progressLines e
  | .call _ => []

def openingLine (config : Config) (client : Client) : Line :=
  ⟨.info, "Seeding " ++ client.baseUrl ++ " from " ++ config.dataDir, []⟩

def summary (format : SummaryFormat) (o : Outcome) : String :=
  match format with
  | .table => Summary.table o
  | .json => (Outcome.codec.write o).indented

structure Ran (σ : Type) where
  outcome : Outcome
  summary : String
  lines : List Line
  world : σ

def run {σ : Type} (config : Config) (files : Files) (http : Http) (transport : Transport σ)
    (stamp : Run.Stamp) (world : σ) : Except Trouble (Ran σ) := do
  let client ← config.client http
  let registry := noteShutdowns (client.registry transport)
  let finished := Run.seed stamp (.ofDirectory files config.dataDir) registry .never false world
  return {
    outcome := finished.outcome
    summary := summary config.summaryFormat finished.outcome
    lines := openingLine config client :: finished.journal.flatMap entryLines
    world := finished.world }

structure Exit (σ : Type) where
  status : Nat
  output : String
  report : String
  lines : List Line
  logFormat : LogFormat
  world : σ

def giveUp {σ : Type} (trouble : Trouble) (logFormat : LogFormat) (world : σ) : Exit σ :=
  ⟨1, "", trouble.report, [], logFormat, world⟩

def execute {σ : Type} (environment : EnvFile.Variables) (files : Files) (http : Http)
    (transport : Transport σ) (stamp : Run.Stamp) (world : σ) : Exit σ :=
  match configure environment files with
  | .error trouble => giveUp trouble (logFormat environment files) world
  | .ok config =>
    match run config files http transport stamp world with
    | .error trouble => giveUp trouble config.logFormat world
    | .ok ran =>
      { status := if ran.outcome.isFatal then 1 else 0
        output := ran.summary
        report := ""
        lines := ran.lines.filter (Line.atLeast .info)
        logFormat := config.logFormat
        world := ran.world }

end RegistrySeeding.App
