import RegistrySeeding.Seed.Outcome
import RegistrySeeding.Text.Align

/-! The summary of a run as text: a row of counters a stage, the failures in order and the error
that aborted the run. Blanks at the very end are cut. -/
namespace RegistrySeeding.Summary
open Text (padStart padEnd)

def row (stage attempted created skipped failed : String) : String :=
  padEnd 12 stage ++ " " ++ padStart 9 attempted ++ " " ++ padStart 8 created ++ " "
    ++ padStart 8 skipped ++ " " ++ padStart 7 failed

def header : String := row "STAGE" "ATTEMPTED" "CREATED" "SKIPPED" "FAILED"

def stageLine (o : Outcome) (stage : Stage) : String :=
  match o.stage? stage with
  | some t =>
    row stage.name (toString t.attempted.toNat) (toString t.created.toNat)
      (toString t.skipped.toNat) (toString t.failed.toNat)
  | none => padEnd 12 stage.name ++ " " ++ padStart 9 "not run"

def failureLine (f : ItemFailure) : String :=
  "  [" ++ f.stage.name ++ "] " ++ f.key ++ ": " ++ f.detail

def failureLines (failures : List ItemFailure) : List String :=
  if failures.isEmpty then [] else "" :: "Failures:" :: failures.map failureLine

def abortLines : Option Abort → List String
  | none => []
  | some a => ["", "Aborted: " ++ a.text]

def lines (o : Outcome) : List String :=
  ("Seeding run " ++ o.runId) :: header :: Stage.all.map (stageLine o)
    ++ failureLines o.failures ++ abortLines o.fatal

def table (o : Outcome) : String := Text.trimEnd (String.intercalate "\n" (lines o))

end RegistrySeeding.Summary
