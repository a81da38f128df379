import RegistrySeeding.Seed.Tally
import RegistrySeeding.Time.Codec

/-! The outcome of a run: the tallies of the stages that completed and, when the run was
aborted, the step and the error. A stage that was cut short leaves nothing. -/
namespace RegistrySeeding
open Json (Codec)

inductive Step where
  | loadChains
  | submitChains
  | loadAssets
  | submitAssets
  | listAssets
  | loadDeployments
  | submitDeployments
  deriving DecidableEq, Repr

namespace Step

def name : Step → String
  | loadChains => "load_chains"
  | submitChains => "submit_chains"
  | loadAssets => "load_assets"
  | submitAssets => "submit_assets"
  | listAssets => "list_assets"
  | loadDeployments => "load_deployments"
  | submitDeployments => "submit_deployments"

def label : Step → String
  | loadChains => "loading chains"
  | submitChains => "submitting chains"
  | loadAssets => "loading assets"
  | submitAssets => "submitting assets"
  | listAssets => "listing registry assets"
  | loadDeployments => "loading deployments"
  | submitDeployments => "submitting deployments"

def choice : Json.Choice Step :=
  ⟨name, [loadChains, submitChains, loadAssets, submitAssets, listAssets, loadDeployments,
    submitDeployments]⟩

def codec : Codec Step := choice.codec

end Step

structure Abort where
  step : Step
  message : String
  cancelled : Bool
  deriving DecidableEq, Repr

namespace Abort

def ofError (step : Step) (error : Error) : Abort := ⟨step, error.message, error.isCancelled⟩

def text (a : Abort) : String := a.step.label ++ " failed: " ++ a.message

def record : Json.Record Abort where
  title := "FatalError"
  fields :=
    .cons { name := "step", codec := Step.codec } <|
    .cons { name := "message", codec := Codec.string } <|
    .cons { name := "cancelled", codec := Codec.bool } .nil
  make := fun (step, message, cancelled, ()) => ⟨step, message, cancelled⟩
  parts a := (a.step, a.message, a.cancelled, ())

def codec : Codec Abort := record.codec

end Abort

structure Outcome where
  runId : String
  startedAt : Time.Instant
  finishedAt : Option Time.Instant
  stages : List Tally
  fatal : Option Abort
  deriving DecidableEq, Repr

namespace Outcome

def begun (runId : String) (startedAt : Time.Instant) : Outcome :=
  ⟨runId, startedAt, none, [], none⟩

def isFatal (o : Outcome) : Bool := o.fatal.isSome

def stage? (o : Outcome) (stage : Stage) : Option Tally := o.stages.find? fun t => t.stage == stage

def attempted (o : Outcome) (stage : Stage) : UInt64 :=
  match o.stage? stage with
  | some t => t.attempted
  | none => 0

def failures (o : Outcome) : List ItemFailure := o.stages.flatMap (·.failures)

def totalFailed (o : Outcome) : UInt64 := (o.stages.map (·.failed)).foldl (· + ·) 0

def totalFailedIn (overflow : Overflow) (o : Outcome) : Option UInt64 :=
  overflow.sum (o.stages.map (·.failed)) 0

theorem totalFailedWraps (o : Outcome) : o.totalFailedIn .wraps = some o.totalFailed :=
  Overflow.sumWraps _ _

def record : Json.Record Outcome where
  title := "RunOutcome"
  fields :=
    .cons { name := "runId", codec := Codec.string } <|
    .cons { name := "startedAt", codec := Time.Instant.codec } <|
    .cons (.nullable "finishedAt" Time.Instant.codec) <|
    .cons { name := "stages", codec := Codec.list Tally.codec } <|
    .cons (.nullable "fatal" Abort.codec) .nil
  make := fun (id, started, finished, stages, fatal, ()) => ⟨id, started, finished, stages, fatal⟩
  parts o := (o.runId, o.startedAt, o.finishedAt, o.stages, o.fatal, ())

def codec : Codec Outcome := record.codec

end Outcome
end RegistrySeeding
