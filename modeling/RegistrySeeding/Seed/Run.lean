import RegistrySeeding.Seed.Stage

/-! A whole run: chains, assets, the listing of what is then registered, deployments. Records are
loaded right before the stage that needs them. The tallies of completed stages outlive the error
that aborts a run. -/
namespace RegistrySeeding.Run
open Activity
variable {σ : Type}

structure Cut where
  stages : List Tally
  fatal : Abort
  deriving DecidableEq, Repr

section
variable (source : Source σ) (registry : Registry σ) (interrupts : Interrupts σ)

def chains : Activity σ Abort Tally := do
  let records ← atStep interrupts .loadChains (perform (.load .chains) source.chains)
  atStep interrupts .submitChains (Stage.seed registry interrupts .chains (records.map Chain.item))

def assets : Activity σ Abort Tally := do
  let records ← atStep interrupts .loadAssets (perform (.load .assets) source.assets)
  atStep interrupts .submitAssets (Stage.seed registry interrupts .assets (records.map Asset.item))

def deployments : Activity σ Abort Tally := do
  let index ← atStep interrupts .listAssets registry.index
  let records ← atStep interrupts .loadDeployments (perform (.load .deployments) source.deployments)
  atStep interrupts .submitDeployments
    (Stage.seed registry interrupts .deployments (records.map (Deployment.item index)))

def stages : Activity σ Cut (List Tally) := do
  let first ← mapFailure (Cut.mk []) (chains source registry interrupts)
  let second ← mapFailure (Cut.mk [first]) (assets source registry interrupts)
  let third ← mapFailure (Cut.mk [first, second]) (deployments source registry interrupts)
  return [first, second, third]

end

structure Stamp where
  runId : String
  startedAt : Time.Instant
  finishedAt : Time.Instant
  deriving DecidableEq, Repr

structure Finished (σ : Type) where
  outcome : Outcome
  cancelled : Bool
  journal : List Entry
  world : σ

def outcomeOf (stamp : Stamp) : Except Cut (List Tally) → Outcome
  | .ok stages => ⟨stamp.runId, stamp.startedAt, some stamp.finishedAt, stages, none⟩
  | .error cut => ⟨stamp.runId, stamp.startedAt, some stamp.finishedAt, cut.stages, some cut.fatal⟩

def openingLine (runId : String) : Line := ⟨.info, "Starting seeding run " ++ runId, []⟩

def closingLine (o : Outcome) : Line :=
  match o.fatal with
  | some a => ⟨.error, "Seeding run " ++ o.runId ++ " aborted: " ++ a.text, []⟩
  | none =>
    ⟨.info, "Seeding run " ++ o.runId ++ " completed with " ++ toString o.totalFailed.toNat
      ++ " item failures", []⟩

def seed (stamp : Stamp) (source : Source σ) (registry : Registry σ) (interrupts : Interrupts σ)
    (cancelled : Bool) (world : σ) : Finished σ :=
  let p := stages source registry interrupts cancelled world
  let outcome := outcomeOf stamp p.result
  let opening := [.line (openingLine stamp.runId), .event (.runStart stamp.runId)]
  let closing := [.line (closingLine outcome), .event (.runComplete outcome)]
  ⟨outcome, p.cancelled, opening ++ p.journal ++ closing, p.world⟩

end RegistrySeeding.Run
