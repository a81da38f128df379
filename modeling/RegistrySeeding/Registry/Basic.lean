import RegistrySeeding.Log
import RegistrySeeding.Record.Asset
import RegistrySeeding.Record.Chain
import RegistrySeeding.Record.Deployment
import RegistrySeeding.Seed.Tally

/-! What a run talks to: a registry and a source of records, each a function of a world that it
may change. An exchange either comes back, perhaps with the run's cancellation requested in the
meantime, or is abandoned because of it. Between exchanges a run may be interrupted too. -/
namespace RegistrySeeding

inductive Submission where
  | chain (request : ChainRequest)
  | asset (request : AssetRequest)
  | deployment (request : DeploymentRequest)
  deriving DecidableEq, Repr

namespace Submission

def stage : Submission → Stage
  | chain _ => .chains
  | asset _ => .assets
  | deployment _ => .deployments

def key : Submission → String
  | chain r => r.chainId
  | asset r => r.symbol
  | deployment r => r.assetId ++ "@" ++ r.chainId

def json : Submission → Json
  | chain r => ChainRequest.codec.write r
  | asset r => AssetRequest.codec.write r
  | deployment r => DeploymentRequest.codec.write r

end Submission

inductive Call where
  | load (stage : Stage)
  | submit (submission : Submission)
  | list
  deriving DecidableEq, Repr

inductive Reply (α : Type) where
  | answered (result : Except Error α) (cancelled : Bool)
  | abandoned

structure Exchange (σ α : Type) where
  reply : Reply α
  lines : List Line := []
  world : σ

namespace Exchange

def plain {σ α : Type} (result : Except Error α) (world : σ) : Exchange σ α :=
  { reply := .answered result false, world }

end Exchange

structure Registry (σ : Type) where
  submit : Submission → σ → Exchange σ Answer
  list : σ → Exchange σ (List RegisteredAsset)

structure Source (σ : Type) where
  chains : σ → Exchange σ (List Chain)
  assets : σ → Exchange σ (List Asset)
  deployments : σ → Exchange σ (List Deployment)

structure Interrupts (σ : Type) where
  check : σ → Bool × σ

def Interrupts.never {σ : Type} : Interrupts σ := ⟨fun world => (false, world)⟩

def Source.ofRecords {σ : Type} (chains : List Chain) (assets : List Asset)
    (deployments : List Deployment) : Source σ where
  chains := .plain (.ok chains)
  assets := .plain (.ok assets)
  deployments := .plain (.ok deployments)

end RegistrySeeding
