import RegistrySeeding.Proofs.Seed.Simulation

/-! What a run asked for and what came back, in order. The transcript is taken down by a world
that remembers; beside another world it changes nothing about a run. -/
namespace RegistrySeeding
variable {σ : Type}

inductive Moment where
  | chains (reply : Reply (List Chain))
  | assets (reply : Reply (List Asset))
  | deployments (reply : Reply (List Deployment))
  | listing (reply : Reply (List RegisteredAsset))
  | submission (submission : Submission) (reply : Reply Answer)
  | interrupt

namespace Reply
variable {α : Type}

def cancels : Reply α → Bool
  | answered _ requested => requested
  | abandoned => true

def given : Reply (List α) → List α
  | answered (.ok found) _ => found
  | _ => []

end Reply

namespace Moment

def call? : Moment → Option Call
  | chains _ => some (.load .chains)
  | assets _ => some (.load .assets)
  | deployments _ => some (.load .deployments)
  | listing _ => some .list
  | submission s _ => some (.submit s)
  | interrupt => none

def cancels : Moment → Bool
  | chains reply => reply.cancels
  | assets reply => reply.cancels
  | deployments reply => reply.cancels
  | listing reply => reply.cancels
  | submission _ reply => reply.cancels
  | interrupt => true

def chainsGiven : Moment → List Chain
  | chains reply => reply.given
  | _ => []

def assetsGiven : Moment → List Asset
  | assets reply => reply.given
  | _ => []

def deploymentsGiven : Moment → List Deployment
  | deployments reply => reply.given
  | _ => []

def listingGiven : Moment → List RegisteredAsset
  | listing reply => reply.given
  | _ => []

end Moment

abbrev Transcript := List Moment

namespace Transcript

def calls (t : Transcript) : List Call := t.filterMap Moment.call?

def chains (t : Transcript) : List Chain := t.flatMap Moment.chainsGiven

def assets (t : Transcript) : List Asset := t.flatMap Moment.assetsGiven

def deployments (t : Transcript) : List Deployment := t.flatMap Moment.deploymentsGiven

def listing (t : Transcript) : List RegisteredAsset := t.flatMap Moment.listingGiven

def candidates (t : Transcript) : Stage → List Item
  | .chains => (chains t).map Chain.item
  | .assets => (assets t).map Asset.item
  | .deployments => (deployments t).map (Deployment.item (Index.ofListing (listing t)).1)

section
variable (early late : Transcript)

@[simp] theorem callsAppend : calls (early ++ late) = calls early ++ calls late :=
  List.filterMap_append

@[simp] theorem chainsAppend : chains (early ++ late) = chains early ++ chains late :=
  List.flatMap_append

@[simp] theorem assetsAppend : assets (early ++ late) = assets early ++ assets late :=
  List.flatMap_append

@[simp] theorem deploymentsAppend :
    deployments (early ++ late) = deployments early ++ deployments late :=
  List.flatMap_append

@[simp] theorem listingAppend : listing (early ++ late) = listing early ++ listing late :=
  List.flatMap_append

end
end Transcript

structure Recorded (σ : Type) where
  world : σ
  transcript : Transcript

def Exchange.recorded {α : Type} (moment : Reply α → Moment) (exchange : σ → Exchange σ α) :
    Recorded σ → Exchange (Recorded σ) α :=
  fun r =>
    let x := exchange r.world
    ⟨x.reply, x.lines, x.world, r.transcript ++ [moment x.reply]⟩

def Source.recorded (source : Source σ) : Source (Recorded σ) where
  chains := Exchange.recorded .chains source.chains
  assets := Exchange.recorded .assets source.assets
  deployments := Exchange.recorded .deployments source.deployments

def Registry.recorded (registry : Registry σ) : Registry (Recorded σ) where
  submit s := Exchange.recorded (.submission s) (registry.submit s)
  list := Exchange.recorded .listing registry.list

def Interrupts.recorded (interrupts : Interrupts σ) : Interrupts (Recorded σ) where
  check r :=
    let (interrupted, world) := interrupts.check r.world
    (interrupted, ⟨world, if interrupted then r.transcript ++ [.interrupt] else r.transcript⟩)

def Recorded.Of (r : Recorded σ) (world : σ) : Prop := r.world = world

theorem Exchange.recordedSimilar {α : Type} (moment : Reply α → Moment)
    (exchange : σ → Exchange σ α) :
    Exchange.Similar Recorded.Of id (Exchange.recorded moment exchange) exchange := by
  intro r world same
  subst same
  exact ⟨rfl, rfl, rfl⟩

theorem sourceSimilar (source : Source σ) : Source.Similar Recorded.Of source.recorded source where
  chains := Exchange.recordedSimilar _ _
  assets := Exchange.recordedSimilar _ _
  deployments := Exchange.recordedSimilar _ _

theorem registrySimilar (registry : Registry σ) :
    Registry.Similar Recorded.Of registry.recorded registry where
  submit s := by
    intro r world same
    subst same
    exact ⟨rfl, rfl, rfl⟩
  list := Exchange.recordedSimilar _ _

theorem interruptsSimilar (interrupts : Interrupts σ) :
    Interrupts.Similar Recorded.Of interrupts.recorded interrupts := by
  intro r world same
  subst same
  exact ⟨rfl, rfl⟩

namespace Run

section
variable (source : Source σ) (registry : Registry σ) (interrupts : Interrupts σ)

def transcript (cancelled : Bool) (world : σ) : Transcript :=
  (stages source.recorded registry.recorded interrupts.recorded cancelled
    ⟨world, []⟩).world.transcript

end

theorem recordedSimilar (source : Source σ) (registry : Registry σ) (interrupts : Interrupts σ) :
    Activity.Similar Recorded.Of
      (stages source.recorded registry.recorded interrupts.recorded)
      (stages source registry interrupts) :=
  stagesSimilar (sourceSimilar source) (registrySimilar registry) (interruptsSimilar interrupts)

theorem recordedRun (stamp : Stamp) (source : Source σ) (registry : Registry σ)
    (interrupts : Interrupts σ) (cancelled : Bool) (world : σ) :
    let taken :=
      seed stamp source.recorded registry.recorded interrupts.recorded cancelled ⟨world, []⟩
    let run := seed stamp source registry interrupts cancelled world
    taken.outcome = run.outcome ∧ taken.journal = run.journal ∧ taken.world.world = run.world ∧
      taken.world.transcript = transcript source registry interrupts cancelled world := by
  obtain ⟨outcome, journal, same⟩ := runSimilar stamp (sourceSimilar source)
    (registrySimilar registry) (interruptsSimilar interrupts) cancelled
    (show Recorded.Of ⟨world, []⟩ world from rfl)
  exact ⟨outcome, journal, same, rfl⟩

end Run
end RegistrySeeding
