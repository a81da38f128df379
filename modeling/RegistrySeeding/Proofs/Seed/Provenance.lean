import RegistrySeeding.Proofs.Seed.Agreement
import RegistrySeeding.Proofs.Seed.Keeping
import RegistrySeeding.Proofs.Seed.Transcript

/-! What every exchange keeps, a whole run keeps. Said of a world that remembers, this ties the
transcript of a run to those who replied: each moment is a reply that was given. -/
namespace RegistrySeeding
variable {σ : Type} {kept : σ → Prop}

structure Registry.Keeps (kept : σ → Prop) (registry : Registry σ) : Prop where
  submit (s : Submission) (w : σ) : kept w → kept (registry.submit s w).world
  list (w : σ) : kept w → kept (registry.list w).world

def Interrupts.Keeps (kept : σ → Prop) (interrupts : Interrupts σ) : Prop :=
  ∀ w, kept w → kept (interrupts.check w).2

namespace Activity
variable {ε α : Type}

def Preserves (kept : σ → Prop) (work : Activity σ ε α) : Prop := work.Keeps kept fun _ _ => True

theorem preservesPure (x : α) : (pure x : Activity σ ε α).Preserves kept :=
  keepsWeaken (keepsPure x) fun _ _ _ => trivial

theorem preservesPerform (call : Call) {exchange : σ → Exchange σ α}
    (keeps : ∀ w, kept w → kept (exchange w).world) : (perform call exchange).Preserves kept :=
  keepsPerform fun w holds => ⟨keeps w holds, fun _ _ _ => trivial⟩

theorem preservesLifting {interrupts : Interrupts σ} (checks : interrupts.Keeps kept) :
    Lifting (fun _ _ work _ => Preserves kept work) interrupts interrupts where
  value := preservesPure
  line l _ := keepsLog l
  lines _ _ _ _ holds := ⟨holds, fun _ _ => trivial⟩
  event e _ := keepsAnnounce e
  verdict _ _ _ := keepsThen (keepsLog _) fun _ => keepsAnnounce _
  next one other := keepsThen one other
  renamed f _ _ inner := keepsMapFailure f inner
  guarded inner := keepsUnlessCancelled checks inner

end Activity

namespace Run
open Activity

theorem stagesPreserve {source : Source σ} {registry : Registry σ} {interrupts : Interrupts σ}
    (sources : source.Keeps kept) (registries : registry.Keeps kept)
    (checks : interrupts.Keeps kept) : (stages source registry interrupts).Preserves kept :=
  @Lifting.stages _ _ _ _ _ (preservesLifting checks) registry registry source source
    (preservesPerform _ sources.chains)
    (preservesPerform _ sources.assets) (preservesPerform _ sources.deployments)
    (fun s => keepsThen (preservesPerform _ (registries.submit s)) fun _ => preservesPure _)
    (preservesPerform _ registries.list)

end Run

def Moment.Given (source : Source σ) (registry : Registry σ) : Moment → Prop
  | chains reply => ∃ w, (source.chains w).reply = reply
  | assets reply => ∃ w, (source.assets w).reply = reply
  | deployments reply => ∃ w, (source.deployments w).reply = reply
  | listing reply => ∃ w, (registry.list w).reply = reply
  | submission s reply => ∃ w, (registry.submit s w).reply = reply
  | interrupt => True

theorem Run.momentsGiven (source : Source σ) (registry : Registry σ) (interrupts : Interrupts σ)
    (token : Bool) (world : σ) :
    ∀ m ∈ transcript source registry interrupts token world, m.Given source registry := by
  let kept (r : Recorded σ) : Prop := ∀ m ∈ r.transcript, m.Given source registry
  have grown {t : Transcript} {m : Moment} (all : ∀ m ∈ t, m.Given source registry)
      (one : m.Given source registry) : ∀ n ∈ t ++ [m], n.Given source registry := by
    intro n inside
    rcases List.mem_append.mp inside with early | late
    · exact all n early
    · rw [List.mem_singleton.mp late]
      exact one
  have asked {α : Type} (moment : Reply α → Moment) (exchange : σ → Exchange σ α)
      (given : ∀ w, (moment (exchange w).reply).Given source registry) :
      ∀ r, kept r → kept (Exchange.recorded moment exchange r).world :=
    fun r all => grown all (given r.world)
  have checks : interrupts.recorded.Keeps kept := by
    intro r all
    simp only [Interrupts.recorded]
    split
    · exact grown all trivial
    · exact all
  have sources : source.recorded.Keeps kept :=
    ⟨asked .chains _ fun w => ⟨w, rfl⟩, asked .assets _ fun w => ⟨w, rfl⟩,
      asked .deployments _ fun w => ⟨w, rfl⟩⟩
  have registries : registry.recorded.Keeps kept :=
    ⟨fun s => asked (.submission s) _ fun w => ⟨w, rfl⟩, asked .listing _ fun w => ⟨w, rfl⟩⟩
  exact (stagesPreserve sources registries checks token ⟨world, []⟩ (List.forall_mem_nil _)).1

end RegistrySeeding
