import RegistrySeeding.Proofs.Seed.Muting
import RegistrySeeding.Proofs.Seed.Simulation

/-! Runs that are alike whatever is written between their calls and events. Two runs whose outsides
answer alike, lines apart, make the same calls, report the same events and come to the same; only
the stamps tell them apart. -/
namespace RegistrySeeding
open Journal (deeds)
variable {σ τ : Type}

namespace Run

structure Finished.SameBut (stamp stamp' : Stamp) (one : Finished σ) (other : Finished τ) :
    Prop where
  deeds : ∃ told,
    deeds one.journal = .event (.runStart stamp.runId) ::
      (told ++ [.event (.runComplete one.outcome)]) ∧
    deeds other.journal = .event (.runStart stamp'.runId) ::
      (told ++ [.event (.runComplete other.outcome)])
  calls : Journal.calls one.journal = Journal.calls other.journal
  stages : one.outcome.stages = other.outcome.stages
  fatal : one.outcome.fatal = other.outcome.fatal

theorem seedDeeds (stamp : Stamp) (source : Source σ) (registry : Registry σ)
    (interrupts : Interrupts σ) (cancelled : Bool) (world : σ) :
    let run := seed stamp source registry interrupts cancelled world
    deeds run.journal = .event (.runStart stamp.runId) ::
      (deeds (stages source registry interrupts cancelled world).journal ++
        [.event (.runComplete run.outcome)]) :=
  (Journal.deedsAppend _ _).trans (congrArg (· ++ _) (Journal.deedsAppend _ _))

theorem seedAlike {R : σ → τ → Prop} {source : Source σ} {source' : Source τ}
    {registry : Registry σ} {registry' : Registry τ} {interrupts : Interrupts σ}
    {interrupts' : Interrupts τ} (sources : Source.Similar R source.muted source'.muted)
    (registries : Registry.Similar R registry.muted registry'.muted)
    (checks : Interrupts.Similar R interrupts interrupts') (stamp stamp' : Stamp)
    (cancelled : Bool) {w : σ} {v : τ} (related : R w v) :
    let one := seed stamp source registry interrupts cancelled w
    let other := seed stamp' source' registry' interrupts' cancelled v
    Finished.SameBut stamp stamp' one other ∧ R one.world other.world := by
  intro one other
  have quiet := stagesMuted source registry interrupts cancelled w
  have quiet' := stagesMuted source' registry' interrupts' cancelled v
  have same := stagesSimilar sources registries checks cancelled w v related
  have result := quiet.result.symm.trans (same.result.trans quiet'.result)
  have told : deeds (stages source registry interrupts cancelled w).journal =
      deeds (stages source' registry' interrupts' cancelled v).journal := by
    rw [← quiet.deeds, ← quiet'.deeds, same.journal]
  have whole : ∃ told,
      deeds one.journal = .event (.runStart stamp.runId) ::
        (told ++ [.event (.runComplete one.outcome)]) ∧
      deeds other.journal = .event (.runStart stamp'.runId) ::
        (told ++ [.event (.runComplete other.outcome)]) := by
    refine ⟨_, seedDeeds stamp source registry interrupts cancelled w, ?_⟩
    rw [told]
    exact seedDeeds stamp' source' registry' interrupts' cancelled v
  have calls (journal : List Entry) : Journal.calls (deeds journal) = Journal.calls journal :=
    Journal.viewOfDeeds (fun _ => rfl) journal
  refine ⟨⟨whole, ?_, ?_, ?_⟩, ?_⟩
  · obtain ⟨told, first, second⟩ := whole
    rw [← calls one.journal, ← calls other.journal, first, second]
    simp only [Journal.callsEvent, Journal.callsAppend]
  · simp only [one, other, seed, result]
    cases (stages source' registry' interrupts' cancelled v).result <;> rfl
  · simp only [one, other, seed, result]
    cases (stages source' registry' interrupts' cancelled v).result <;> rfl
  · have worlds := same.world
    rwa [quiet.world, quiet'.world] at worlds

end Run

theorem Exchange.selfSimilar {α : Type} (exchange : σ → Exchange σ α) :
    Exchange.Similar Eq id exchange exchange := by
  rintro w _ rfl
  exact ⟨rfl, rfl, rfl⟩

theorem Exchange.mutedSimilar {α β : Type} {f : α → β} {left right : σ → Exchange σ α}
    (same : ∀ w, (left w).reply.map f = (right w).reply.map f ∧ (left w).world = (right w).world) :
    Exchange.Similar Eq f (Exchange.muted left) (Exchange.muted right) := by
  rintro w _ rfl
  exact ⟨(same w).1, rfl, (same w).2⟩

theorem Source.selfSimilar (source : Source σ) : Source.Similar Eq source source :=
  ⟨Exchange.selfSimilar _, Exchange.selfSimilar _, Exchange.selfSimilar _⟩

theorem Registry.selfSimilar (registry : Registry σ) :
    Registry.Similar Eq registry.muted registry.muted where
  submit _ := Exchange.mutedSimilar fun _ => ⟨rfl, rfl⟩
  list := Exchange.selfSimilar _

theorem Interrupts.selfSimilar (interrupts : Interrupts σ) :
    Interrupts.Similar Eq interrupts interrupts := by
  rintro w _ rfl
  exact ⟨rfl, rfl⟩

end RegistrySeeding
