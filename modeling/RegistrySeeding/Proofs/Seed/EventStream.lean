import RegistrySeeding.Proofs.Seed.Attribution
import RegistrySeeding.Proofs.Seed.Muting

/-! A run as it is followed from outside. Whoever counts the verdicts between the start and the
completion of a stage comes to the tallies of the outcome, and the warnings tell of the same
failures as the events. -/
namespace RegistrySeeding
open Journal (events eventsAppend deeds reports warnings viewOfDeeds)

structure Recount where
  counted : List Tally := []
  current : Option Tally := none

def Recount.hear (r : Recount) : Event → Recount
  | .stageStart stage _ => ⟨r.counted, some (Tally.empty stage)⟩
  | .item _ key verdict => ⟨r.counted, r.current.map (·.note key verdict)⟩
  | .stageComplete _ => ⟨r.counted ++ r.current.toList, none⟩
  | .runStart _ | .runComplete _ => r

def Recount.hearAll (r : Recount) (told : List Event) : Recount := told.foldl hear r

namespace Recount

theorem hearAppend (r : Recount) (early late : List Event) :
    r.hearAll (early ++ late) = (r.hearAll early).hearAll late :=
  List.foldl_append

theorem hearItems (counted : List Tally) (stage : Stage) (t : Tally)
    (noted : List (String × Verdict)) :
    hearAll ⟨counted, some t⟩ (noted.map fun n => .item stage n.1 n.2) =
      ⟨counted, some (t.noteAll noted)⟩ := by
  induction noted generalizing t with
  | nil => rfl
  | cons n rest ih => exact ih _

theorem hearOpened (r : Recount) (b : Block) : r.hearAll b.opened = ⟨r.counted, some b.tally⟩ :=
  hearItems r.counted b.stage (Tally.empty b.stage) b.noted

theorem hearClosed (r : Recount) (b : Block) :
    r.hearAll b.closed = ⟨r.counted ++ [b.tally], none⟩ := by
  rw [Block.closed, hearAppend, hearOpened]
  rfl

theorem hearBlocks (r : Recount) (blocks : List Block) :
    (r.hearAll (blocks.flatMap Block.closed)).counted = r.counted ++ blocks.map Block.tally := by
  induction blocks generalizing r with
  | nil => exact (List.append_nil _).symm
  | cons b rest ih =>
    rw [List.flatMap_cons, hearAppend, ih, hearClosed]
    simp

end Recount

theorem Told.recounted {candidates : Stage → List Item} {told : List Event} {tallies : List Tally}
    {fatal : Option Abort} {blocks : List Block} {cut : Option Block}
    (all : Told candidates told tallies fatal blocks cut) (r : Recount) :
    (r.hearAll told).counted = r.counted ++ tallies := by
  rw [all.events, Recount.hearAppend, all.tallies, ← r.hearBlocks blocks]
  cases cut with
  | none => rfl
  | some b =>
    change (Recount.hearAll _ (b.opened ++ [])).counted = _
    rw [List.append_nil, Recount.hearOpened]

theorem Told.stages {candidates : Stage → List Item} {told : List Event} {tallies : List Tally}
    {fatal : Option Abort} {blocks : List Block} {cut : Option Block}
    (all : Told candidates told tallies fatal blocks cut) :
    blocks.map (·.stage) = tallies.map (·.stage) := by
  rw [all.tallies, List.map_map]
  exact List.map_congr_left fun b _ => (Tally.ofVerdictsStage b.stage b.noted).symm

theorem Step.completedBefore (stage : Stage) :
    (Step.submitting stage).completed ++ [stage] <+: Stage.all := by
  cases stage <;> decide

theorem Step.completedPrefix (step : Step) : step.completed <+: Stage.all := by
  cases step <;> decide

namespace Run
variable {σ : Type}

theorem seedEvents (stamp : Stamp) (source : Source σ) (registry : Registry σ)
    (interrupts : Interrupts σ) (token : Bool) (world : σ) :
    let run := seed stamp source registry interrupts token world
    events run.journal = .runStart stamp.runId ::
      (events (stages source registry interrupts token world).journal ++
        [.runComplete run.outcome]) := by
  intro run
  have whole : events run.journal = [.runStart stamp.runId] ++
      events (stages source registry interrupts token world).journal ++
        [.runComplete run.outcome] :=
    (eventsAppend _ _).trans (congrArg (· ++ _) (eventsAppend _ _))
  exact whole

/-- The events of a run are one block a stage and say what its outcome holds; the lines that it
writes itself warn of the failures among them and of nothing else. -/
theorem eventsSpellTheOutcome (stamp : Stamp) (source : Source σ) (registry : Registry σ)
    (interrupts : Interrupts σ) (cancelled : Bool) (world : σ) :
    let run := seed stamp source registry interrupts cancelled world
    let t := transcript source registry interrupts cancelled world
    let alone := seed stamp source.muted registry.muted interrupts cancelled world
    (∃ told blocks cut, events run.journal =
        .runStart stamp.runId :: (told ++ [.runComplete run.outcome]) ∧
      Told t.candidates told run.outcome.stages run.outcome.fatal blocks cut ∧
      blocks.map (·.stage) ++ cut.toList.map (·.stage) <+: Stage.all) ∧
    (Recount.hearAll {} (events run.journal)).counted = run.outcome.stages ∧
    alone.outcome = run.outcome ∧ deeds alone.journal = deeds run.journal ∧
    alone.journal.Sublist run.journal ∧
    warnings alone.journal = (reports run.journal).filterMap Report.warning? := by
  intro run t alone
  have spoken := seedEvents stamp source registry interrupts cancelled world
  obtain ⟨outcome, done, own, candid⟩ :=
    seedMuted stamp source registry interrupts cancelled world
  have same : reports alone.journal = reports run.journal := by
    have view := congrArg reports done
    rwa [reports, reports, viewOfDeeds fun _ => rfl, viewOfDeeds fun _ => rfl] at view
  obtain ⟨blocks, cut, told⟩ := seedTold stamp source registry interrupts cancelled world
  refine ⟨⟨_, blocks, cut, spoken, told, ?_⟩, ?_, outcome, done, own, ?_⟩
  · rw [told.stages]
    cases cut with
    | none =>
      rw [Option.toList_none, List.map_nil, List.append_nil]
      cases failed : run.outcome.fatal with
      | none =>
        exact (stagesReported stamp source registry interrupts cancelled world).2 failed ▸
          List.prefix_refl _
      | some f =>
        rw [(seedKept stamp source registry interrupts cancelled world failed).2]
        exact f.step.completedPrefix
    | some b =>
      obtain ⟨e, failed⟩ := (told.short b rfl).2.2.2
      rw [(seedKept stamp source registry interrupts cancelled world failed).2]
      exact Step.completedBefore b.stage
  · rw [spoken]
    change (Recount.hearAll {} (_ ++ _)).counted = _
    rw [Recount.hearAppend]
    exact told.recounted {}
  · rw [← same]
    exact candid

end Run
end RegistrySeeding
