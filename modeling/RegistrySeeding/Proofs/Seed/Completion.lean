import RegistrySeeding.Proofs.Seed.Course

/-! Stages that are completed are reported, and those are the stages that an outcome keeps. A
stage that is cut short reports no tally. -/
namespace RegistrySeeding
open Journal (completions completionsAppend)

structure Account.Completes {ε : Type} (stage : Stage) (a : Account ε Tally) : Prop where
  journal : completions a.journal = a.result.toOption.toList
  stage : ∀ tally, a.result = .ok tally → tally.stage = stage

namespace Course
variable {α β : Type} {token : Bool} {stage : Stage}

theorem completesFetched {call : Call} {moment : Reply α → Moment} {value : α → β}
    {account : Account Error β} (went : Fetched call moment value token account) :
    completions account.journal = [] := by
  have one (lines : List Line) : completions (.call call :: lines.map .line) = [] :=
    (Journal.silentLines lines).completions
  cases went with
  | abandoned _ lines => exact one lines
  | refused _ e requested lines => exact one lines
  | gave _ x requested lines => exact one lines

theorem completesJudged {item : Item} {account : Account Error Verdict}
    (went : Guarded (Judged item) token account) : completions account.journal = [] := by
  cases went with
  | barred stopped => rfl
  | begun went =>
    cases went with
    | locally work => rfl
    | remotely work went => exact completesFetched went

theorem completesSubmitted {items : List Item} {tally : Tally} {account : Account Error Tally}
    (went : Submitted items tally token account) :
    completions account.journal = [] ∧ ∀ t, account.result = .ok t → t.stage = tally.stage := by
  induction went with
  | done => exact ⟨rfl, fun t same => by cases same; rfl⟩
  | cut failed => exact ⟨completesJudged failed, nofun⟩
  | on came later ih =>
    refine ⟨?_, fun t same => (ih.2 t same).trans (Tally.noteStage _ _ _)⟩
    rw [completionsAppend, completionsAppend, ih.1]
    exact congrArg (· ++ []) (completesJudged came)

theorem completesSeeded {items : List Item} {account : Account Error Tally}
    (went : Seeded stage items token account) : account.Completes stage := by
  cases went with
  | cut failed => exact ⟨(completesSubmitted failed).1, nofun⟩
  | @complete _ tally _ journal _ went =>
    obtain ⟨none, own⟩ := completesSubmitted went
    refine ⟨?_, fun t same => by cases same; exact own _ rfl⟩
    rw [completionsAppend, completionsAppend, none]
    rfl

theorem completesAtStep {step : Step} {items : List Item} {account : Account Abort Tally}
    (went : AtStep step (Seeded stage items) token account) : account.Completes stage := by
  cases went with
  | failed went =>
    cases went with
    | barred stopped => exact ⟨rfl, nofun⟩
    | begun went => exact ⟨(completesSeeded went).journal, nofun⟩
  | came went =>
    cases went with
    | begun went =>
      exact ⟨(completesSeeded went).journal, fun t same => by
        cases same; exact (completesSeeded went).stage _ rfl⟩

theorem completesFetch {step : Step} {call : Call} {moment : Reply α → Moment} {value : α → β}
    {account : Account Abort β} (went : AtStep step (Fetched call moment value) token account) :
    completions account.journal = [] := by
  cases went with
  | failed went =>
    cases went with
    | barred stopped => rfl
    | begun went => exact completesFetched went
  | came went =>
    cases went with
    | begun went => exact completesFetched went

theorem completesBound {first : Course Abort α} {next : α → Course Abort Tally}
    {account : Account Abort Tally} (went : Bound first next token account)
    (one : ∀ token account, first token account → completions account.journal = [])
    (other : ∀ x token account, next x token account → account.Completes stage) :
    account.Completes stage := by
  cases went with
  | cut failed => exact ⟨one _ _ failed, nofun⟩
  | on came later =>
    have tail := other _ _ _ later
    refine ⟨?_, tail.stage⟩
    rw [completionsAppend, one _ _ came]
    exact tail.journal

theorem chainsComplete {account : Account Abort Tally} (went : OfChains token account) :
    account.Completes .chains :=
  completesBound went (fun _ _ => completesFetch) fun _ _ _ => completesAtStep

theorem assetsComplete {account : Account Abort Tally} (went : OfAssets token account) :
    account.Completes .assets :=
  completesBound went (fun _ _ => completesFetch) fun _ _ _ => completesAtStep

theorem deploymentsComplete {account : Account Abort Tally} (went : OfDeployments token account) :
    account.Completes .deployments :=
  completesBound went (fun _ _ => completesFetch) fun _ _ _ rest =>
    completesBound rest (fun _ _ => completesFetch) fun _ _ _ => completesAtStep

theorem stagesComplete {account : Account Run.Cut (List Tally)} (went : OfStages token account) :
    completions account.journal = (match account.result with
      | .ok tallies => tallies
      | .error cut => cut.stages) ∧
    ∀ tallies, account.result = .ok tallies → tallies.map (·.stage) = Stage.all := by
  cases went with
  | inChains failed => exact ⟨(chainsComplete failed).journal, nofun⟩
  | inAssets chains failed =>
    refine ⟨?_, nofun⟩
    rw [completionsAppend, (chainsComplete chains).journal, (assetsComplete failed).journal]
    rfl
  | inDeployments chains assets failed =>
    refine ⟨?_, nofun⟩
    rw [completionsAppend, completionsAppend, (chainsComplete chains).journal,
      (assetsComplete assets).journal, (deploymentsComplete failed).journal]
    rfl
  | complete chains assets deployments =>
    have first := chainsComplete chains
    have second := assetsComplete assets
    have third := deploymentsComplete deployments
    refine ⟨?_, fun tallies same => ?_⟩
    · rw [completionsAppend, completionsAppend, first.journal, second.journal, third.journal]
      rfl
    · cases same
      simp [first.stage _ rfl, second.stage _ rfl, third.stage _ rfl, Stage.all]

end Course

namespace Run
variable {σ : Type}

theorem stagesReported (stamp : Stamp) (source : Source σ) (registry : Registry σ)
    (interrupts : Interrupts σ) (cancelled : Bool) (world : σ) :
    let run := seed stamp source registry interrupts cancelled world
    run.outcome.stages = completions run.journal ∧
      (run.outcome.fatal = none → run.outcome.stages.map (·.stage) = Stage.all) := by
  obtain ⟨told, all⟩ :=
    Course.stagesComplete (stagesCourse source registry interrupts cancelled world)
  have same : completions (seed stamp source registry interrupts cancelled world).journal =
      completions (stages source registry interrupts cancelled world).journal := by
    rw [seed, completionsAppend, completionsAppend]
    exact List.append_nil _
  intro run
  simp only [run, same, told]
  cases came : (stages source registry interrupts cancelled world).result with
  | error cut => simp [seed, came, outcomeOf]
  | ok tallies => simpa [seed, came, outcomeOf] using all tallies came

end Run
end RegistrySeeding
