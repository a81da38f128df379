import RegistrySeeding.Proofs.Seed.Attribution
import RegistrySeeding.Proofs.Seed.CallOrder

/-! A run whose records of one stage are refused. It never gets past that load: either it is cut
short before, or the load is its last call and the refusal is what it ends with. -/
namespace RegistrySeeding
open Journal (calls completions)
variable {σ : Type}

def Step.Before (first second : Step) : Prop :=
  ∃ done rest, Step.all = done ++ first :: rest ∧ second ∈ rest

structure Run.Finished.HaltsAt (run : Finished σ) (stage : Stage) (e : Error) : Prop where
  last : ∃ before, calls run.journal = before ++ [.load stage]
  fatal : run.outcome.fatal = some (.ofError (Call.load stage).step e)

structure Run.Finished.StopsShortOf (run : Finished σ) (stage : Stage) : Prop where
  uncalled : .load stage ∉ calls run.journal
  fatal : ∃ fatal, run.outcome.fatal = some fatal ∧
    (fatal.step.Before (Call.load stage).step ∨
      fatal = .ofError (Call.load stage).step .cancelled)

def Transcript.Refuses (t : Transcript) (stage : Stage) (e : Error) : Prop :=
  ∀ m ∈ t, m.call? = some (.load stage) → m.error? = some e

theorem Call.stepLoad {call : Call} {stage : Stage} (same : call.step = (Call.load stage).step) :
    call = .load stage := by
  cases call with
  | load other => cases other <;> cases stage <;> first | rfl | cases same
  | list => cases stage <;> cases same
  | submit s => cases s <;> cases stage <;> cases same

theorem Transcript.mem_calls {t : Transcript} {call : Call} :
    call ∈ t.calls ↔ ∃ m ∈ t, m.call? = some call :=
  List.mem_filterMap

namespace Transcript.Refuses
variable {t : Transcript} {stage : Stage} {e : Error}

theorem unpassed (refuses : t.Refuses stage e) (journal : List Entry) :
    (Call.load stage).step ∉ t.passed journal := by
  intro passed
  rcases List.mem_append.mp passed with fetched | completed
  · obtain ⟨m, inside, same⟩ := List.mem_filterMap.mp fetched
    unfold Moment.fetched? at same
    split at same
    · rename_i other asks clean
      have own := Call.stepLoad (Option.some.inj same)
      rw [own] at asks
      rw [refuses m inside asks] at clean
      cases clean
    · cases stage <;> cases same
    · cases same
  · obtain ⟨tally, _, same⟩ := List.mem_map.mp completed
    cases own : tally.stage <;> rw [own] at same <;> cases stage <;> cases same

theorem candidates (refuses : t.Refuses stage e) : t.candidates stage = [] := by
  have ungiven {α : Type} {reply : Reply (List α)} (error : reply.error? = some e) :
      reply.given = [] := by
    unfold Reply.error? at error
    split at error <;> first | rfl | cases error
  cases stage with
  | chains =>
    have none : t.chains = [] := List.flatMap_eq_nil_iff.mpr fun m inside => by
      cases m with
      | chains reply => exact ungiven (refuses _ inside rfl)
      | _ => rfl
    rw [Transcript.candidates, none, List.map_nil]
  | assets =>
    have none : t.assets = [] := List.flatMap_eq_nil_iff.mpr fun m inside => by
      cases m with
      | assets reply => exact ungiven (refuses _ inside rfl)
      | _ => rfl
    rw [Transcript.candidates, none, List.map_nil]
  | deployments =>
    have none : t.deployments = [] := List.flatMap_eq_nil_iff.mpr fun m inside => by
      cases m with
      | deployments reply => exact ungiven (refuses _ inside rfl)
      | _ => rfl
    rw [Transcript.candidates, none, List.map_nil]

end Transcript.Refuses

theorem Blame.refused {t : Transcript} {stage : Stage} {e e' : Error} {token : Bool} {step : Step}
    (refuses : t.Refuses stage e) (blame : Blame token step t e') :
    (∃ before, t.calls = before ++ [.load stage] ∧ step = (Call.load stage).step ∧ e' = e) ∨
      (.load stage ∉ t.calls ∧ (step = (Call.load stage).step → e' = .cancelled)) := by
  have dirty {m : Moment} (inside : m ∈ t) (asks : m.call? = some (.load stage)) :
      m.error? ≠ none := by
    rw [refuses m inside asks]
    exact nofun
  cases blame with
  | @reply before m call _ first asks own error =>
    have last : m ∈ before ++ [m] := List.mem_append_right _ (List.mem_singleton_self m)
    by_cases load : call = .load stage
    · subst load
      refine .inl ⟨Transcript.calls before, ?_, own.symm, ?_⟩
      · rw [Transcript.callsAppend]
        exact congrArg _ (List.filterMap_cons_some asks)
      · exact Option.some.inj (error.symm.trans (refuses m last asks))
    · refine .inr ⟨fun called => ?_, fun same => absurd (Call.stepLoad (own.trans same)) load⟩
      obtain ⟨n, inside, asked⟩ := Transcript.mem_calls.mp called
      rcases List.mem_append.mp inside with early | late
      · exact dirty inside asked (first n early)
      · rw [List.mem_singleton.mp late, asks] at asked
        exact load (Option.some.inj asked)
  | token clean cancelled =>
    refine .inr ⟨fun called => ?_, fun _ => rfl⟩
    obtain ⟨n, inside, asked⟩ := Transcript.mem_calls.mp called
    exact dirty inside asked (clean n inside)

namespace Run
variable (stamp : Stamp) (source : Source σ) (registry : Registry σ) (interrupts : Interrupts σ)
  (token : Bool) (world : σ)

theorem seedCalls : calls (seed stamp source registry interrupts token world).journal =
    (transcript source registry interrupts token world).calls := by
  have told := Course.toldStages (stagesCourse source registry interrupts token world)
  rw [← told]
  simp [seed]

theorem seedRefused {stage : Stage} {e : Error}
    (refuses : (transcript source registry interrupts token world).Refuses stage e) :
    let run := seed stamp source registry interrupts token world
    (run.HaltsAt stage e ∨ run.StopsShortOf stage) ∧
      ∀ s, .submit s ∈ calls run.journal → s.stage ≠ stage := by
  intro run
  have called := seedCalls stamp source registry interrupts token world
  have advances := seedAdvances source registry interrupts token world
  have fatal := seedFatal stamp source registry interrupts token world
  constructor
  · cases came : (stages source registry interrupts token world).result with
    | ok tallies =>
      have passed := (advances.came tallies (by rw [came]; rfl)).1 (Call.load stage).step
      exact absurd (passed.mpr (by cases stage <;> decide)) (refuses.unpassed _)
    | error cut =>
      obtain ⟨done, rest, e', place, passed, own, blame⟩ :=
        advances.failed cut.fatal (by rw [came]; rfl)
      have ended : run.outcome.fatal = some cut.fatal := fatal.trans (by rw [came]; rfl)
      rcases blame.refused refuses with ⟨before, last, same, rfl⟩ | ⟨uncalled, threshold⟩
      · exact .inl ⟨⟨before, called.trans last⟩, by rw [ended, own, same]⟩
      · refine .inr ⟨called ▸ uncalled, cut.fatal, ended, ?_⟩
        have listed : (Call.load stage).step ∈ done ++ cut.fatal.step :: rest := by
          rw [← place]
          cases stage <;> decide
        rcases List.mem_append.mp listed with behind | ahead
        · exact absurd ((passed _).mpr behind) (refuses.unpassed _)
        · rcases List.mem_cons.mp ahead with same | later
          · exact .inr (by rw [own, same, threshold same.symm])
          · exact .inl ⟨done, rest, place, later⟩
  · rintro s submitted rfl
    have spells := Course.spellsStages (stagesCourse source registry interrupts token world)
    have asked : .submit s ∈
        Journal.requests (stages source registry interrupts token world).journal := by
      have told := Course.toldStages (stagesCourse source registry interrupts token world)
      refine List.mem_filter.mpr ⟨?_, rfl⟩
      rw [told, ← called]
      exact submitted
    have counted : 0 < (word _).count (.submit s) :=
      List.count_pos_iff.mpr (spells.begins.subset asked)
    rw [wordCountSubmit, refuses.candidates] at counted
    cases counted

end Run
end RegistrySeeding
