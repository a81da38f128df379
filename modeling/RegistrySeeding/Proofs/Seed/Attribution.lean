import RegistrySeeding.Proofs.Seed.Blocks

/-! What an outcome says of its run. A run goes through its steps in order and is cut short at the
first one that does not come to a value, by an error reply of that step or by the cancelled token. -/
namespace RegistrySeeding
open Journal (completions completionsAppend)

namespace Step

def all : List Step :=
  [loadChains, submitChains, loadAssets, submitAssets, listAssets, loadDeployments,
   submitDeployments]

def completed : Step → List Stage
  | loadChains | submitChains => []
  | loadAssets | submitAssets => [.chains]
  | listAssets | loadDeployments | submitDeployments => [.chains, .assets]

end Step

def Moment.fetched? (m : Moment) : Option Step :=
  match m.call?, m.error? with
  | some (.load stage), none => some (Call.load stage).step
  | some .list, none => some Call.list.step
  | _, _ => none

def Transcript.passed (t : Transcript) (journal : List Entry) : List Step :=
  t.filterMap Moment.fetched? ++ (completions journal).map fun tally => .submitting tally.stage

theorem Transcript.passedAppend (before after : Transcript) (early late : List Entry) (s : Step) :
    s ∈ passed (before ++ after) (early ++ late) ↔
      s ∈ passed before early ∨ s ∈ passed after late := by
  simp only [passed, List.filterMap_append, completionsAppend, List.map_append, List.mem_append]
  grind

/-- Where an error of a step comes from: a reply to it, the first that was an error, or the token. -/
inductive Blame (token : Bool) (step : Step) : Transcript → Error → Prop where
  | reply {before m call e} (first : ∀ m ∈ before, m.error? = none) (asks : m.call? = some call)
      (own : call.step = step) (error : m.error? = some e) :
      Blame token step (before ++ [m]) e
  | token {t} (clean : ∀ m ∈ t, m.error? = none)
      (cancelled : token = true ∨ ∃ m ∈ t, m.cancels = true) : Blame token step t .cancelled

section
variable {token middle : Bool} {step : Step}

theorem Blame.only {m : Moment} {call : Call} {e : Error} (asks : m.call? = some call)
    (own : call.step = step) (error : m.error? = some e) : Blame token step [m] e := by
  have one : Blame token step ([] ++ [m]) e := .reply (List.forall_mem_nil _) asks own error
  exact one

theorem Blame.begun {t : Transcript} {e : Error} (blame : Blame false step t e) :
    Blame token step t e := by
  cases blame with
  | reply first asks own error => exact .reply first asks own error
  | token clean cancelled => exact .token clean (.inr (cancelled.resolve_left nofun))

theorem Blame.after {before after : Transcript} {e : Error}
    (clean : ∀ m ∈ before, m.error? = none)
    (handed : middle = true → token = true ∨ ∃ m ∈ before, m.cancels = true)
    (blame : Blame middle step after e) : Blame token step (before ++ after) e := by
  have both {rest : Transcript} (others : ∀ m ∈ rest, m.error? = none) :
      ∀ m ∈ before ++ rest, m.error? = none := by
    intro m inside
    exact (List.mem_append.mp inside).elim (clean m) (others m)
  cases blame with
  | reply first asks own error =>
    rw [← List.append_assoc]
    exact .reply (both first) asks own error
  | token others cancelled =>
    refine .token (both others) ?_
    rcases cancelled with same | ⟨m, inside, cancels⟩
    · rcases handed same with start | ⟨m, inside, cancels⟩
      · exact .inl start
      · exact .inr ⟨m, List.mem_append_left _ inside, cancels⟩
    · exact .inr ⟨m, List.mem_append_right _ inside, cancels⟩

theorem Blame.quiet {t : Transcript} {e : Error} (blame : Blame false step t e) :
    ∃ m ∈ t, m.error? ≠ none ∨ m.cancels = true := by
  cases blame with
  | @reply before m _ _ _ _ _ error =>
    exact ⟨m, List.mem_append_right _ (List.mem_singleton_self m), .inl (by simp [error])⟩
  | token _ cancelled =>
    obtain ⟨m, inside, cancels⟩ := cancelled.resolve_left nofun
    exact ⟨m, inside, .inr cancels⟩

end

structure Advances {α : Type} (steps : List Step) (token : Bool) (a : Account Abort α) : Prop where
  came : ∀ x, a.result = .ok x → (∀ s, s ∈ a.moments.passed a.journal ↔ s ∈ steps) ∧
    (∀ m ∈ a.moments, m.error? = none) ∧
    (a.cancelled = true → ∃ m ∈ a.moments, m.cancels = true)
  failed : ∀ fatal, a.result = .error fatal → ∃ done rest e, steps = done ++ fatal.step :: rest ∧
    (∀ s, s ∈ a.moments.passed a.journal ↔ s ∈ done) ∧ fatal = .ofError fatal.step e ∧
    Blame token fatal.step a.moments e

section
variable {α β : Type} {steps more : List Step} {token middle left : Bool}
  {early late : List Entry} {before after : Transcript}

theorem Advances.cut {fatal : Abort}
    (one : Advances (α := α) steps token ⟨.error fatal, left, early, before⟩) :
    Advances (α := β) (steps ++ more) token ⟨.error fatal, left, early, before⟩ := by
  refine ⟨nofun, fun other same => ?_⟩
  cases same
  obtain ⟨done, rest, e, place, passed, own, blame⟩ := one.failed fatal rfl
  exact ⟨done, rest ++ more, e, by simp [place], passed, own, blame⟩

theorem Advances.on {x : α} {result : Except Abort β}
    (one : Advances steps token ⟨.ok x, middle, early, before⟩)
    (other : Advances more middle ⟨result, left, late, after⟩) :
    Advances (steps ++ more) token ⟨result, left, early ++ late, before ++ after⟩ := by
  obtain ⟨passed, clean, handed⟩ := one.came x rfl
  refine ⟨fun y same => ?_, fun fatal same => ?_⟩
  · obtain ⟨passed', clean', handed'⟩ := other.came y same
    refine ⟨fun s => ?_, ?_, fun cancelled => ?_⟩
    · rw [Transcript.passedAppend, passed, passed', List.mem_append]
    · intro m inside
      exact (List.mem_append.mp inside).elim (clean m) (clean' m)
    · obtain ⟨m, inside, cancels⟩ := handed' cancelled
      exact ⟨m, List.mem_append_right _ inside, cancels⟩
  -- The steps of the first part are behind the one that fails, and none of its moments is to blame.
  · obtain ⟨done, rest, e, place, passed', own, blame⟩ := other.failed fatal same
    refine ⟨steps ++ done, rest, e, by simp [place], fun s => ?_, own,
      blame.after clean fun same => .inr (handed same)⟩
    rw [Transcript.passedAppend, passed, passed', List.mem_append]

theorem Advances.value {x : α} (y : β)
    (one : Advances steps token ⟨.ok x, left, early, before⟩) :
    Advances steps token ⟨.ok y, left, early, before⟩ :=
  ⟨fun _ _ => one.came x rfl, nofun⟩

end

namespace Course
variable {α β : Type} {token : Bool} {stage : Stage}

theorem blameStopped {step : Step} {moments : Transcript} (stopped : Stopped token moments) :
    Blame token step moments .cancelled := by
  cases stopped with
  | before => exact .token (List.forall_mem_nil _) (.inl rfl)
  | now => exact .token (by simp [Moment.error?]) (.inr ⟨_, List.mem_singleton_self _, rfl⟩)

theorem advancesBarred {step : Step} {moments : Transcript} (stopped : Stopped token moments) :
    Advances (α := α) [step] token ⟨.error (.ofError step .cancelled), true, [], moments⟩ := by
  refine ⟨nofun, fun fatal same => ?_⟩
  cases same
  refine ⟨[], [], .cancelled, rfl, ?_, rfl, blameStopped stopped⟩
  cases stopped <;> exact fun s => Iff.rfl

theorem advancesFetch (call : Call) {moment : Reply α → Moment} {value : α → β}
    {account : Account Abort β} (asks : ∀ reply, (moment reply).call? = some call)
    (cancels : ∀ reply, (moment reply).cancels = reply.cancels)
    (errors : ∀ reply, (moment reply).error? = reply.error?) (fetch : ∀ s, call ≠ .submit s)
    (went : AtStep call.step (Fetched call moment value) token account) :
    Advances [call.step] token account := by
  have untold (lines : List Line) : completions (.call call :: lines.map .line) = [] :=
    (Journal.silentLines lines).completions
  have refused {left : Bool} {reply : Reply α} {e : Error} (lines : List Line)
      (error : reply.error? = some e) : Advances (α := β) [call.step] token
        ⟨.error (.ofError call.step e), left, .call call :: lines.map .line, [moment reply]⟩ := by
    have failed : (moment reply).error? = some e := (errors reply).trans error
    refine ⟨nofun, fun fatal same => ?_⟩
    cases same
    refine ⟨[], [], e, rfl, fun s => ?_, rfl, ?_⟩
    · simp [Transcript.passed, untold, Moment.fetched?, failed]
    · exact .only (asks reply) rfl failed
  cases went with
  | failed went =>
    cases went with
    | barred stopped => exact advancesBarred stopped
    | begun went =>
      cases went with
      | abandoned _ lines => exact refused lines rfl
      | refused _ e requested lines => exact refused lines rfl
  | came went =>
    cases went with
    | begun went =>
      cases went with
      | gave _ x requested lines =>
        have clean : (moment (.answered (.ok x) requested)).error? = none := errors _
        refine ⟨fun y _ => ⟨fun s => ?_, by simp [clean], fun asked => ?_⟩, nofun⟩
        · have fetched : (moment (.answered (.ok x) requested)).fetched? = some call.step := by
            unfold Moment.fetched?
            rw [asks, clean]
            cases call with
            | load stage => rfl
            | list => rfl
            | submit s => exact absurd rfl (fetch s)
          simp [Transcript.passed, untold, fetched]
        · exact ⟨_, List.mem_singleton_self _, (cancels _).trans asked⟩

theorem judgedBlame {item : Item} {e : Error} {left : Bool} {journal : List Entry}
    {moments : Transcript} (belongs : item.Belongs stage)
    (failed : Guarded (Judged item) token ⟨.error e, left, journal, moments⟩) :
    Blame token (.submitting stage) moments e := by
  have refused {s : Submission} {reply : Reply Answer} (work : item.work = .ok s)
      (error : reply.error? = some e) : Blame token (.submitting stage) [.submission s reply] e :=
    .only rfl (by rw [Call.step, belongs s work]) error
  cases failed with
  | barred stopped => exact blameStopped stopped
  | begun failed =>
    cases failed with
    | remotely work failed =>
      cases failed with
      | abandoned _ lines => exact refused work rfl
      | refused _ e requested lines => exact refused work rfl

theorem judgedClean {item : Item} {verdict : Verdict} {left : Bool} {journal : List Entry}
    {moments : Transcript}
    (came : Guarded (Judged item) token ⟨.ok verdict, left, journal, moments⟩) :
    (∀ m ∈ moments, m.error? = none) ∧ (left = true → ∃ m ∈ moments, m.cancels = true) := by
  cases came with
  | begun came =>
    cases came with
    | locally work => exact ⟨List.forall_mem_nil _, nofun⟩
    | remotely work came =>
      cases came with
      | gave _ answer requested lines =>
        exact ⟨by simp [Moment.error?, Reply.error?],
          fun asked => ⟨_, List.mem_singleton_self _, asked⟩⟩

theorem submittedBlame {items : List Item} {tally : Tally} {account : Account Error Tally}
    (belong : ∀ item ∈ items, item.Belongs stage) (went : Submitted items tally token account)
    {e : Error} (failed : account.result = .error e) :
    Blame token (.submitting stage) account.moments e := by
  induction went with
  | done => nomatch failed
  | cut head =>
    cases failed
    exact judgedBlame (belong _ List.mem_cons_self) head
  | on came later ih =>
    obtain ⟨clean, handed⟩ := judgedClean came
    have tail := ih (fun i inside => belong i (List.mem_cons_of_mem _ inside)) failed
    exact tail.after clean fun cancelled => .inr (handed cancelled)

theorem submittedClean {items : List Item} {tally : Tally} {account : Account Error Tally}
    (went : Submitted items tally token account) {t : Tally} (came : account.result = .ok t) :
    (∀ m ∈ account.moments, m.error? = none) ∧
      (account.cancelled = true → token = true ∨ ∃ m ∈ account.moments, m.cancels = true) := by
  induction went with
  | done => exact ⟨List.forall_mem_nil _, .inl⟩
  | cut head => nomatch came
  | on head later ih =>
    obtain ⟨clean, handed⟩ := judgedClean head
    obtain ⟨others, asked⟩ := ih came
    refine ⟨fun m inside => ?_, fun cancelled => .inr ?_⟩
    · exact (List.mem_append.mp inside).elim (clean m) (others m)
    · rcases asked cancelled with middle | ⟨m, inside, cancels⟩
      · obtain ⟨m, inside, cancels⟩ := handed middle
        exact ⟨m, List.mem_append_left _ inside, cancels⟩
      · exact ⟨m, List.mem_append_right _ inside, cancels⟩

theorem seededMoments {items : List Item} {account : Account Error Tally}
    (went : Seeded stage items token account) :
    ∃ result left journal, Submitted items (Tally.empty stage) token
      ⟨result, left, journal, account.moments⟩ ∧ result = account.result ∧
      left = account.cancelled := by
  cases went with
  | cut failed => exact ⟨_, _, _, failed, rfl, rfl⟩
  | complete went => exact ⟨_, _, _, went, rfl, rfl⟩

theorem fetchedNone {journal : List Entry} {moments : Transcript}
    (inside : Local [.submitting stage] journal moments) :
    moments.filterMap Moment.fetched? = [] := by
  rw [List.filterMap_eq_nil_iff]
  intro m member
  unfold Moment.fetched?
  cases asks : m.call? with
  | none => rfl
  | some call =>
    have own := inside.asked call (List.mem_filterMap.mpr ⟨m, member, asks⟩)
    cases call with
    | load stage' => cases stage <;> cases stage' <;> nomatch List.mem_singleton.mp own
    | list => cases stage <;> nomatch List.mem_singleton.mp own
    | submit s => rfl

theorem advancesSubmit {items : List Item} {account : Account Abort Tally}
    (belong : ∀ item ∈ items, item.Belongs stage)
    (went : AtStep (.submitting stage) (Seeded stage items) token account) :
    Advances [.submitting stage] token account := by
  have complete := completesAtStep went
  have fetched := fetchedNone (atStepLocal went fun _ _ => seededLocal stage belong)
  cases went with
  | failed went =>
    cases went with
    | barred stopped => exact advancesBarred stopped
    | begun went =>
      obtain ⟨_, _, _, submitted, rfl, rfl⟩ := seededMoments went
      have blame := submittedBlame belong submitted rfl
      refine ⟨nofun, fun fatal same => ?_⟩
      cases same
      refine ⟨[], [], _, rfl, fun s => ?_, rfl, blame.begun⟩
      rw [Transcript.passed, fetched, complete.journal]
      rfl
  | came went =>
    cases went with
    | begun went =>
      obtain ⟨_, _, _, submitted, rfl, rfl⟩ := seededMoments went
      obtain ⟨clean, asked⟩ := submittedClean submitted rfl
      refine ⟨fun tally same => ⟨fun s => ?_, clean, fun cancelled => ?_⟩, nofun⟩
      · rw [Transcript.passed, fetched, complete.journal, ← complete.stage tally same]
        cases same
        rfl
      · exact (asked cancelled).resolve_left nofun

theorem advancesStage {moment : Reply (List α) → Moment} {item : α → Item}
    {account : Account Abort Tally}
    (asks : ∀ reply, (moment reply).call? = some (.load stage))
    (cancels : ∀ reply, (moment reply).cancels = reply.cancels)
    (errors : ∀ reply, (moment reply).error? = reply.error?)
    (belong : ∀ x, (item x).Belongs stage)
    (went : Bound (AtStep (Call.load stage).step (Fetched (.load stage) moment id))
      (fun records => AtStep (.submitting stage) (Seeded stage (records.map item))) token account) :
    Advances [(Call.load stage).step, .submitting stage] token account := by
  cases went with
  | cut failed => exact (advancesFetch _ asks cancels errors nofun failed).cut
  | on came later =>
    exact (advancesFetch _ asks cancels errors nofun came).on
      (advancesSubmit (Item.belongEach belong _) later)

section
variable {account : Account Abort Tally}

theorem advancesChains (went : OfChains token account) :
    Advances [.loadChains, .submitChains] token account :=
  advancesStage (fun _ => rfl) (fun _ => rfl) (fun _ => rfl) Chain.itemBelongs went

theorem advancesAssets (went : OfAssets token account) :
    Advances [.loadAssets, .submitAssets] token account :=
  advancesStage (fun _ => rfl) (fun _ => rfl) (fun _ => rfl) Asset.itemBelongs went

theorem advancesDeployments (went : OfDeployments token account) :
    Advances [.listAssets, .loadDeployments, .submitDeployments] token account := by
  cases went with
  | cut failed =>
    exact (advancesFetch .list (fun _ => rfl) (fun _ => rfl) (fun _ => rfl) nofun failed).cut
  | on came later =>
    refine (advancesFetch .list (fun _ => rfl) (fun _ => rfl) (fun _ => rfl) nofun came).on ?_
    exact advancesStage (fun _ => rfl) (fun _ => rfl) (fun _ => rfl) (Deployment.itemBelongs _)
      later

end

theorem advancesStages {account : Account Run.Cut (List Tally)} (went : OfStages token account) :
    Advances Step.all token
      ⟨account.result.mapError (·.fatal), account.cancelled, account.journal, account.moments⟩ := by
  cases went with
  | inChains failed => exact (advancesChains failed).cut
  | inAssets chains failed => exact (advancesChains chains).on (advancesAssets failed).cut
  | inDeployments chains assets failed =>
    exact (advancesChains chains).on ((advancesAssets assets).on (advancesDeployments failed).cut)
  | complete chains assets deployments =>
    exact (advancesChains chains).on
      ((advancesAssets assets).on ((advancesDeployments deployments).value _))

theorem stagesKept {account : Account Run.Cut (List Tally)} (went : OfStages token account)
    (cut : Run.Cut) (failed : account.result = .error cut) :
    cut.stages.map (·.stage) = cut.fatal.step.completed := by
  have within {steps : List Step} {token left : Bool} {journal : List Entry}
      {moments : Transcript} {fatal : Abort}
      (part : Advances (α := Tally) steps token ⟨.error fatal, left, journal, moments⟩) :
      fatal.step ∈ steps := by
    obtain ⟨done, rest, _, place, _⟩ := part.failed fatal rfl
    rw [place]
    exact List.mem_append_right _ List.mem_cons_self
  cases went with
  | inChains chains =>
    cases failed
    have step := within (advancesChains chains)
    simp only [List.mem_cons, List.not_mem_nil, or_false] at step
    rcases step with step | step <;> rw [step] <;> rfl
  | inAssets chains assets =>
    cases failed
    have step := within (advancesAssets assets)
    have first := (chainsComplete chains).stage _ rfl
    simp only [List.mem_cons, List.not_mem_nil, or_false] at step
    rcases step with step | step <;> rw [step, List.map_singleton, first] <;> rfl
  | inDeployments chains assets deployments =>
    cases failed
    have step := within (advancesDeployments deployments)
    have first := (chainsComplete chains).stage _ rfl
    have second := (assetsComplete assets).stage _ rfl
    simp only [List.mem_cons, List.not_mem_nil, or_false] at step
    rcases step with step | step | step <;>
      rw [step, List.map_cons, List.map_singleton, first, second] <;> rfl
  | complete => nomatch failed

end Course

theorem Step.completedNotAll (step : Step) : step.completed ≠ Stage.all := by
  cases step <;> decide

theorem Error.cancelledIff (e : Error) : e.isCancelled = true ↔ e = .cancelled := by
  cases e <;> simp [isCancelled]

theorem Told.balanced {candidates : Stage → List Item} {events : List Event} {tallies : List Tally}
    {fatal : Option Abort} {blocks : List Block} {cut : Option Block}
    (told : Told candidates events tallies fatal blocks cut) :
    ∀ t ∈ tallies, t.Balanced (candidates t.stage).length := by
  intro t inside
  rw [told.tallies] at inside
  obtain ⟨b, member, rfl⟩ := List.mem_map.mp inside
  have stage : b.tally.stage = b.stage := Tally.ofVerdictsStage _ _
  have length : b.noted.length = (candidates b.stage).length := by
    have keys := congrArg List.length (told.whole b member).2
    simpa using keys
  rw [stage, ← length]
  exact Tally.ofVerdictsBalanced _ _

namespace Run
variable {σ : Type}

section
variable (stamp : Stamp) (source : Source σ) (registry : Registry σ) (interrupts : Interrupts σ)
  (token : Bool) (world : σ)

theorem seedPassed (t : Transcript) :
    t.passed (seed stamp source registry interrupts token world).journal =
      t.passed (stages source registry interrupts token world).journal := by
  obtain ⟨opening, closing, first, last, journal⟩ :=
    seedJournal stamp source registry interrupts token world
  rw [Transcript.passed, journal, completionsAppend, completionsAppend, first.completions,
    last.completions, List.append_nil]
  rfl

theorem seedTold : ∃ blocks cut, Told (transcript source registry interrupts token world).candidates
    (Journal.events (stages source registry interrupts token world).journal)
    (seed stamp source registry interrupts token world).outcome.stages
    (seed stamp source registry interrupts token world).outcome.fatal blocks cut := by
  obtain ⟨blocks, cut, told⟩ :=
    Course.tellsStages (stagesCourse source registry interrupts token world)
  refine ⟨blocks, cut, ?_⟩
  rw [seedFatal]
  cases came : (stages source registry interrupts token world).result with
  | ok tallies => simpa only [seed, came, outcomeOf] using told
  | error cut => simpa only [seed, came, outcomeOf] using told

theorem seedAdvances :
    Advances Step.all token
      ⟨(stages source registry interrupts token world).result.mapError (·.fatal),
        (stages source registry interrupts token world).cancelled,
        (stages source registry interrupts token world).journal,
        transcript source registry interrupts token world⟩ :=
  Course.advancesStages (stagesCourse source registry interrupts token world)

theorem seedKept {fatal : Abort}
    (failed : (seed stamp source registry interrupts token world).outcome.fatal = some fatal) :
    (stages source registry interrupts token world).result.mapError (·.fatal) = .error fatal ∧
      (seed stamp source registry interrupts token world).outcome.stages.map (·.stage) =
        fatal.step.completed := by
  rw [seedFatal] at failed
  cases came : (stages source registry interrupts token world).result with
  | ok tallies =>
    rw [came] at failed
    nomatch failed
  | error cut =>
    rw [came] at failed
    cases failed
    have kept :=
      Course.stagesKept (stagesCourse source registry interrupts token world) cut came
    refine ⟨rfl, ?_⟩
    simpa only [seed, came, outcomeOf] using kept

end

/-- An outcome is whole or names the step that cut the run short; the stages that it keeps account
for their candidates, and only an error reply or the token can cut a run short. -/
theorem outcomeAccountsForTheRun (stamp : Stamp) (source : Source σ) (registry : Registry σ)
    (interrupts : Interrupts σ) (cancelled : Bool) (world : σ) :
    let run := seed stamp source registry interrupts cancelled world
    let t := transcript source registry interrupts cancelled world
    (run.outcome.fatal = none ↔ run.outcome.stages.map (·.stage) = Stage.all) ∧
    (∀ fatal, run.outcome.fatal = some fatal →
      run.outcome.stages.map (·.stage) = fatal.step.completed ∧
      ∃ done rest e, Step.all = done ++ fatal.step :: rest ∧
        (∀ s, s ∈ t.passed run.journal ↔ s ∈ done) ∧ fatal.message = e.message ∧
        (fatal.cancelled = true ↔ e = .cancelled) ∧ Blame cancelled fatal.step t e) ∧
    (∀ tally ∈ run.outcome.stages, tally.Balanced (t.candidates tally.stage).length) ∧
    run.outcome.totalFailed = .ofNat run.outcome.failures.length ∧
    (run.outcome.failures.length < 2 ^ 64 →
      run.outcome.totalFailed.toNat = run.outcome.failures.length) ∧
    (run.outcome.fatal = none → ∀ m ∈ t, m.error? = none) ∧
    (cancelled = false → (∀ m ∈ t, m.error? = none ∧ m.cancels = false) →
      run.outcome.fatal = none) := by
  intro run t
  have advances := seedAdvances source registry interrupts cancelled world
  have whole := (stagesReported stamp source registry interrupts cancelled world).2
  obtain ⟨blocks, cut, told⟩ := seedTold stamp source registry interrupts cancelled world
  have blamed : ∀ f, run.outcome.fatal = some f → ∃ done rest e, Step.all = done ++ f.step :: rest ∧
      (∀ s, s ∈ t.passed run.journal ↔ s ∈ done) ∧ f.message = e.message ∧
      (f.cancelled = true ↔ e = .cancelled) ∧ Blame cancelled f.step t e := by
    intro f failed
    have cause := (seedKept stamp source registry interrupts cancelled world failed).1
    obtain ⟨done, rest, e, place, passed, own, blame⟩ := advances.failed f cause
    rw [seedPassed]
    refine ⟨done, rest, e, place, passed, congrArg Abort.message own, ?_, blame⟩
    rw [own]
    exact e.cancelledIff
  have total : run.outcome.totalFailed = .ofNat run.outcome.failures.length :=
    (Tally.totalOfBalanced _ 0 fun tally inside => (told.balanced tally inside).failed).trans
      (UInt64.zero_add _)
  refine ⟨⟨whole, fun all => ?_⟩, fun f failed => ⟨?_, blamed f failed⟩, told.balanced, total,
    fun small => ?_, fun complete => ?_, ?_⟩
  · cases failed : run.outcome.fatal with
    | none => rfl
    | some f =>
      have kept := (seedKept stamp source registry interrupts cancelled world failed).2
      exact absurd (kept.symm.trans all) f.step.completedNotAll
  · exact (seedKept stamp source registry interrupts cancelled world failed).2
  · rw [total, UInt64.toNat_ofNat']
    omega
  · have ended := (seedFatal stamp source registry interrupts cancelled world).symm.trans complete
    cases came : (stages source registry interrupts cancelled world).result with
    | ok tallies => exact (advances.came tallies (by rw [came]; rfl)).2.1
    | error cut =>
      rw [came] at ended
      nomatch ended
  · rintro rfl quiet
    cases failed : run.outcome.fatal with
    | none => rfl
    | some f =>
      obtain ⟨_, _, e, _, _, _, _, blame⟩ := blamed f failed
      obtain ⟨m, inside, fails⟩ := blame.quiet
      obtain ⟨clean, idle⟩ := quiet m inside
      rcases fails with error | cancels
      · exact absurd clean error
      · rw [idle] at cancels
        nomatch cancels

end Run
end RegistrySeeding
