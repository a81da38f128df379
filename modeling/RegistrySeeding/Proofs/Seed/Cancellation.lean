import RegistrySeeding.Proofs.Seed.Heeding
import RegistrySeeding.Registry.Script

/-! A run that is cancelled. Its parts follow one another, and each finds the token as the part
before it has left it, so what one step heeds the whole run heeds: nothing is begun after the
first moment that cancels, and the run ends at that step or at the next. -/
namespace RegistrySeeding
open Journal (calls reports completions keys Silent)

theorem Sequel.within {candidates : Stage → List Item} {front early late back : List Entry}
    {m : Moment} {fatal : Option Abort} (sequel : Sequel candidates early late m fatal)
    (apart : ∀ s reply, m = .submission s reply → keys s.stage front = []) (quiet : Silent back) :
    Sequel candidates (front ++ early) (late ++ back) m fatal := by
  have told {s : Submission} {reply : Reply Answer} {earlier : List String}
      (same : m = .submission s reply) (told : keys s.stage early = earlier) :
      keys s.stage (front ++ early) = earlier := by
    rw [Journal.keysAppend, apart s reply same, told]
    rfl
  have reported : reports (late ++ back) = reports late := by
    rw [Journal.reportsAppend, quiet.reports, List.append_nil]
  have completed : completions (late ++ back) = completions late := by
    rw [Journal.completionsAppend, quiet.completions, List.append_nil]
  cases sequel with
  | failed asks error silent => exact .failed asks error (Journal.silentAppend silent quiet)
  | fetched asks fetch came silent =>
    exact .fetched asks fetch came (Journal.silentAppend silent quiet)
  | amid place work earlier report unfinished =>
    exact .amid place work (told rfl earlier) (reported.trans report) (completed.trans unfinished)
  | last place work earlier report one own =>
    exact .last place work (told rfl earlier) (reported.trans report) (completed.trans one) own

theorem Struck.within {α : Type} {candidates : Stage → List Item} {exit : Option Step}
    {earlier before moments moments' : Transcript} {m : Moment} {result : Except Abort α}
    {left : Bool} {front journal back : List Entry}
    (struck : Struck candidates exit before m ⟨result, left, journal, moments⟩)
    (told : calls front = earlier.calls)
    (apart : ∀ s reply, m = .submission s reply → keys s.stage front = []) (quiet : Silent back) :
    Struck candidates exit (earlier ++ before) m
      ⟨result, left, front ++ (journal ++ back), moments'⟩ := by
  have head {entries : List Entry} (asked : calls entries = before.calls) :
      calls (front ++ entries) = Transcript.calls (earlier ++ before) := by
    rw [Journal.callsAppend, Transcript.callsAppend, told, asked]
  cases struck with
  | between uncalled asked =>
    refine .between uncalled (head ?_)
    rw [Journal.callsAppend, quiet.calls, asked, List.append_nil]
  | @during call early late _ _ _ _ asks asked idle ends sequel =>
    have whole := sequel.within apart quiet
    have after : calls (late ++ back) = [] := by
      rw [Journal.callsAppend, idle, quiet.calls]
      rfl
    rw [List.append_assoc, List.cons_append, ← List.append_assoc]
    cases ends with
    | aborted => exact .during asks (head asked) after .aborted whole
    | passed => exact .during asks (head asked) after .passed whole

section
variable {α β : Type} {candidates : Stage → List Item} {entry mid : Step} {exit exit' : Option Step}
  {token middle left : Bool} {early late : List Entry} {before after : Transcript}

theorem heedsValue {x : α} (y : β)
    (one : Heeds candidates entry exit token ⟨.ok x, left, early, before⟩) :
    Heeds candidates entry exit token ⟨.ok y, left, early, before⟩ := by
  refine ⟨fun cancelled => (nomatch (one.barred cancelled).1),
    fun clear quiet _ _ => one.untouched clear quiet x rfl, ?_⟩
  intro clear b m a split quiet cancels
  obtain ⟨ceased, struck⟩ := one.struck clear b m a split quiet cancels
  refine ⟨ceased, ?_⟩
  cases struck with
  | during asks asked idle ends sequel =>
    cases ends
    exact .during asks asked idle .passed sequel

theorem heedsFailed {fatal : Abort}
    (one : Heeds (α := α) candidates entry exit token ⟨.error fatal, left, early, before⟩) :
    Heeds (α := β) candidates entry exit' token ⟨.error fatal, left, early, before⟩ := by
  refine ⟨fun cancelled => ?_, fun _ _ => nofun, fun clear b m a split quiet cancels => ?_⟩
  · obtain ⟨same, untold⟩ := one.barred cancelled
    exact ⟨congrArg Except.error (Except.error.inj same), untold⟩
  · obtain ⟨ceased, struck⟩ := one.struck clear b m a split quiet cancels
    refine ⟨ceased, ?_⟩
    cases struck with
    | between uncalled asked => exact .between uncalled asked
    | during asks asked idle ends sequel =>
      cases ends
      exact .during asks asked idle .aborted sequel

theorem heedsOn {x : α} {result : Except Abort β}
    (one : Heeds candidates entry (some mid) token ⟨.ok x, middle, early, before⟩)
    (other : Heeds candidates mid exit middle ⟨result, left, late, after⟩)
    (told : calls early = before.calls)
    (apart : ∀ s reply, Moment.submission s reply ∈ after → keys s.stage early = []) :
    Heeds candidates entry exit token ⟨result, left, early ++ late, before ++ after⟩ := by
  have still (clear : token = false) {more : Transcript}
      (quiet : Transcript.Quiet (before ++ more)) : middle = false :=
    one.untouched clear (fun m inside => quiet m (List.mem_append_left _ inside)) x rfl
  refine ⟨fun cancelled => (nomatch (one.barred cancelled).1), fun clear quiet y came => ?_, ?_⟩
  · exact other.untouched (still clear quiet)
      (fun m inside => quiet m (List.mem_append_right _ inside)) y came
  · intro clear b m a split quiet cancels
    rcases Transcript.fallsIn split with ⟨more, same, rfl⟩ | ⟨more, rfl, rest⟩
    -- The moment falls in the first part, and the second one finds the token cancelled.
    · obtain ⟨ceased, struck⟩ := one.struck clear b m more same quiet cancels
      cases struck with
      | during asks asked idle ends sequel =>
        cases ends
        obtain ⟨stops, untold, unasked⟩ := other.barred rfl
        cases stops
        cases untold
        rw [List.append_nil]
        refine ⟨?_, .during asks asked idle .aborted sequel⟩
        rw [Transcript.callsAppend, ceased, unasked]
        rfl
    -- The first part was quiet, so the second one began with the token as it was.
    · obtain ⟨ceased, struck⟩ := other.struck (still clear quiet) more m a rest
        (fun m inside => quiet m (List.mem_append_right _ inside)) cancels
      have inside : m ∈ after := rest ▸ List.mem_append_right _ List.mem_cons_self
      have whole : Struck candidates exit (before ++ more) m
          ⟨result, left, early ++ (late ++ []), before ++ after⟩ :=
        struck.within told (fun s reply same => apart s reply (same ▸ inside))
          (Journal.silentLines [])
      rw [List.append_nil] at whole
      exact ⟨ceased, whole⟩

end

section
variable {α : Type} {candidates : Stage → List Item} {exit : Option Step} {before : Transcript}
  {m : Moment} {a : Account Abort α}

theorem struckShape (struck : Struck candidates exit before m a) :
    match m.call? with
    | none => calls a.journal = before.calls ∧ ∃ step, a.result = .error (.ofError step .cancelled)
    | some call => ∃ early late fatal, a.journal = early ++ .call call :: late ∧
        calls early = before.calls ∧ calls late = [] ∧ Ends exit a fatal ∧
        Sequel candidates early late m fatal := by
  cases struck with
  | between uncalled asked => rw [uncalled]; exact ⟨asked, _, rfl⟩
  | during asks asked ceased ends sequel =>
    rw [asks]
    exact ⟨_, _, _, rfl, asked, ceased, ends, sequel⟩

def abort? : Except Abort α → Option Abort
  | .ok _ => none
  | .error fatal => some fatal

theorem endsFatal {fatal : Option Abort} (ends : Ends none a fatal) : fatal = abort? a.result := by
  cases ends <;> rfl

end

namespace Course
variable {token : Bool} {candidates : Stage → List Item}

theorem loadNext (stage : Stage) : (Call.load stage).step.next = some (.submitting stage) := by
  cases stage <;> rfl

theorem fetchedKeys {α β : Type} {step : Step} {call : Call} {moment : Reply α → Moment}
    {value : α → β} {middle : Bool} {x : β} {early : List Entry} {before : Transcript}
    (came : AtStep step (Fetched call moment value) token ⟨.ok x, middle, early, before⟩)
    (stage : Stage) : keys stage early = [] := by
  obtain ⟨_, lines, rfl, _, rfl, rfl⟩ := fetchedValue came
  change List.map _ ((reports (lines.map .line)).filter _) = _
  rw [(Journal.silentLines lines).reports]
  rfl

theorem heedsStage {α : Type} {stage : Stage} {moment : Reply (List α) → Moment}
    {item : α → Item} {given : Moment → List α} {account : Account Abort Tally}
    (opens : ∀ reply, given (moment reply) = reply.given)
    (asks : ∀ reply, (moment reply).call? = some (.load stage))
    (cancels : ∀ reply, (moment reply).cancels = reply.cancels)
    (errors : ∀ reply, (moment reply).error? = reply.error?)
    (gives : Moment.Gives (.load stage) given) (belong : ∀ x, (item x).Belongs stage)
    (place : candidates stage = (account.moments.flatMap given).map item)
    (went : Bound (AtStep (Call.load stage).step (Fetched (.load stage) moment id))
      (fun records => AtStep (.submitting stage) (Seeded stage (records.map item))) token account) :
    Heeds candidates (Call.load stage).step (Step.submitting stage).next token account := by
  cases went with
  | cut failed => exact heedsFailed (heedsFetch _ asks cancels errors nofun failed)
  | on came later =>
    have one : Heeds candidates _ _ _ _ := heedsFetch _ asks cancels errors nofun came
    rw [loadNext] at one
    rw [givenByLoad opens gives belong came later] at place
    have told := fetchLocal (.load stage) asks came
    exact heedsOn one (heedsSubmit place (Item.belongEach belong _) later) told.calls
      fun s _ _ => fetchedKeys came s.stage

section
variable {account : Account Abort Tally}

theorem heedsChains (place : candidates .chains = account.moments.candidates .chains)
    (went : OfChains token account) :
    Heeds candidates .loadChains (some .loadAssets) token account :=
  heedsStage (fun _ => rfl) (fun _ => rfl) (fun _ => rfl) (fun _ => rfl) Moment.givesChains
    Chain.itemBelongs place went

theorem heedsAssets (place : candidates .assets = account.moments.candidates .assets)
    (went : OfAssets token account) :
    Heeds candidates .loadAssets (some .listAssets) token account :=
  heedsStage (fun _ => rfl) (fun _ => rfl) (fun _ => rfl) (fun _ => rfl) Moment.givesAssets
    Asset.itemBelongs place went

theorem heedsDeployments (place : candidates .deployments = account.moments.candidates .deployments)
    (went : OfDeployments token account) : Heeds candidates .listAssets none token account := by
  cases went with
  | cut failed =>
    exact heedsFailed (heedsFetch .list (fun _ => rfl) (fun _ => rfl) (fun _ => rfl) nofun failed)
  | on came later =>
    have one : Heeds candidates .listAssets (some .loadDeployments) _ _ :=
      heedsFetch .list (fun _ => rfl) (fun _ => rfl) (fun _ => rfl) nofun came
    have rest : Heeds candidates .loadDeployments none _ _ :=
      heedsStage (fun _ => rfl) (fun _ => rfl) (fun _ => rfl) (fun _ => rfl)
        Moment.givesDeployments (Deployment.itemBelongs _)
        (place.trans (givenByListing came later)) later
    have told := fetchLocal .list (fun _ => rfl) came
    exact heedsOn one rest told.calls fun s _ _ => fetchedKeys came s.stage

end

theorem heedsStages {account : Account Run.Cut (List Tally)} (went : OfStages token account) :
    Heeds account.moments.candidates .loadChains none token
      ⟨account.result.mapError (·.fatal), account.cancelled, account.journal, account.moments⟩ := by
  cases went with
  | inChains failed => exact heedsFailed (heedsChains rfl failed)
  | inAssets chains failed =>
    have first := ofChainsLocal chains
    have second := ofAssetsLocal failed
    have place := Transcript.candidatesOfParts first second .nil
    rw [List.append_nil] at place
    exact heedsOn (heedsChains (place .chains) chains)
      (heedsFailed (heedsAssets (place .assets) failed)) first.calls
      (first.apart second (by decide))
  | inDeployments chains assets failed =>
    have first := ofChainsLocal chains
    have second := ofAssetsLocal assets
    have third := ofDeploymentsLocal failed
    have place := Transcript.candidatesOfParts first second third
    have rest := heedsOn (heedsAssets (place .assets) assets)
      (heedsDeployments (place .deployments) failed) second.calls (second.apart third (by decide))
    exact heedsOn (heedsChains (place .chains) chains) (heedsFailed rest) first.calls
      (first.apart (second.both third) (by decide))
  | complete chains assets deployments =>
    have first := ofChainsLocal chains
    have second := ofAssetsLocal assets
    have third := ofDeploymentsLocal deployments
    have place := Transcript.candidatesOfParts first second third
    have rest := heedsOn (heedsAssets (place .assets) assets)
      (heedsDeployments (place .deployments) deployments) second.calls
      (second.apart third (by decide))
    exact heedsOn (heedsChains (place .chains) chains) (heedsValue _ rest) first.calls
      (first.apart (second.both third) (by decide))

end Course

namespace Run
variable {σ : Type}

section
variable (stamp : Stamp) (source : Source σ) (registry : Registry σ) (interrupts : Interrupts σ)

theorem seedFatal (token : Bool) (world : σ) :
    (seed stamp source registry interrupts token world).outcome.fatal =
      abort? ((stages source registry interrupts token world).result.mapError (·.fatal)) := by
  cases came : (stages source registry interrupts token world).result with
  | ok tallies => simp only [seed, came, outcomeOf]; rfl
  | error cut => simp only [seed, came, outcomeOf]; rfl

theorem seedJournal (token : Bool) (world : σ) :
    ∃ opening closing, Silent opening ∧ Silent closing ∧
      (seed stamp source registry interrupts token world).journal =
        opening ++ (stages source registry interrupts token world).journal ++ closing :=
  ⟨_, _, ⟨rfl, rfl, rfl⟩, ⟨rfl, rfl, rfl⟩, rfl⟩

theorem stagesHeed (token : Bool) (world : σ) :
    Heeds (transcript source registry interrupts token world).candidates .loadChains none token
      ⟨(stages source registry interrupts token world).result.mapError (·.fatal),
        (stages source registry interrupts token world).cancelled,
        (stages source registry interrupts token world).journal,
        transcript source registry interrupts token world⟩ :=
  Course.heedsStages (stagesCourse source registry interrupts token world)

theorem barredRun (world : σ) :
    let run := seed stamp source registry interrupts true world
    run.outcome.fatal = some (.ofError .loadChains .cancelled) ∧ run.outcome.stages = [] ∧
      calls run.journal = [] ∧ reports run.journal = [] := by
  obtain ⟨failed, untold, _⟩ := (stagesHeed source registry interrupts true world).barred rfl
  obtain ⟨opening, closing, first, last, journal⟩ :=
    seedJournal stamp source registry interrupts true world
  simp only at failed untold
  rw [untold, List.append_nil] at journal
  have silent := Journal.silentAppend first last
  rw [← journal] at silent
  refine ⟨?_, ?_, silent.calls, silent.reports⟩
  · rw [seedFatal, failed]
    rfl
  · rw [(stagesReported stamp source registry interrupts true world).1]
    exact silent.completions

end

/-- A run that is cancelled before it begins asks for nothing. Otherwise the first moment that
cancels it is the last at which anything was begun. -/
theorem cancelledRunStops (stamp : Stamp) (source : Source σ) (registry : Registry σ)
    (interrupts : Interrupts σ) (world : σ) :
    let barred := seed stamp source registry interrupts true world
    let run := seed stamp source registry interrupts false world
    let t := transcript source registry interrupts false world
    (barred.outcome.fatal = some (.ofError .loadChains .cancelled) ∧ barred.outcome.stages = [] ∧
      calls barred.journal = [] ∧ reports barred.journal = []) ∧
    (∀ before m after, t = before ++ m :: after → Transcript.Quiet before → m.cancels = true →
      Transcript.calls after = [] ∧
      match m.call? with
      | none => calls run.journal = before.calls ∧
          ∃ step, run.outcome.fatal = some (.ofError step .cancelled)
      | some call => ∃ early late, run.journal = early ++ .call call :: late ∧
          calls early = before.calls ∧ calls late = [] ∧
          run.outcome.stages = completions early ++ completions late ∧
          Sequel t.candidates early late m run.outcome.fatal) ∧
    (run.outcome.fatal = none → run.outcome.stages.map (·.stage) = Stage.all) := by
  refine ⟨barredRun stamp source registry interrupts world, ?_,
    (stagesReported stamp source registry interrupts false world).2⟩
  intro before m after split quiet cancels
  have heeds := stagesHeed source registry interrupts false world
  obtain ⟨ceased, struck⟩ := heeds.struck rfl before m after split quiet cancels
  obtain ⟨opening, closing, first, last, journal⟩ :=
    seedJournal stamp source registry interrupts false world
  have whole : Struck _ _ _ _ ⟨_, _, _, transcript source registry interrupts false world⟩ :=
    struck.within (show calls opening = Transcript.calls [] from first.calls)
      (fun s _ _ => by rw [keys, first.reports]; rfl) last
  rw [← List.append_assoc, ← journal] at whole
  have shape := struckShape whole
  refine ⟨ceased, ?_⟩
  cases asks : m.call? with
  | none =>
    simp only [asks] at shape
    obtain ⟨asked, step, failed⟩ := shape
    refine ⟨asked, step, ?_⟩
    rw [seedFatal, failed]
    rfl
  | some call =>
    simp only [asks] at shape
    obtain ⟨early, late, fatal, told, asked, idle, ends, sequel⟩ := shape
    refine ⟨early, late, told, asked, idle, ?_, ?_⟩
    · rw [(stagesReported stamp source registry interrupts false world).1, told,
        Journal.completionsAppend]
      rfl
    · have ended : (seed stamp source registry interrupts false world).outcome.fatal = fatal :=
        (seedFatal stamp source registry interrupts false world).trans (endsFatal ends).symm
      rw [ended]
      exact sequel

/- The last chain is answered with the token cancelled: its stage completes and no other begins. -/
example :
    let source : Source Script.State := .ofRecords
      [⟨"ethereum", "Ethereum", "EVM", "ETH", [], ""⟩, ⟨"solana", "Solana", "SVM", "SOL", [], ""⟩]
      [] []
    let world : Script.State := ⟨⟨[], [], []⟩, [⟨.create .chains, some "SVM", none, .cancelAfter⟩]⟩
    let time : Time.Instant := ⟨⟨2024, 2, 29⟩, 43200, 0⟩
    let run := seed ⟨"id", time, time⟩ source Script.registry .never false world
    (transcript source Script.registry .never false world).map (·.cancels) =
      [false, false, true] ∧
    run.outcome.stages.map (·.created) = [2] ∧
    run.outcome.fatal = some (.ofError .loadAssets .cancelled) := by
  decide +kernel

end Run
end RegistrySeeding
