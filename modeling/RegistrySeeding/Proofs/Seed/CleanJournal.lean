import RegistrySeeding.Proofs.Seed.CallOrder
import RegistrySeeding.Proofs.Seed.Counting

/-! What a clean run does on its way. It loads the records of each stage, asks for each candidate
that has a request and reports what the fold makes of it, in the order of the candidates. -/
namespace RegistrySeeding
open Journal
variable {σ : Type}

namespace Journal

def reportsOf (stage : Stage) (journal : List Entry) : List Report :=
  (reports journal).filter (·.stage == stage)

def reported (stage : Stage) (noted : List (String × Verdict)) : List Report :=
  noted.map fun n => ⟨stage, n.1, n.2⟩

theorem reportedOwn (stage : Stage) (noted : List (String × Verdict)) :
    (reported stage noted).filter (·.stage == stage) = reported stage noted := by
  rw [List.filter_eq_self]
  intro r member
  obtain ⟨n, _, rfl⟩ := List.mem_map.mp member
  exact beq_self_eq_true stage

theorem reportedOther {stage other : Stage} (different : other ≠ stage)
    (noted : List (String × Verdict)) : (reported other noted).filter (·.stage == stage) = [] := by
  rw [List.filter_eq_nil_iff]
  intro r member same
  obtain ⟨n, _, rfl⟩ := List.mem_map.mp member
  exact different (beq_iff_eq.mp same)

end Journal

namespace Activity
variable {ε α β : Type}

def Does (work : Activity σ ε α) (world : σ) (done : List Entry) : Prop :=
  deeds (work false world).journal = done

theorem doesPure (x : α) (world : σ) : (pure x : Activity σ ε α).Does world [] := rfl

theorem doesLog {next : Activity σ ε α} {world : σ} {done : List Entry} (line : Line)
    (later : next.Does world done) : (log line >>= fun _ => next).Does world done :=
  later

theorem doesLogAll {next : Activity σ ε α} {world : σ} {done : List Entry} (lines : List Line)
    (later : next.Does world done) : (logAll lines >>= fun _ => next).Does world done := by
  change deeds (lines.map .line ++ (next false world).journal) = done
  rw [deedsAppend, deedsLines]
  exact later

theorem doesAnnounce {next : Activity σ ε α} {world : σ} {done : List Entry} (event : Event)
    (later : next.Does world done) :
    (announce event >>= fun _ => next).Does world (.event event :: done) :=
  congrArg (_ :: ·) later

theorem doesBind {work : Activity σ ε α} {next : α → Activity σ ε β} {world mid : σ} {x}
    {early late : List Entry} (goes : work.Settles world x mid) (first : work.Does world early)
    (second : (next x).Does mid late) : (work >>= next).Does world (early ++ late) := by
  obtain ⟨journal, came⟩ := goes
  change deeds (andThen work next false world).journal = _
  rw [Does, came] at first
  simp only [andThen, came, deedsAppend, first]
  exact congrArg _ second

theorem doesMapFailure {ε' : Type} {work : Activity σ ε α} {world : σ} {done : List Entry}
    (f : ε → ε') (inner : work.Does world done) : (mapFailure f work).Does world done :=
  inner

theorem doesPerform (call : Call) {exchange : σ → Exchange σ α} {world : σ} {x : α}
    (answered : (exchange world).reply = .answered (.ok x) false) :
    (perform call exchange).Does world [.call call] := by
  simp only [Does, perform, answered]
  exact congrArg (_ :: ·) (deedsLines _)

theorem doesAtStep {work : Activity σ Error α} {world : σ} {done : List Entry} (step : Step)
    (inner : work.Does world done) : (atStep .never step work).Does world done :=
  inner

end Activity

def Item.asked (item : Item) : List Entry := item.call?.toList.map .call

section
variable (answer : Submission → σ → Answer × σ) (stage : Stage)

def dealt : σ → List Item → List Entry
  | _, [] => []
  | world, item :: rest =>
    item.asked ++ .event (.item stage item.key (item.deal answer world).1) ::
      dealt (item.deal answer world).2 rest

theorem reportsDealt (world : σ) (items : List Item) :
    reports (dealt answer stage world items) = reported stage (verdicts answer world items) := by
  induction items generalizing world with
  | nil => rfl
  | cons item rest ih =>
    have silent : reports item.asked = [] := by
      unfold Item.asked
      cases item.call? <;> rfl
    rw [dealt, reportsAppend, silent]
    exact congrArg (_ :: ·) (ih _)

theorem callsDealt (world : σ) (items : List Item) :
    calls (dealt answer stage world items) = Item.word items := by
  induction items generalizing world with
  | nil => rfl
  | cons item rest ih =>
    have own : calls item.asked = item.call?.toList := by
      unfold Item.asked
      cases item.call? <;> rfl
    rw [dealt, callsAppend, own]
    exact congrArg _ (ih _)

def seeded (world : σ) (items : List Item) : List Entry :=
  .event (.stageStart stage items.length) :: (dealt answer stage world items ++
    [.event (.stageComplete (Tally.ofVerdicts stage (verdicts answer world items)))])

theorem reportsSeeded (world : σ) (items : List Item) :
    reports (seeded answer stage world items) = reported stage (verdicts answer world items) := by
  rw [← reportsDealt answer stage world items]
  exact (reportsAppend _ _).trans (List.append_nil _)

theorem callsSeeded (world : σ) (items : List Item) :
    calls (seeded answer stage world items) = Item.word items := by
  rw [← callsDealt answer stage world items]
  exact (callsAppend _ _).trans (List.append_nil _)

end

section
variable {registry : Registry σ} {answer : Submission → σ → Answer × σ}
  {listing : σ → List RegisteredAsset}
open Activity

theorem judgeDoes (steady : registry.Steady answer listing) (item : Item) (world : σ) :
    (Stage.judge registry item.work).Does world item.asked := by
  cases work : item.work with
  | error reason =>
    rw [Item.asked, Item.call?, work]
    exact doesPure _ world
  | ok s =>
    rw [Item.asked, Item.call?, work]
    have come := (steady.submit s world).1
    exact doesBind (settlesPerform _ come) (doesPerform _ come) (doesPure _ _)

theorem submitAllDoes (steady : registry.Steady answer listing) (items : List Item)
    (tally : Tally) (world : σ) :
    (Stage.submitAll registry .never items tally).Does world
      (dealt answer tally.stage world items) := by
  induction items generalizing tally world with
  | nil => exact doesPure _ world
  | cons item rest ih =>
    refine doesLog _ (doesBind (settlesUnlessCancelled (judgeSettles steady item world))
      (judgeDoes steady item world) (doesLog _ (doesAnnounce _ ?_)))
    have later := ih (tally.note item.key (item.deal answer world).1) (item.deal answer world).2
    rwa [Tally.noteStage] at later

theorem seedDoes (steady : registry.Steady answer listing) (stage : Stage) (items : List Item)
    (world : σ) :
    (Stage.seed registry .never stage items).Does world (seeded answer stage world items) := by
  refine doesLog _ (doesAnnounce _ ?_)
  refine doesBind (submitAllSettles steady items _ world) (submitAllDoes steady items _ world) ?_
  exact doesLog _ (doesAnnounce _ (doesPure _ _))

theorem indexDoes (steady : registry.Steady answer listing) (world : σ) :
    registry.index.Does world [.call .list] := by
  have come := (steady.list world).1
  exact doesBind (settlesPerform .list come) (doesPerform .list come)
    (doesLogAll _ (doesLog _ (doesPure _ _)))

end

namespace Run
open Activity

section
variable {source : Source σ} {registry : Registry σ} {answer : Submission → σ → Answer × σ}
  {listing : σ → List RegisteredAsset} {records : Records}

theorem stageDoes {α : Type} {exchange : σ → Exchange σ (List α)} {world : σ} {found : List α}
    {load submit : Step} {item : α → Item} (stage : Stage)
    (come : (exchange world).reply = .answered (.ok found) false ∧ (exchange world).world = world)
    (steady : registry.Steady answer listing) :
    (atStep .never load (perform (.load stage) exchange) >>= fun found => atStep .never submit
      (Stage.seed registry .never stage (found.map item))).Does world
      (.call (.load stage) :: seeded answer stage world (found.map item)) :=
  doesBind (loadSettles load stage come) (doesAtStep load (doesPerform _ come.1))
    (doesAtStep submit (seedDoes steady stage _ world))

def noted (answer : Submission → σ → Answer × σ) (listing : σ → List RegisteredAsset)
    (records : Records) (world : σ) : Stage → List (String × Verdict)
  | .chains => verdicts answer world (records.chains.map Chain.item)
  | .assets => verdicts answer (afterChains answer records world) (records.assets.map Asset.item)
  | .deployments =>
    verdicts answer (afterAssets answer records world)
      (deploymentItems answer listing records world)

theorem notedTally (answer : Submission → σ → Answer × σ) (listing : σ → List RegisteredAsset)
    (records : Records) (world : σ) (stage : Stage) :
    (tallies answer listing records world).find? (·.stage == stage) =
      some (Tally.ofVerdicts stage (noted answer listing records world stage)) := by
  cases stage <;> simp [tallies, noted, Tally.ofVerdictsStage]

def cleanDeeds (answer : Submission → σ → Answer × σ) (listing : σ → List RegisteredAsset)
    (records : Records) (world : σ) : List Entry :=
  .call (.load .chains) :: seeded answer .chains world (records.chains.map Chain.item) ++
    (.call (.load .assets) :: seeded answer .assets (afterChains answer records world)
        (records.assets.map Asset.item) ++
      ([.call .list] ++ .call (.load .deployments) :: seeded answer .deployments
        (afterAssets answer records world) (deploymentItems answer listing records world)))

theorem stagesDo (holds : source.Holds records) (steady : registry.Steady answer listing)
    (world : σ) :
    (stages source registry .never).Does world (cleanDeeds answer listing records world) := by
  have last : (deployments source registry .never).Does (afterAssets answer records world)
      ([.call .list] ++ .call (.load .deployments) :: seeded answer .deployments
        (afterAssets answer records world) (deploymentItems answer listing records world)) :=
    doesBind (settlesAtStep _ (indexSettles steady _)) (doesAtStep _ (indexDoes steady _))
      (stageDoes .deployments (holds.deployments _) steady)
  refine doesBind (settlesMapFailure _ (chainsSettle holds steady world))
    (doesMapFailure _ (stageDoes .chains (holds.chains world) steady)) ?_
  refine doesBind (settlesMapFailure _ (assetsSettle holds steady world))
    (doesMapFailure _ (stageDoes .assets (holds.assets _) steady)) ?_
  rw [← List.append_nil (_ ++ _)]
  exact doesBind (settlesMapFailure _ (deploymentsSettle holds steady world))
    (doesMapFailure _ last) (doesPure _ _)

theorem cleanView {β : Type} (view : Entry → Option β) (blind : ∀ l, view (.line l) = none)
    (untold : ∀ e, (∀ stage key verdict, e ≠ .item stage key verdict) → view (.event e) = none)
    (stamp : Stamp) (holds : source.Holds records) (steady : registry.Steady answer listing)
    (world : σ) :
    (seed stamp source registry .never false world).journal.filterMap view =
      (cleanDeeds answer listing records world).filterMap view := by
  have done : deeds (stages source registry .never false world).journal = _ :=
    stagesDo holds steady world
  rw [← done, viewOfDeeds blind]
  simp [seed, blind, untold]

theorem cleanReports (stamp : Stamp) (holds : source.Holds records)
    (steady : registry.Steady answer listing) (world : σ) (stage : Stage) :
    reportsOf stage (seed stamp source registry .never false world).journal =
      reported stage (noted answer listing records world stage) := by
  have seen : reports (seed stamp source registry .never false world).journal = _ :=
    cleanView Entry.report? (fun _ => rfl) (by
      intro e other
      cases e with
      | item stage key verdict => exact absurd rfl (other stage key verdict)
      | _ => rfl) stamp holds steady world
  have whole : reports (cleanDeeds answer listing records world) =
      reported .chains (noted answer listing records world .chains) ++
      (reported .assets (noted answer listing records world .assets) ++
        reported .deployments (noted answer listing records world .deployments)) := by
    simp only [noted, ← reportsSeeded]
    exact (reportsAppend _ _).trans (congrArg _ (reportsAppend _ _))
  rw [reportsOf, seen, ← reports, whole, List.filter_append, List.filter_append]
  cases stage with
  | chains => simp [reportedOwn, reportedOther]
  | assets => simp [reportedOwn, reportedOther]
  | deployments => simp [reportedOwn, reportedOther]

theorem cleanCalls (stamp : Stamp) (holds : source.Holds records)
    (steady : registry.Steady answer listing) (world : σ) :
    calls (seed stamp source registry .never false world).journal =
      .load .chains :: Item.word (records.chains.map Chain.item) ++
      (.load .assets :: Item.word (records.assets.map Asset.item) ++
      .list :: .load .deployments :: Item.word (deploymentItems answer listing records world)) := by
  have seen : calls (seed stamp source registry .never false world).journal = _ :=
    cleanView Entry.call? (fun _ => rfl) (fun _ _ => rfl) stamp holds steady world
  rw [seen, ← callsSeeded answer .chains world, ← callsSeeded answer .assets,
    ← callsSeeded answer .deployments]
  exact (callsAppend _ _).trans (congrArg _ (callsAppend _ _))

end
end Run
end RegistrySeeding
