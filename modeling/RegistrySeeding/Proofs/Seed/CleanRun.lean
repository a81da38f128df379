import RegistrySeeding.Seed.Run

/-! Runs in which every call comes back with an answer and nothing is cancelled. Such a run is a
plain fold over the candidates: each is dealt with in turn, and what the registry makes of one is
the world that the next one meets. -/
namespace RegistrySeeding
variable {σ : Type}

namespace Activity
variable {ε α β : Type}

def Settles (work : Activity σ ε α) (world : σ) (x : α) (left : σ) : Prop :=
  ∃ journal, work false world = ⟨.ok x, false, journal, left⟩

theorem settlesPure (x : α) (world : σ) : (pure x : Activity σ ε α).Settles world x world :=
  ⟨[], rfl⟩

theorem settlesLog (line : Line) (world : σ) :
    (log line : Activity σ ε Unit).Settles world () world :=
  ⟨[.line line], rfl⟩

theorem settlesLogAll (lines : List Line) (world : σ) :
    (logAll lines : Activity σ ε Unit).Settles world () world :=
  ⟨lines.map .line, rfl⟩

theorem settlesAnnounce (event : Event) (world : σ) :
    (announce event : Activity σ ε Unit).Settles world () world :=
  ⟨[.event event], rfl⟩

theorem settlesBind {work : Activity σ ε α} {next : α → Activity σ ε β} {world mid left : σ} {x y}
    (first : work.Settles world x mid) (second : (next x).Settles mid y left) :
    (work >>= next).Settles world y left := by
  obtain ⟨early, first⟩ := first
  obtain ⟨late, second⟩ := second
  refine ⟨early ++ late, ?_⟩
  change andThen work next false world = _
  simp only [andThen, first, second]

theorem settlesMapFailure {ε' : Type} {work : Activity σ ε α} {world left : σ} {x} (f : ε → ε')
    (inner : work.Settles world x left) : (mapFailure f work).Settles world x left := by
  obtain ⟨journal, inner⟩ := inner
  refine ⟨journal, ?_⟩
  simp only [mapFailure, inner]
  rfl

theorem settlesPerform (call : Call) {exchange : σ → Exchange σ α} {world : σ} {x : α}
    (answered : (exchange world).reply = .answered (.ok x) false) :
    (perform call exchange).Settles world x (exchange world).world := by
  refine ⟨.call call :: (exchange world).lines.map .line, ?_⟩
  simp only [perform, answered]
  rfl

theorem settlesUnlessCancelled {work : Activity σ Error α} {world left : σ} {x}
    (inner : work.Settles world x left) : (unlessCancelled .never work).Settles world x left :=
  inner

theorem settlesAtStep {work : Activity σ Error α} {world left : σ} {x} (step : Step)
    (inner : work.Settles world x left) : (atStep .never step work).Settles world x left :=
  settlesMapFailure _ (settlesUnlessCancelled inner)

end Activity

structure Records where
  chains : List Chain
  assets : List Asset
  deployments : List Deployment
  deriving Repr

structure Source.Holds (source : Source σ) (records : Records) : Prop where
  chains (world : σ) : (source.chains world).reply = .answered (.ok records.chains) false ∧
    (source.chains world).world = world
  assets (world : σ) : (source.assets world).reply = .answered (.ok records.assets) false ∧
    (source.assets world).world = world
  deployments (world : σ) :
    (source.deployments world).reply = .answered (.ok records.deployments) false ∧
    (source.deployments world).world = world

theorem Source.ofRecordsHolds (records : Records) :
    (Source.ofRecords records.chains records.assets records.deployments :
      Source σ).Holds records where
  chains _ := ⟨rfl, rfl⟩
  assets _ := ⟨rfl, rfl⟩
  deployments _ := ⟨rfl, rfl⟩

structure Registry.Steady (registry : Registry σ) (answer : Submission → σ → Answer × σ)
    (listing : σ → List RegisteredAsset) : Prop where
  submit (s : Submission) (world : σ) :
    (registry.submit s world).reply = .answered (.ok (answer s world).1) false ∧
    (registry.submit s world).world = (answer s world).2
  list (world : σ) : (registry.list world).reply = .answered (.ok (listing world)) false ∧
    (registry.list world).world = world

section
variable (answer : Submission → σ → Answer × σ)

def Item.deal (world : σ) (item : Item) : Verdict × σ :=
  match item.work with
  | .error reason => (.failed reason, world)
  | .ok s => ((answer s world).1.verdict, (answer s world).2)

def after (world : σ) (items : List Item) : σ :=
  items.foldl (fun world item => (item.deal answer world).2) world

def verdicts : σ → List Item → List (String × Verdict)
  | _, [] => []
  | world, item :: rest =>
    (item.key, (item.deal answer world).1) :: verdicts (item.deal answer world).2 rest

theorem verdictsLength (world : σ) (items : List Item) :
    (verdicts answer world items).length = items.length := by
  induction items generalizing world with
  | nil => rfl
  | cons item rest ih => simp [verdicts, ih]

theorem verdictsAppend (world : σ) (early late : List Item) :
    verdicts answer world (early ++ late) =
      verdicts answer world early ++ verdicts answer (after answer world early) late := by
  induction early generalizing world with
  | nil => rfl
  | cons item rest ih => exact congrArg (_ :: ·) (ih _)

theorem verdictAt (world : σ) (early late : List Item) (item : Item) :
    (verdicts answer world (early ++ item :: late))[early.length]? =
      some (item.key, (item.deal answer (after answer world early)).1) := by
  have here := verdictsLength answer world early
  rw [verdictsAppend, List.getElem?_append_right (Nat.le_of_eq here), here, Nat.sub_self, verdicts,
    List.getElem?_cons_zero]

theorem afterKept {kept : σ → Prop} {items : List Item}
    (step : ∀ item ∈ items, ∀ s, item.work = .ok s → ∀ w, kept w → kept (answer s w).2) {world : σ}
    (begins : kept world) : kept (after answer world items) := by
  induction items generalizing world with
  | nil => exact begins
  | cons item rest ih =>
    refine ih (fun i inside => step i (List.mem_cons_of_mem _ inside)) ?_
    cases work : item.work with
    | error reason => simpa only [Item.deal, work] using begins
    | ok s => simpa only [Item.deal, work] using step item List.mem_cons_self s work world begins

end

def Tally.noteAll (t : Tally) (noted : List (String × Verdict)) : Tally :=
  noted.foldl (fun t n => t.note n.1 n.2) t

def Tally.ofVerdicts (stage : Stage) (noted : List (String × Verdict)) : Tally :=
  (Tally.empty stage).noteAll noted

section
variable {registry : Registry σ} {answer : Submission → σ → Answer × σ}
  {listing : σ → List RegisteredAsset}
open Activity

theorem judgeSettles (steady : registry.Steady answer listing) (item : Item) (world : σ) :
    (Stage.judge registry item.work).Settles world (item.deal answer world).1
      (item.deal answer world).2 := by
  cases work : item.work with
  | error reason =>
    simp only [Item.deal, work]
    exact settlesPure _ world
  | ok s =>
    simp only [Item.deal, work]
    have come := steady.submit s world
    rw [← come.2]
    exact settlesBind (settlesPerform _ come.1) (settlesPure _ _)

theorem submitAllSettles (steady : registry.Steady answer listing) (items : List Item)
    (tally : Tally) (world : σ) :
    (Stage.submitAll registry .never items tally).Settles world
      (tally.noteAll (verdicts answer world items)) (after answer world items) := by
  induction items generalizing tally world with
  | nil => exact settlesPure _ world
  | cons item rest ih =>
    refine settlesBind (settlesLog _ world) ?_
    refine settlesBind (settlesUnlessCancelled (judgeSettles steady item world)) ?_
    refine settlesBind (settlesLog _ _) (settlesBind (settlesAnnounce _ _) ?_)
    exact ih _ _

theorem seedSettles (steady : registry.Steady answer listing) (stage : Stage) (items : List Item)
    (world : σ) :
    (Stage.seed registry .never stage items).Settles world
      (Tally.ofVerdicts stage (verdicts answer world items)) (after answer world items) := by
  refine settlesBind (settlesLog _ world) (settlesBind (settlesAnnounce _ world) ?_)
  refine settlesBind (submitAllSettles steady items _ world) ?_
  exact settlesBind (settlesLog _ _) (settlesBind (settlesAnnounce _ _) (settlesPure _ _))

theorem indexSettles (steady : registry.Steady answer listing) (world : σ) :
    registry.index.Settles world (Index.ofListing (listing world)).1 world := by
  have come := steady.list world
  have listed := settlesPerform .list come.1
  rw [come.2] at listed
  refine settlesBind listed (settlesBind (settlesLogAll _ world) ?_)
  exact settlesBind (settlesLog _ world) (settlesPure _ world)

end

namespace Run
open Activity

section
variable (answer : Submission → σ → Answer × σ) (listing : σ → List RegisteredAsset)
  (records : Records) (world : σ)

def afterChains : σ := after answer world (records.chains.map Chain.item)

def afterAssets : σ :=
  after answer (afterChains answer records world) (records.assets.map Asset.item)

def resolved : Index := (Index.ofListing (listing (afterAssets answer records world))).1

def deploymentItems : List Item :=
  records.deployments.map (Deployment.item (resolved answer listing records world))

def afterDeployments : σ :=
  after answer (afterAssets answer records world) (deploymentItems answer listing records world)

def tallies : List Tally :=
  [Tally.ofVerdicts .chains (verdicts answer world (records.chains.map Chain.item)),
   Tally.ofVerdicts .assets
     (verdicts answer (afterChains answer records world) (records.assets.map Asset.item)),
   Tally.ofVerdicts .deployments
     (verdicts answer (afterAssets answer records world)
       (deploymentItems answer listing records world))]

end

section
variable {source : Source σ} {registry : Registry σ} {answer : Submission → σ → Answer × σ}
  {listing : σ → List RegisteredAsset} {records : Records}

theorem loadSettles {α : Type} {exchange : σ → Exchange σ α} {world : σ} {x : α} (step : Step)
    (stage : Stage)
    (come : (exchange world).reply = .answered (.ok x) false ∧ (exchange world).world = world) :
    (atStep .never step (perform (.load stage) exchange)).Settles world x world := by
  have loaded := settlesPerform (.load stage) come.1
  rw [come.2] at loaded
  exact settlesAtStep step loaded

theorem chainsSettle (holds : source.Holds records) (steady : registry.Steady answer listing)
    (world : σ) :
    (chains source registry .never).Settles world
      (Tally.ofVerdicts .chains (verdicts answer world (records.chains.map Chain.item)))
      (afterChains answer records world) :=
  settlesBind (loadSettles _ _ (holds.chains world))
    (settlesAtStep _ (seedSettles steady .chains _ world))

theorem assetsSettle (holds : source.Holds records) (steady : registry.Steady answer listing)
    (world : σ) :
    (assets source registry .never).Settles (afterChains answer records world)
      (Tally.ofVerdicts .assets
        (verdicts answer (afterChains answer records world) (records.assets.map Asset.item)))
      (afterAssets answer records world) :=
  settlesBind (loadSettles _ _ (holds.assets _))
    (settlesAtStep _ (seedSettles steady .assets _ _))

theorem deploymentsSettle (holds : source.Holds records)
    (steady : registry.Steady answer listing) (world : σ) :
    (deployments source registry .never).Settles (afterAssets answer records world)
      (Tally.ofVerdicts .deployments (verdicts answer (afterAssets answer records world)
        (deploymentItems answer listing records world)))
      (afterDeployments answer listing records world) :=
  settlesBind (settlesAtStep _ (indexSettles steady _))
    (settlesBind (loadSettles _ _ (holds.deployments _))
      (settlesAtStep _ (seedSettles steady .deployments _ _)))

theorem stagesSettle (holds : source.Holds records) (steady : registry.Steady answer listing)
    (world : σ) :
    (stages source registry .never).Settles world (tallies answer listing records world)
      (afterDeployments answer listing records world) :=
  settlesBind (settlesMapFailure _ (chainsSettle holds steady world))
    (settlesBind (settlesMapFailure _ (assetsSettle holds steady world))
      (settlesBind (settlesMapFailure _ (deploymentsSettle holds steady world))
        (settlesPure _ _)))

theorem seedClean (stamp : Stamp) (holds : source.Holds records)
    (steady : registry.Steady answer listing) (world : σ) :
    (seed stamp source registry .never false world).outcome =
      ⟨stamp.runId, stamp.startedAt, some stamp.finishedAt,
        tallies answer listing records world, none⟩ ∧
    (seed stamp source registry .never false world).world =
      afterDeployments answer listing records world := by
  obtain ⟨journal, settled⟩ := stagesSettle holds steady world
  simp only [seed, settled, outcomeOf, and_self]

end
end Run
end RegistrySeeding
