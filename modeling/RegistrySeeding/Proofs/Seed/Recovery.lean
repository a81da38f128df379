import RegistrySeeding.Proofs.Seed.Idempotence
import RegistrySeeding.Proofs.Seed.Keeping

/-! Runs that were cut short, or told anything at all about what they submitted, and a clean run
after them. No run appends a key that its records do not call for or that is there already, so
whatever came before, the clean run ends with the keys of the initial ledger and of the records. -/
namespace RegistrySeeding
variable {σ : Type} {ledger : σ → Ledger} {records : Records} {source : Source σ}
  {registry : Registry σ} {interrupts : Interrupts σ}
open Activity Ledger

section
variable {initial : Ledger} (served : Unreliable ledger records source registry interrupts)
include served

theorem chainsGrow : (Run.chains source registry interrupts).Keeps
    (fun world => Grown records initial (ledger world)) fun _ _ => True := by
  refine keepsBind (loadKeeps _ _ _ served served.chains) ?_
  rintro found cancelled world grown rfl
  refine keepsAtStep _ (fun world => checkKeeps served world)
    (seedKeeps (Grown records initial) served _ _ ?_) cancelled world grown
  intro item member s work l grown
  obtain ⟨c, here, rfl⟩ := List.mem_map.mp member
  cases work
  exact grownSubmit grown ⟨c, here, rfl⟩

theorem assetsGrow : (Run.assets source registry interrupts).Keeps
    (fun world => Grown records initial (ledger world)) fun _ _ => True := by
  refine keepsBind (loadKeeps _ _ _ served served.assets) ?_
  rintro found cancelled world grown rfl
  refine keepsAtStep _ (fun world => checkKeeps served world)
    (seedKeeps (Grown records initial) served _ _ ?_) cancelled world grown
  intro item member s work l grown
  obtain ⟨a, here, rfl⟩ := List.mem_map.mp member
  cases blank : Text.blank a.symbol with
  | true => simp [Asset.item, Asset.request, blank, Except.map] at work
  | false =>
    have request : s = .asset ⟨a.symbol, a.name, a.kind, a.category.bind Text.nonBlank,
        a.description.bind Text.nonBlank, a.logoUrl.bind Text.nonBlank⟩ := by
      simpa [Asset.item, Asset.request, blank, Except.map, eq_comm] using work
    subst request
    exact grownSubmit grown ⟨a, here, blank, rfl⟩

theorem deploymentsGrow : (Run.deployments source registry interrupts).Keeps
    (fun world => Grown records initial (ledger world)) fun _ _ => True := by
  refine keepsBind (keepsAtStep _ (fun world => checkKeeps served world) (indexKeeps served)) ?_
  intro index cancelled world grown agrees
  -- The index agrees with the ledger until the last submission: listed assets only gain successors.
  have both : (do
      let found ← atStep interrupts .loadDeployments
        (perform (.load .deployments) source.deployments)
      atStep interrupts .submitDeployments (Stage.seed registry interrupts .deployments
        (found.map (Deployment.item index)))).Keeps
      (fun world => Grown records initial (ledger world) ∧ index.Agrees (ledger world))
      fun _ _ => True := by
    let both (l : Ledger) := Grown records initial l ∧ index.Agrees l
    refine keepsBind (loadKeeps both _ _ served served.deployments) ?_
    rintro found cancelled world kept rfl
    refine keepsAtStep _ (fun world => checkKeeps served world) (seedKeeps both served _ _ ?_)
      cancelled world kept
    intro item member s work l kept
    obtain ⟨d, here, rfl⟩ := List.mem_map.mp member
    cases resolved : index.resolve d.assetSymbol with
    | none => simp [Deployment.item, resolved] at work
    | some id =>
      simp only [Deployment.item, resolved] at work
      cases work
      refine ⟨grownSubmit kept.1 ⟨d, here, kept.2 _ _ resolved, rfl⟩, ?_⟩
      intro symbol other found
      exact idOfStable (submitKeepsAssets l _) (kept.2 symbol other found)
  obtain ⟨kept, last⟩ := both cancelled world ⟨grown, agrees⟩
  exact ⟨kept.1, last⟩

theorem stagesGrow (cancelled : Bool) (world : σ) (grown : Grown records initial (ledger world)) :
    Grown records initial
      (ledger (Run.stages source registry interrupts cancelled world).world) := by
  have all : (Run.stages source registry interrupts).Keeps
      (fun world => Grown records initial (ledger world)) fun _ _ => True := by
    refine keepsThen (keepsMapFailure _ (chainsGrow served)) fun _ => ?_
    refine keepsThen (keepsMapFailure _ (assetsGrow served)) fun _ => ?_
    refine keepsThen (keepsMapFailure _ (deploymentsGrow served)) fun _ => ?_
    exact keepsWeaken (keepsPure _) fun _ _ _ => trivial
  exact (all cancelled world grown).1

end
/-- A run of the records against the ledger of a world of its own. It may be cancelled anywhere,
and what its submissions are told need not be what they did. -/
structure Attempt (records : Records) where
  World : Type
  ledger : World → Ledger
  enter : Ledger → World
  source : Source World
  registry : Registry World
  interrupts : Interrupts World
  cancelled : Bool
  stamp : Run.Stamp
  entered (l : Ledger) : ledger (enter l) = l
  served : Unreliable ledger records source registry interrupts

namespace Attempt

def leaves (attempt : Attempt records) (l : Ledger) : Ledger :=
  attempt.ledger (Run.seed attempt.stamp attempt.source attempt.registry attempt.interrupts
    attempt.cancelled (attempt.enter l)).world

def history (attempts : List (Attempt records)) (initial : Ledger) : Ledger :=
  attempts.foldl (fun l attempt => attempt.leaves l) initial

theorem leavesGrown (attempt : Attempt records) {initial l : Ledger}
    (grown : Grown records initial l) :
    Grown records initial (attempt.leaves l) := by
  refine stagesGrow attempt.served attempt.cancelled (attempt.enter l) ?_
  rw [attempt.entered]
  exact grown

theorem historyGrown (attempts : List (Attempt records)) {initial l : Ledger}
    (grown : Grown records initial l) : Grown records initial (history attempts l) := by
  induction attempts generalizing l with
  | nil => exact grown
  | cons attempt rest ih => exact ih (attempt.leavesGrown grown)

end Attempt

theorem Source.Holds.served {source : Source Ledger} (holds : source.Holds records) :
    Unreliable id records source Ledger.registry .never where
  chains world := ⟨(holds.chains world).2, fun found requested same => by
    rw [(holds.chains world).1] at same; cases same; rfl⟩
  assets world := ⟨(holds.assets world).2, fun found requested same => by
    rw [(holds.assets world).1] at same; cases same; rfl⟩
  deployments world := ⟨(holds.deployments world).2, fun found requested same => by
    rw [(holds.deployments world).1] at same; cases same; rfl⟩
  submit s world := Or.inr rfl
  list world := ⟨rfl, fun listing requested same => by cases same; rfl⟩
  check _ := rfl

namespace Run

theorem leavesGrown (records : Records) {initial l : Ledger} (grown : Grown records initial l) :
    Grown records initial (leaves records l) := by
  have holds := Source.ofRecordsHolds (σ := Ledger) records
  obtain ⟨journal, settled⟩ := stagesSettle holds Ledger.registrySteady l
  have after := stagesGrow holds.served false l grown
  rw [settled] at after
  exact after

theorem leavesChain {records : Records} (l : Ledger) {c : Chain} (member : c ∈ records.chains) :
    c.chainType ∈ (leaves records l).chains := by
  have held := chainsHeld records l _ (List.mem_map_of_mem member) _ rfl
  exact List.contains_iff_mem.mp held

theorem leavesSymbol {records : Records} (l : Ledger) {a : Asset} (member : a ∈ records.assets)
    (shown : Text.blank a.symbol = false) : (leaves records l).hasSymbol a.symbol = true := by
  have held := assetsHeld records l _ (List.mem_map_of_mem member)
  simp only [Item.Held, Asset.item, Asset.request, shown] at held
  exact held _ rfl

theorem leavesDeployment {records : Records} (l : Ledger) {d : Deployment} {id : String}
    (member : d ∈ records.deployments) (found : (leaves records l).idOf? d.assetSymbol = some id) :
    (id, d.chainId) ∈ (leaves records l).deployments := by
  have held := deploymentsHeld records l _ (List.mem_map_of_mem member)
  have resolves : (resolved answer Ledger.assets records l).resolve d.assetSymbol = some id := by
    rw [resolved, resolveListing, ← found, idOf?, idOf?, leavesAssets]
  simp only [Item.Held, Deployment.item, resolves] at held
  exact List.contains_iff_mem.mp (held _ rfl)

/-- After any history a clean run completes. The keys it leaves are the initial ones and those of
the records, each appended once; what fails is what no run could submit. -/
theorem cleanRunRecovers {source : Source Ledger} (holds : source.Holds records)
    (attempts : List (Attempt records)) (initial : Ledger) (stamp again : Stamp) :
    let run := seed stamp source Ledger.registry .never false (Attempt.history attempts initial)
    run.outcome.fatal = none ∧
    (∀ chainId, chainId ∈ run.world.chains ↔
      chainId ∈ initial.chains ∨ ∃ c ∈ records.chains, c.chainType = chainId) ∧
    (∀ symbol, run.world.hasSymbol symbol = true ↔ initial.hasSymbol symbol = true ∨
      ∃ a ∈ records.assets, Text.blank a.symbol = false ∧ a.symbol = symbol) ∧
    (∀ pair, pair ∈ run.world.deployments ↔ pair ∈ initial.deployments ∨
      ∃ d ∈ records.deployments,
        run.world.idOf? d.assetSymbol = some pair.1 ∧ d.chainId = pair.2) ∧
    Grown records initial run.world ∧
    run.outcome.failures = records.blankSymbols ++ records.unregistered run.world ∧
    (seed again source Ledger.registry .never false run.world).world = run.world := by
  intro run
  obtain ⟨outcome, left⟩ :=
    seedClean stamp holds Ledger.registrySteady (Attempt.history attempts initial)
  change run.world = leaves records (Attempt.history attempts initial) at left
  change run.outcome = _ at outcome
  have before := Attempt.historyGrown attempts (grownRefl records initial)
  have grown : Grown records initial run.world := by
    rw [left]
    exact leavesGrown records before
  refine ⟨by rw [outcome], ?_, ?_, ?_, grown, ?_, ?_⟩
  · intro chainId
    refine ⟨fun member => ?_, ?_⟩
    · simpa using appendedKey grown.chains (by simpa using member)
    · rintro (member | ⟨c, here, rfl⟩)
      · exact (appendedPrefix grown.chains).subset member
      · rw [left]; exact leavesChain _ here
  · intro symbol
    rw [hasSymbolIff, hasSymbolIff]
    refine ⟨fun member => appendedKey grown.assets member, ?_⟩
    rintro (member | ⟨a, here, shown, rfl⟩)
    · exact ((appendedPrefix grown.assets).map (·.symbol)).subset member
    · rw [left, ← hasSymbolIff]; exact leavesSymbol _ here shown
  · intro pair
    refine ⟨fun member => ?_, ?_⟩
    · simpa using appendedKey grown.deployments (by simpa using member)
    · rintro (member | ⟨d, here, found, same⟩)
      · exact (appendedPrefix grown.deployments).subset member
      · obtain ⟨id, chainId⟩ := pair
        cases same
        rw [left] at found ⊢
        exact leavesDeployment _ here found
  · have failed := tallyFailures records (Attempt.history attempts initial)
    rw [outcome, Outcome.failures, List.flatMap_def, failed, left]
    simp
  · have last := (seedClean again holds Ledger.registrySteady run.world).2
    change _ = leaves records run.world at last
    rw [last, left, leavesTwice]

/- Each submission is told the next of these replies, with its effect or without it; when they
have run out the ledger answers for itself. -/
def faulty : Registry (Ledger × List (Reply Answer × Bool)) where
  submit s world :=
    match world.2 with
    | [] =>
      { reply := .answered (.ok (world.1.submit s).1) false, world := ((world.1.submit s).2, []) }
    | (reply, effect) :: rest =>
      { reply, world := (if effect then (world.1.submit s).2 else world.1, rest) }
  list world := { reply := .answered (.ok world.1.assets) false, world }

def faultyAttempt (records : Records) (faults : List (Reply Answer × Bool)) : Attempt records where
  World := Ledger × List (Reply Answer × Bool)
  ledger := Prod.fst
  enter l := (l, faults)
  source := .ofRecords records.chains records.assets records.deployments
  registry := faulty
  interrupts := .never
  cancelled := false
  stamp := sampleStamp "faulty"
  entered _ := rfl
  served := {
    chains := fun _ => ⟨rfl, fun _ _ same => by cases same; rfl⟩
    assets := fun _ => ⟨rfl, fun _ _ same => by cases same; rfl⟩
    deployments := fun _ => ⟨rfl, fun _ _ same => by cases same; rfl⟩
    submit := fun s world => by
      obtain ⟨l, faults⟩ := world
      cases faults with
      | nil => exact Or.inr rfl
      | cons fault rest =>
        obtain ⟨reply, effect⟩ := fault
        cases effect with
        | true => exact Or.inr rfl
        | false => exact Or.inl rfl
    list := fun _ => ⟨rfl, fun _ _ same => by cases same; rfl⟩
    check := fun _ => rfl }

/- A run whose chain is told to have failed and hangs at the next, both having taken effect, then
one that is told of an asset it did not create and is cancelled by an error. -/
def sampleAttempts : List (Attempt mixedRecords) :=
  [faultyAttempt mixedRecords
     [(.answered (.ok (.failed ⟨.unavailable, "gateway"⟩)) false, true), (.abandoned, true)],
   faultyAttempt mixedRecords
     [(.answered (.ok (.conflict "chain exists")) false, false),
      (.answered (.ok (.conflict "chain exists")) false, false),
      (.answered (.ok (.created none)) false, false), (.answered (.error .cancelled) false, true)]]

theorem mixedRecordsRecovered :
    let source : Source Ledger :=
      .ofRecords mixedRecords.chains mixedRecords.assets mixedRecords.deployments
    let before := Attempt.history sampleAttempts sampleLedger
    let run := seed (sampleStamp "clean") source Ledger.registry .never false before
    source.Holds mixedRecords ∧
    before = ⟨["SOLANA", "EVM"], [⟨"old-1", "DAI"⟩, ⟨"old-2", "DAI"⟩, ⟨"asset-3", "ETH"⟩], []⟩ ∧
    run.outcome.fatal = none ∧
    run.world = { before with deployments := [("asset-3", "ethereum"), ("old-1", "base")] } ∧
    Grown mixedRecords sampleLedger run.world := by
  intro source before run
  have holds : source.Holds mixedRecords := Source.ofRecordsHolds mixedRecords
  have recovered := cleanRunRecovers holds sampleAttempts sampleLedger (sampleStamp "clean")
    (sampleStamp "again")
  exact ⟨holds, by decide +kernel, recovered.1, by decide +kernel, recovered.2.2.2.2.1⟩

end Run
end RegistrySeeding
