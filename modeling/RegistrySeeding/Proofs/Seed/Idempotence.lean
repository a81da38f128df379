import RegistrySeeding.Proofs.Ledger.Dealing

/-! A clean run against a ledger, and a second one after it. The first leaves every key that it
could submit in the ledger, and the assets that the listing shows do not change afterwards, so the
second makes the same submissions, finds each of them there and leaves the ledger as it is. -/
namespace RegistrySeeding

namespace Records

def blankSymbols (records : Records) : List ItemFailure :=
  (records.assets.filter fun a => Text.blank a.symbol).map fun a =>
    ⟨.assets, a.symbol, "asset symbol must not be empty (source id '" ++ a.id ++ "')"⟩

def unregistered (records : Records) (ledger : Ledger) : List ItemFailure :=
  (records.deployments.filter fun d => !ledger.hasSymbol d.assetSymbol).map fun d =>
    ⟨.deployments, d.assetSymbol ++ "@" ++ d.chainId, assetNotFound⟩

theorem chainRejections (records : Records) :
    (records.chains.map Chain.item).filterMap (Item.rejection? .chains) = [] := by
  simp [Chain.item, Item.rejection?]

theorem assetRejections (records : Records) :
    (records.assets.map Asset.item).filterMap (Item.rejection? .assets) = records.blankSymbols := by
  unfold blankSymbols
  induction records.assets with
  | nil => rfl
  | cons a rest ih =>
    simp only [List.map_cons, List.filterMap_cons, List.filter_cons, ih]
    cases blank : Text.blank a.symbol <;>
      simp [Item.rejection?, Asset.item, Asset.request, Asset.key, blank, Except.map]

end Records

theorem Index.resolvesIff (ledger : Ledger) (symbol : String) :
    (((Index.ofListing ledger.assets).1.resolve symbol).isSome = ledger.hasSymbol symbol) := by
  rw [Index.ofListing, Index.resolveExtend]
  simp [Index.resolve, Ledger.hasSymbol, List.isSome_find?]

theorem Records.deploymentRejections (records : Records) (ledger : Ledger) :
    (records.deployments.map (Deployment.item (Index.ofListing ledger.assets).1)).filterMap
      (Item.rejection? .deployments) = records.unregistered ledger := by
  unfold Records.unregistered
  induction records.deployments with
  | nil => rfl
  | cons d rest ih =>
    simp only [List.map_cons, List.filterMap_cons, List.filter_cons, ih,
      ← Index.resolvesIff ledger d.assetSymbol]
    cases found : (Index.ofListing ledger.assets).1.resolve d.assetSymbol <;>
      simp [Item.rejection?, Deployment.item, Deployment.key, found]

namespace Run
open Ledger (answer)

section
variable (records : Records) (ledger : Ledger)

def leaves : Ledger := afterDeployments answer Ledger.assets records ledger

theorem leavesAssets :
    (leaves records ledger).assets = (afterAssets answer records ledger).assets :=
  Ledger.afterDeploymentAssets _ _ _

theorem chainsHeld : ∀ item ∈ records.chains.map Chain.item, item.Held (leaves records ledger) := by
  intro item member s work
  have first := Ledger.afterHolds ledger (records.chains.map Chain.item) item member s work
  exact Ledger.afterKeeps _ _ s (Ledger.afterKeeps _ _ s first)

theorem assetsHeld : ∀ item ∈ records.assets.map Asset.item, item.Held (leaves records ledger) := by
  intro item member s work
  exact Ledger.afterKeeps _ _ s (Ledger.afterHolds _ _ item member s work)

theorem deploymentsHeld : ∀ item ∈ deploymentItems answer Ledger.assets records ledger,
    item.Held (leaves records ledger) :=
  Ledger.afterHolds _ _

theorem leavesAfterChains :
    afterChains answer records (leaves records ledger) = leaves records ledger :=
  (Ledger.afterHeld (chainsHeld records ledger)).1

theorem leavesAfterAssets :
    afterAssets answer records (leaves records ledger) = leaves records ledger := by
  rw [afterAssets, leavesAfterChains]
  exact (Ledger.afterHeld (assetsHeld records ledger)).1

theorem leavesItems : deploymentItems answer Ledger.assets records (leaves records ledger) =
    deploymentItems answer Ledger.assets records ledger := by
  rw [deploymentItems, deploymentItems, resolved, resolved, leavesAfterAssets, leavesAssets]

theorem leavesTwice : leaves records (leaves records ledger) = leaves records ledger := by
  rw [leaves, afterDeployments, leavesAfterAssets, leavesItems]
  exact (Ledger.afterHeld (deploymentsHeld records ledger)).1

theorem tallyStages : (tallies answer Ledger.assets records ledger).map (·.stage) =
    [.chains, .assets, .deployments] := by
  simp [tallies, Tally.ofVerdicts, Tally.noteAllStage, Tally.empty]

theorem tallyAttempts : (tallies answer Ledger.assets records ledger).map (·.attempted) =
    [UInt64.ofNat records.chains.length, UInt64.ofNat records.assets.length,
      UInt64.ofNat records.deployments.length] := by
  simp [tallies, Tally.ofVerdicts, Tally.noteAllAttempted, Tally.empty, verdictsLength,
    deploymentItems]

theorem tallyConserved : ∀ t ∈ tallies answer Ledger.assets records ledger, t.conserved = true := by
  simp [tallies, Tally.ofVerdictsConserved]

theorem tallyFailures : (tallies answer Ledger.assets records ledger).map (·.failures) =
    [[], records.blankSymbols, records.unregistered (leaves records ledger)] := by
  have shown := leavesAssets records ledger
  have third := records.deploymentRejections (leaves records ledger)
  rw [shown] at third
  simp only [tallies, List.map_cons, List.map_nil, Ledger.tallyFailures, records.chainRejections,
    records.assetRejections]
  rw [deploymentItems, resolved, third]

theorem secondTallies : ∀ t ∈ tallies answer Ledger.assets records (leaves records ledger),
    t.created = 0 := by
  intro t member
  simp only [tallies, leavesAfterChains, leavesAfterAssets, leavesItems, List.mem_cons,
    List.not_mem_nil, or_false] at member
  rcases member with rfl | rfl | rfl
  · exact Ledger.tallyHeld _ (chainsHeld records ledger)
  · exact Ledger.tallyHeld _ (assetsHeld records ledger)
  · exact Ledger.tallyHeld _ (deploymentsHeld records ledger)

end

/-- A second clean run over the same records creates nothing, fails what the first one failed and
leaves the ledger as it found it. -/
theorem secondRunCreatesNothing {source : Source Ledger} {records : Records}
    (holds : source.Holds records) (first second : Stamp) (ledger : Ledger) :
    let one := seed first source Ledger.registry .never false ledger
    let two := seed second source Ledger.registry .never false one.world
    one.outcome.fatal = none ∧ two.outcome.fatal = none ∧
    two.outcome.stages.map (·.stage) = [.chains, .assets, .deployments] ∧
    two.outcome.stages.map (·.attempted) = [UInt64.ofNat records.chains.length,
      UInt64.ofNat records.assets.length, UInt64.ofNat records.deployments.length] ∧
    (∀ t ∈ two.outcome.stages, t.created = 0 ∧ t.skipped = t.attempted - t.failed) ∧
    two.outcome.stages.map (·.failures) = one.outcome.stages.map (·.failures) ∧
    one.outcome.stages.map (·.failures) =
      [[], records.blankSymbols, records.unregistered one.world] ∧
    two.world = one.world := by
  intro one two
  obtain ⟨outcome, left⟩ := seedClean first holds Ledger.registrySteady ledger
  obtain ⟨again, last⟩ := seedClean second holds Ledger.registrySteady one.world
  change one.world = leaves records ledger at left
  change two.world = leaves records one.world at last
  change two.outcome = _ at again
  rw [left] at last again
  refine ⟨by rw [outcome], by rw [again], ?_, ?_, ?_, ?_, ?_, ?_⟩
  · rw [again, tallyStages]
  · rw [again, tallyAttempts]
  · rw [again]
    intro t member
    have created := secondTallies records ledger t member
    exact ⟨created, Tally.skippedOfNoneCreated (tallyConserved records _ t member) created⟩
  · rw [again, outcome, tallyFailures, tallyFailures, leavesTwice]
  · rw [outcome, tallyFailures, left]
  · rw [last, left, leavesTwice]

/- Two chains of one type, a repeated symbol, a blank one and one that nothing registers. -/
def mixedRecords : Records where
  chains := [⟨"ethereum", "Ethereum", "EVM", "ETH", [], ""⟩, ⟨"base", "Base", "EVM", "ETH", [], ""⟩]
  assets := [⟨"eth", "ETH", "Ether", "ASSET_TYPE_NATIVE", none, none, none, none, none, none⟩,
    ⟨"void", " ", "Void", "ASSET_TYPE_SPL", none, none, none, none, none, none⟩,
    ⟨"weth", "ETH", "Ether", "ASSET_TYPE_ERC20", none, none, none, none, none, none⟩]
  deployments := [⟨"ETH", "ethereum", zeroAddress, 18, true⟩, ⟨"DAI", "base", "0x50", 18, false⟩,
    ⟨"WBTC", "ethereum", "0x22", 8, false⟩]

def sampleLedger : Ledger := ⟨["SOLANA"], [⟨"old-1", "DAI"⟩, ⟨"old-2", "DAI"⟩], []⟩

def sampleStamp (runId : String) : Stamp :=
  ⟨runId, ⟨⟨2024, 2, 29⟩, 43200, 0⟩, ⟨⟨2024, 2, 29⟩, 43260, 0⟩⟩

theorem mixedRecordsTwice :
    let source : Source Ledger :=
      .ofRecords mixedRecords.chains mixedRecords.assets mixedRecords.deployments
    let one := seed (sampleStamp "one") source Ledger.registry .never false sampleLedger
    let two := seed (sampleStamp "two") source Ledger.registry .never false one.world
    source.Holds mixedRecords ∧
    one.outcome.stages.map (·.created) = [1, 1, 2] ∧
    two.outcome.stages.map (·.skipped) = [2, 2, 2] ∧
    two.outcome.failures.map (·.key) = [" ", "WBTC@ethereum"] ∧
    (∀ t ∈ two.outcome.stages, t.created = 0 ∧ t.skipped = t.attempted - t.failed) ∧
    two.world = one.world := by
  intro source one two
  have holds : source.Holds mixedRecords := Source.ofRecordsHolds mixedRecords
  have repeated :=
    secondRunCreatesNothing holds (sampleStamp "one") (sampleStamp "two") sampleLedger
  exact ⟨holds, by decide +kernel, by decide +kernel, by decide +kernel, repeated.2.2.2.2.1,
    repeated.2.2.2.2.2.2.2⟩

end Run
end RegistrySeeding
