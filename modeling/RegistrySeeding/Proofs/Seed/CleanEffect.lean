import RegistrySeeding.Proofs.Ledger.FreshKeys
import RegistrySeeding.Proofs.Seed.CleanJournal
import RegistrySeeding.Proofs.Seed.Idempotence

/-! What a clean run adds to a ledger. Each stage creates the keys of its batch that were not there,
at their first occurrence, and the deployments are filed under the assets that the stage before
them left. -/
namespace RegistrySeeding
open Journal (reportsOf reported)

namespace Run
open Ledger (answer)

/-- The stage turned the keys `held` into `left` by what its batch is filed under: the verdict at
each position goes by what was held and by the positions before. -/
structure Adds {α κ : Type} [DecidableEq κ] (run : Finished Ledger) (stage : Stage) (batch : List α)
    (key : α → String) (filing : α → Except String κ) (held left : List κ) : Prop where
  grown : left = held ++ fresh held (filed filing batch)
  created : ∃ tally, run.outcome.stage? stage = some tally ∧
    tally.created = .ofNat (fresh held (filed filing batch)).length
  total : (reportsOf stage run.journal).length = batch.length
  verdict : ∀ before x after, batch = before ++ x :: after →
    (reportsOf stage run.journal)[before.length]? =
      some ⟨stage, key x, fate (held ++ filed filing before) (filing x)⟩

theorem addsDealt {α κ : Type} [DecidableEq κ] {run : Finished Ledger} {stage : Stage}
    {batch : List α} {key : α → String} {item : α → Item} {filing : α → Except String κ}
    {keys : Ledger → List κ} {held left : List κ} {ledger : Ledger}
    (told : reportsOf stage run.journal =
      reported stage (verdicts answer ledger (batch.map item)))
    (counted : run.outcome.stage? stage =
      some (Tally.ofVerdicts stage (verdicts answer ledger (batch.map item))))
    (files : ∀ x, (item x).Files keys (filing x)) (own : ∀ x, (item x).key = key x)
    (start : keys ledger = held) (stop : left = keys (after answer ledger (batch.map item))) :
    Adds run stage batch key filing held left := by
  subst start
  subst stop
  obtain ⟨grown, count⟩ := Ledger.afterFiled files ledger batch
  refine ⟨grown, ⟨_, counted, ?_⟩, ?_, ?_⟩
  · rw [Tally.ofVerdicts, Tally.noteAllCreated, count]
    exact UInt64.zero_add _
  · rw [told, reported, List.length_map, verdictsLength, List.length_map]
  · rintro before x after rfl
    rw [told, reported, List.getElem?_map, Ledger.verdictFiled files, own]
    rfl

section
variable (records : Records) (ledger : Ledger)

theorem leavesChainsList : (leaves records ledger).chains =
    (after answer ledger (records.chains.map Chain.item)).chains := by
  have third := (Ledger.afterElsewhere
    (Item.belongEach (Deployment.itemBelongs (resolved answer Ledger.assets records ledger))
      records.deployments) (afterAssets answer records ledger)).1
  have second := (Ledger.afterElsewhere (Item.belongEach Asset.itemBelongs records.assets)
    (afterChains answer records ledger)).1
  exact (third (by decide)).trans (second (by decide))

theorem afterChainsAssets : (afterChains answer records ledger).assets = ledger.assets :=
  (Ledger.afterElsewhere (Item.belongEach Chain.itemBelongs records.chains) ledger).2.1
    (by decide)

theorem afterAssetsDeployments :
    (afterAssets answer records ledger).deployments = ledger.deployments := by
  have second := (Ledger.afterElsewhere (Item.belongEach Asset.itemBelongs records.assets)
    (afterChains answer records ledger)).2.2
  have first := (Ledger.afterElsewhere (Item.belongEach Chain.itemBelongs records.chains)
    ledger).2.2
  exact (second (by decide)).trans (first (by decide))

theorem resolvesLeft (symbol : String) : (resolved answer Ledger.assets records ledger).resolve
    symbol = (leaves records ledger).idOf? symbol := by
  rw [resolved, Ledger.resolveListing, Ledger.idOf?, Ledger.idOf?, leavesAssets]

end

/-- A clean run creates exactly the fresh keys of its batches. -/
theorem cleanRunAddsFreshKeys {source : Source Ledger} {records : Records}
    (holds : source.Holds records) (stamp : Stamp) (ledger : Ledger) :
    let run := seed stamp source Ledger.registry .never false ledger
    let symbols (l : Ledger) := l.assets.map (·.symbol)
    run.outcome.fatal = none ∧
    Adds run .chains records.chains Chain.key Chain.filing ledger.chains run.world.chains ∧
    Adds run .assets records.assets Asset.key Asset.filing (symbols ledger) (symbols run.world) ∧
    Adds run .deployments records.deployments Deployment.key (Deployment.filing run.world)
      ledger.deployments run.world.deployments ∧
    run.world.assets = ledger.assets ++ Ledger.numbered ledger.assets.length
      (fresh (symbols ledger) (filed Asset.filing records.assets)) := by
  intro run symbols
  obtain ⟨outcome, left⟩ := seedClean stamp holds Ledger.registrySteady ledger
  have told := cleanReports stamp holds Ledger.registrySteady ledger
  have counted (stage : Stage) : run.outcome.stage? stage =
      some (Tally.ofVerdicts stage (noted answer Ledger.assets records ledger stage)) := by
    rw [← notedTally, ← show run.outcome.stages = tallies answer Ledger.assets records ledger by
      exact congrArg Outcome.stages outcome]
    rfl
  change run.world = leaves records ledger at left
  have entered : run.world.assets = (afterAssets answer records ledger).assets :=
    left ▸ leavesAssets records ledger
  refine ⟨congrArg Outcome.fatal outcome, ?_, ?_, ?_, ?_⟩
  · exact addsDealt (told .chains) (counted .chains) Chain.itemFiles (fun _ => rfl) rfl
      (left ▸ leavesChainsList records ledger)
  · exact addsDealt (told .assets) (counted .assets) Asset.itemFiles (fun _ => rfl)
      (congrArg (List.map _) (afterChainsAssets records ledger)) (congrArg (List.map _) entered)
  · exact addsDealt (told .deployments) (counted .deployments)
      (fun d => Deployment.itemFiles d (left ▸ resolvesLeft records ledger)) (fun _ => rfl)
      (afterAssetsDeployments records ledger) (congrArg Ledger.deployments left)
  · rw [entered, afterAssets, Ledger.afterEntered, afterChainsAssets]

theorem mixedRecordsAdded :
    let source : Source Ledger :=
      .ofRecords mixedRecords.chains mixedRecords.assets mixedRecords.deployments
    let run := seed (sampleStamp "clean") source Ledger.registry .never false sampleLedger
    source.Holds mixedRecords ∧
    run.world = ⟨["SOLANA", "EVM"], [⟨"old-1", "DAI"⟩, ⟨"old-2", "DAI"⟩, ⟨"asset-3", "ETH"⟩],
      [("asset-3", "ethereum"), ("old-1", "base")]⟩ ∧
    (reportsOf .chains run.journal).map (·.verdict) = [.created, .duplicate] ∧
    run.world.chains =
      sampleLedger.chains ++ fresh sampleLedger.chains (filed Chain.filing mixedRecords.chains) := by
  intro source run
  have holds : source.Holds mixedRecords := Source.ofRecordsHolds mixedRecords
  have added := cleanRunAddsFreshKeys holds (sampleStamp "clean") sampleLedger
  exact ⟨holds, by decide +kernel, by decide +kernel, added.2.1.grown⟩

end Run
end RegistrySeeding
