import RegistrySeeding.Proofs.Ledger.Naming
import RegistrySeeding.Proofs.Seed.CleanEffect

/-! Two clean runs over the same records in different orders. What a stage adds is the set of keys
it is filed under, so the order of a batch decides only which identifier an asset gets. Deployments
are compared under the symbols of their assets, which identifiers stand for one to one. -/
namespace RegistrySeeding

theorem freshNodup {κ : Type} [DecidableEq κ] (held keys : List κ) : (fresh held keys).Nodup := by
  induction keys generalizing held with
  | nil => simp [freshNil]
  | cons k rest ih =>
    by_cases inside : k ∈ held
    · rw [freshHeld inside]
      exact ih held
    · rw [freshCons inside, List.nodup_cons]
      refine ⟨?_, ih _⟩
      intro again
      simpa using (freshMem.mp again).2

theorem freshPerm {κ : Type} [DecidableEq κ] (held : List κ) {keys others : List κ}
    (permuted : keys.Perm others) : (fresh held keys).Perm (fresh held others) := by
  rw [List.perm_ext_iff_of_nodup (freshNodup held keys) (freshNodup held others)]
  intro k
  rw [freshMem, freshMem, permuted.mem_iff]

theorem filedPerm {α κ : Type} (filing : α → Except String κ) {xs ys : List α}
    (permuted : xs.Perm ys) : (filed filing xs).Perm (filed filing ys) :=
  permuted.filterMap _

structure Tally.Matches (one two : Tally) : Prop where
  attempted : one.attempted = two.attempted
  created : one.created = two.created
  skipped : one.skipped = two.skipped
  failed : one.failed = two.failed
  failures : one.failures.Perm two.failures

theorem Tally.ofVerdictsMatch (stage : Stage) {noted others : List (String × Verdict)}
    (total : noted.length = others.length)
    (created : noted.countP (fun n => n.2.isCreated) = others.countP fun n => n.2.isCreated)
    (failures : (noted.filterMap fun n => n.2.failure? stage n.1).Perm
      (others.filterMap fun n => n.2.failure? stage n.1)) :
    (ofVerdicts stage noted).Matches (ofVerdicts stage others) := by
  have failed : noted.countP (fun n => n.2.isFailed) = others.countP fun n => n.2.isFailed := by
    rw [← failuresCount stage, ← failuresCount stage, failures.length_eq]
  have skipped : noted.countP (fun n => n.2.isDuplicate) =
      others.countP fun n => n.2.isDuplicate := by
    have parts := kindsPartition noted
    have others := kindsPartition others
    omega
  constructor
  · simp only [ofVerdicts, noteAllAttempted, total]
  · simp only [ofVerdicts, noteAllCreated, created]
  · simp only [ofVerdicts, noteAllSkipped, skipped]
  · simp only [ofVerdicts, noteAllFailed, failed]
  · simpa only [ofVerdicts, noteAllFailures, empty, List.nil_append] using failures

structure Records.Permuted (records others : Records) : Prop where
  chains : records.chains.Perm others.chains
  assets : records.assets.Perm others.assets
  deployments : records.deployments.Perm others.deployments

namespace Run
open Ledger (answer)

theorem dealtMatch {stage : Stage} {start begins : Ledger} {items others : List Item}
    (total : items.length = others.length)
    (created : (verdicts answer start items).countP (fun n => n.2.isCreated) =
      (verdicts answer begins others).countP fun n => n.2.isCreated)
    (rejected : (items.filterMap (Item.rejection? stage)).Perm
      (others.filterMap (Item.rejection? stage))) :
    (Tally.ofVerdicts stage (verdicts answer start items)).Matches
      (Tally.ofVerdicts stage (verdicts answer begins others)) := by
  apply Tally.ofVerdictsMatch
  · rw [verdictsLength, verdictsLength, total]
  · exact created
  · rwa [Ledger.verdictFailures, Ledger.verdictFailures]

theorem batchMatch {α κ : Type} [DecidableEq κ] {keys : Ledger → List κ} {item : α → Item}
    {filing : α → Except String κ} (stage : Stage) (files : ∀ x, (item x).Files keys (filing x))
    {start begins : Ledger} (same : keys start = keys begins) {xs ys : List α}
    (permuted : xs.Perm ys) :
    (Tally.ofVerdicts stage (verdicts answer start (xs.map item))).Matches
      (Tally.ofVerdicts stage (verdicts answer begins (ys.map item))) := by
  apply dealtMatch
  · simp [permuted.length_eq]
  · rw [(Ledger.afterFiled files start xs).2, (Ledger.afterFiled files begins ys).2, same]
    exact (freshPerm _ (filedPerm filing permuted)).length_eq
  · exact (permuted.map item).filterMap _

section
variable (records : Records)

theorem emptyLeavesChains :
    (leaves records {}).chains = fresh [] (filed Chain.filing records.chains) := by
  rw [leavesChainsList, (Ledger.afterFiled Chain.itemFiles {} records.chains).1]
  rfl

theorem emptyLeavesAssets : (leaves records {}).assets =
    Ledger.numbered 0 (fresh [] (filed Asset.filing records.assets)) := by
  rw [leavesAssets, afterAssets, Ledger.afterEntered, afterChainsAssets]
  rfl

theorem emptyLeavesSymbols : (leaves records {}).assets.map (·.symbol) =
    fresh [] (filed Asset.filing records.assets) := by
  rw [emptyLeavesAssets, Ledger.numberedSymbols]

theorem emptyLeavesNamed : (leaves records {}).Named :=
  Ledger.numberedNamed (emptyLeavesAssets records) (freshNodup _ _)

theorem emptyDealsDeployments :
    (leaves records {}).deployments =
      fresh [] (filed (Deployment.filing (leaves records {})) records.deployments) ∧
    (verdicts answer (afterAssets answer records {})
      (deploymentItems answer Ledger.assets records {})).countP (fun n => n.2.isCreated) =
      (leaves records {}).deployments.length := by
  have files (d : Deployment) :=
    Deployment.itemFiles d (resolvesLeft records {})
  have start : (afterAssets answer records {}).deployments = [] := afterAssetsDeployments records {}
  obtain ⟨grown, count⟩ :=
    Ledger.afterFiled files (afterAssets answer records {}) records.deployments
  rw [start, List.nil_append] at grown
  rw [start, ← grown] at count
  exact ⟨grown, count⟩

theorem placedIff (place : Option String × String) : place ∈ (leaves records {}).placed ↔
    ∃ d ∈ records.deployments, (leaves records {}).hasSymbol d.assetSymbol = true ∧
      place = (some d.assetSymbol, d.chainId) := by
  have named := emptyLeavesNamed records
  rw [Ledger.placed, List.mem_map, (emptyDealsDeployments records).1]
  simp only [freshMem, List.not_mem_nil, not_false_eq_true, and_true, filed, List.mem_filterMap]
  constructor
  · rintro ⟨pair, ⟨d, member, kept⟩, rfl⟩
    refine ⟨d, member, ?_⟩
    rw [← Index.resolvesIff, Ledger.resolveListing]
    unfold Deployment.filing at kept
    cases found : (leaves records {}).idOf? d.assetSymbol with
    | none => simp [found, Except.toOption] at kept
    | some id =>
      simp only [found, Except.toOption, Option.some.injEq] at kept
      subst kept
      exact ⟨rfl, by rw [Ledger.symbolOfId named found]⟩
  · rintro ⟨d, member, known, rfl⟩
    rw [← Index.resolvesIff, Ledger.resolveListing, Option.isSome_iff_exists] at known
    obtain ⟨id, found⟩ := known
    refine ⟨(id, d.chainId), ⟨d, member, by simp [Deployment.filing, found, Except.toOption]⟩, ?_⟩
    rw [Ledger.symbolOfId named found]

theorem filedKnown {pair : String × String} (inside : pair ∈ (leaves records {}).deployments) :
    ∃ symbol, ⟨pair.1, symbol⟩ ∈ (leaves records {}).assets := by
  rw [(emptyDealsDeployments records).1, freshMem, filed, List.mem_filterMap] at inside
  obtain ⟨⟨d, _, kept⟩, _⟩ := inside
  unfold Deployment.filing at kept
  cases found : (leaves records {}).idOf? d.assetSymbol with
  | none => simp [found, Except.toOption] at kept
  | some id =>
    simp only [found, Except.toOption, Option.some.injEq] at kept
    subst kept
    exact ⟨d.assetSymbol, (Ledger.idOfIff (emptyLeavesNamed records)).mp found⟩

theorem placedNodup : (leaves records {}).placed.Nodup := by
  have named := emptyLeavesNamed records
  have apart : (leaves records {}).deployments.Nodup := by
    rw [(emptyDealsDeployments records).1]
    exact freshNodup _ _
  rw [Ledger.placed, List.Nodup, List.pairwise_map]
  refine apart.imp_of_mem ?_
  intro one two inside also different same
  obtain ⟨symbol, entry⟩ := filedKnown records inside
  obtain ⟨other, second⟩ := filedKnown records also
  rw [Prod.mk.injEq, (Ledger.symbolOfIff named).mpr entry, (Ledger.symbolOfIff named).mpr second,
    Option.some.injEq] at same
  obtain ⟨rfl, chain⟩ := same
  have ids := ((Ledger.idOfIff named).mpr entry).symm.trans ((Ledger.idOfIff named).mpr second)
  exact different (Prod.ext (Option.some.inj ids) chain)

end

section
variable {records others : Records}

theorem symbolsPermuted (permuted : records.Permuted others) :
    ((leaves records {}).assets.map (·.symbol)).Perm
      ((leaves others {}).assets.map (·.symbol)) := by
  rw [emptyLeavesSymbols, emptyLeavesSymbols]
  exact freshPerm [] (filedPerm Asset.filing permuted.assets)

theorem knownAlike (permuted : records.Permuted others) (symbol : String) :
    (leaves records {}).hasSymbol symbol = (leaves others {}).hasSymbol symbol := by
  rw [Bool.eq_iff_iff, Ledger.hasSymbolIff, Ledger.hasSymbolIff]
  exact (symbolsPermuted permuted).mem_iff

theorem placedPermuted (permuted : records.Permuted others) :
    (leaves records {}).placed.Perm (leaves others {}).placed := by
  rw [List.perm_ext_iff_of_nodup (placedNodup records) (placedNodup others)]
  intro place
  rw [placedIff, placedIff]
  simp only [knownAlike permuted, permuted.deployments.mem_iff]

theorem deploymentsMatch (permuted : records.Permuted others) :
    (Tally.ofVerdicts .deployments (noted answer Ledger.assets records {} .deployments)).Matches
      (Tally.ofVerdicts .deployments (noted answer Ledger.assets others {} .deployments)) := by
  apply dealtMatch
  · simp [deploymentItems, permuted.deployments.length_eq]
  · rw [(emptyDealsDeployments records).2, (emptyDealsDeployments others).2]
    have sizes := (placedPermuted permuted).length_eq
    simpa [Ledger.placed] using sizes
  · have shown (r : Records) : (deploymentItems answer Ledger.assets r {}).filterMap
        (Item.rejection? .deployments) = r.unregistered (leaves r {}) := by
      rw [deploymentItems, resolved, ← leavesAssets, Records.deploymentRejections]
    rw [shown, shown, Records.unregistered, Records.unregistered]
    simp only [knownAlike permuted]
    exact (permuted.deployments.filter _).map _

theorem talliesMatch (permuted : records.Permuted others) (stage : Stage) :
    (Tally.ofVerdicts stage (noted answer Ledger.assets records {} stage)).Matches
      (Tally.ofVerdicts stage (noted answer Ledger.assets others {} stage)) := by
  cases stage with
  | chains => exact batchMatch .chains Chain.itemFiles rfl permuted.chains
  | assets =>
    refine batchMatch .assets Asset.itemFiles ?_ permuted.assets
    rw [afterChainsAssets, afterChainsAssets]
  | deployments => exact deploymentsMatch permuted

end

/-- From an empty ledger the order of the records makes no difference but for the identifiers. -/
theorem permutedRecordsAgree {source other : Source Ledger} {records permutation : Records}
    (holds : source.Holds records) (also : other.Holds permutation)
    (permuted : records.Permuted permutation) (stamp again : Stamp) :
    let one := seed stamp source Ledger.registry .never false {}
    let two := seed again other Ledger.registry .never false {}
    one.outcome.fatal = none ∧ two.outcome.fatal = none ∧
    one.outcome.stages.map (·.stage) = [.chains, .assets, .deployments] ∧
    two.outcome.stages.map (·.stage) = [.chains, .assets, .deployments] ∧
    (∀ stage, ∃ mine yours, one.outcome.stage? stage = some mine ∧
      two.outcome.stage? stage = some yours ∧ mine.Matches yours) ∧
    one.outcome.failures.Perm two.outcome.failures ∧
    one.world.chains.Perm two.world.chains ∧
    (one.world.assets.map (·.symbol)).Perm (two.world.assets.map (·.symbol)) ∧
    one.world.placed.Perm two.world.placed ∧
    (∀ d ∈ one.world.deployments, ∃ symbol, one.world.symbolOf? d.1 = some symbol) ∧
    one.world.Named ∧ two.world.Named := by
  intro one two
  obtain ⟨first, left⟩ := seedClean stamp holds Ledger.registrySteady {}
  obtain ⟨second, right⟩ := seedClean again also Ledger.registrySteady {}
  change one.outcome = _ at first
  change two.outcome = _ at second
  change one.world = leaves records {} at left
  change two.world = leaves permutation {} at right
  rw [first, second, left, right]
  refine ⟨rfl, rfl, tallyStages records {}, tallyStages permutation {}, ?_, ?_, ?_, ?_, ?_, ?_, ?_,
    ?_⟩
  · intro stage
    exact ⟨_, _, notedTally answer Ledger.assets records {} stage,
      notedTally answer Ledger.assets permutation {} stage, talliesMatch permuted stage⟩
  · have chains := (talliesMatch permuted .chains).failures
    have assets := (talliesMatch permuted .assets).failures
    have deployments := (talliesMatch permuted .deployments).failures
    simp only [Outcome.failures, tallies, List.flatMap_cons, List.flatMap_nil]
    exact chains.append (assets.append (deployments.append .nil))
  · rw [emptyLeavesChains, emptyLeavesChains]
    exact freshPerm [] (filedPerm Chain.filing permuted.chains)
  · exact symbolsPermuted permuted
  · exact placedPermuted permuted
  · intro d inside
    obtain ⟨symbol, entry⟩ := filedKnown records inside
    exact ⟨symbol, (Ledger.symbolOfIff (emptyLeavesNamed records)).mpr entry⟩
  · exact emptyLeavesNamed records
  · exact emptyLeavesNamed permutation

/- The assets are numbered by the order they come in, and a deployment is repeated. -/
def tradedRecords : Records where
  chains := [⟨"ethereum", "Ethereum", "EVM", "ETH", [], ""⟩, ⟨"base", "Base", "EVM", "ETH", [], ""⟩,
    ⟨"solana", "Solana", "SVM", "SOL", [], ""⟩]
  assets := [⟨"eth", "ETH", "Ether", "ASSET_TYPE_NATIVE", none, none, none, none, none, none⟩,
    ⟨"void", " ", "Void", "ASSET_TYPE_SPL", none, none, none, none, none, none⟩,
    ⟨"dai", "DAI", "Dai", "ASSET_TYPE_ERC20", none, none, none, none, none, none⟩]
  deployments := [⟨"ETH", "ethereum", zeroAddress, 18, true⟩, ⟨"DAI", "base", "0x50", 18, false⟩,
    ⟨"WBTC", "ethereum", "0x22", 8, false⟩, ⟨"DAI", "base", "0x51", 18, false⟩]

def reversedRecords : Records :=
  ⟨tradedRecords.chains.reverse, tradedRecords.assets.reverse, tradedRecords.deployments.reverse⟩

theorem reversedRecordsAgree :
    let source : Source Ledger :=
      .ofRecords tradedRecords.chains tradedRecords.assets tradedRecords.deployments
    let other : Source Ledger :=
      .ofRecords reversedRecords.chains reversedRecords.assets reversedRecords.deployments
    let one := seed (sampleStamp "one") source Ledger.registry .never false {}
    let two := seed (sampleStamp "two") other Ledger.registry .never false {}
    source.Holds tradedRecords ∧ other.Holds reversedRecords ∧
    tradedRecords.Permuted reversedRecords ∧
    one.world.deployments = [("asset-1", "ethereum"), ("asset-2", "base")] ∧
    two.world.deployments = [("asset-1", "base"), ("asset-2", "ethereum")] ∧
    one.world.placed.Perm two.world.placed := by
  intro source other one two
  have holds : source.Holds tradedRecords := Source.ofRecordsHolds tradedRecords
  have also : other.Holds reversedRecords := Source.ofRecordsHolds reversedRecords
  have permuted : tradedRecords.Permuted reversedRecords :=
    ⟨(List.reverse_perm _).symm, (List.reverse_perm _).symm, (List.reverse_perm _).symm⟩
  have agreed := permutedRecordsAgree holds also permuted (sampleStamp "one") (sampleStamp "two")
  exact ⟨holds, also, permuted, by decide +kernel, by decide +kernel, agreed.2.2.2.2.2.2.2.2.1⟩

end Run
end RegistrySeeding
