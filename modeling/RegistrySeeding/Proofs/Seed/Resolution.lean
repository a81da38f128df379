import RegistrySeeding.Proofs.Seed.Agreement
import RegistrySeeding.Proofs.Seed.CleanEffect
import RegistrySeeding.Proofs.Seed.Heeding
import RegistrySeeding.Registry.Script

/-! Deployments after chains and assets that were answered at will. What a registry told of them may
be anything; whether a deployment finds its asset goes by what the registry lists. -/
namespace RegistrySeeding
open Journal (calls reportsOf reported)
variable {σ : Type}

namespace Reply

def answer : Reply Answer → Answer
  | answered (.ok answer) _ => answer
  | _ => .created none

theorem plainAnswer {reply : Reply Answer} (clean : reply.error? = none)
    (idle : reply.cancels = false) : reply = answered (.ok reply.answer) false := by
  cases reply with
  | abandoned => nomatch idle
  | answered result requested =>
    cases result with
    | error e => nomatch clean
    | ok answer =>
      change requested = false at idle
      rw [idle]
      rfl

end Reply

def Moment.isEarly : Moment → Bool
  | submission s _ => s.stage != .deployments
  | _ => false

def Moment.Plain (m : Moment) : Prop :=
  m.isEarly = true → m.error? = none ∧ m.cancels = false

instance (m : Moment) : Decidable m.Plain := by unfold Moment.Plain; infer_instance

def Ledger.Entered (first later : Ledger) (asked : List Call) (entered : List RegisteredAsset) :
    Prop :=
  later.assets = first.assets ++ entered ∧
    ∀ a ∈ entered, ∃ r, Call.submit (.asset r) ∈ asked ∧ r.symbol = a.symbol

theorem Ledger.enteredNext {first l next : Ledger} {asked : List Call}
    {entered : List RegisteredAsset} {s : Submission} (so : Entered first l asked entered)
    (call : Call.submit s ∈ asked) (steps : next = l ∨ next = (l.submit s).2) :
    ∃ more, Entered first next asked more := by
  obtain ⟨grown, called⟩ := so
  have alone (same : next.assets = l.assets) : ∃ more, Entered first next asked more :=
    ⟨entered, same.trans grown, called⟩
  rcases steps with rfl | rfl
  · exact alone rfl
  · rcases l.submitAssets s with same | ⟨r, rfl, added⟩
    · exact alone same
    · refine ⟨entered ++ [⟨l.nextId, r.symbol⟩], ?_, fun a inside => ?_⟩
      · rw [added, grown, List.append_assoc]
      · rcases List.mem_append.mp inside with early | last
        · exact called a early
        · cases List.mem_singleton.mp last
          exact ⟨r, call, rfl⟩

/-- In fair worlds, deployments and the listing follow the ledger. Chains and assets are told
anything; they leave the ledger alone or do what the ledger would have done. -/
structure Registry.Scripted (registry : Registry σ) (ledger : σ → Ledger) (fair : σ → Prop) :
    Prop where
  list (w : σ) (begins : fair w) :
    (registry.list w).reply = .answered (.ok (ledger w).assets) false ∧
    (registry.list w).world = w
  deployment (r : DeploymentRequest) (w : σ) (begins : fair w) :
    (registry.submit (.deployment r) w).reply =
      .answered (.ok ((ledger w).submit (.deployment r)).1) false ∧
    ledger (registry.submit (.deployment r) w).world = ((ledger w).submit (.deployment r)).2
  early (s : Submission) (w : σ) (begins : fair w) (other : s.stage ≠ .deployments) :
    ledger (registry.submit s w).world = ledger w ∨
    ledger (registry.submit s w).world = ((ledger w).submit s).2
  stays (s : Submission) (w : σ) (begins : fair w) : fair (registry.submit s w).world

namespace Registry

def calm (registry : Registry σ) (ledger : σ → Ledger) : Registry σ where
  submit s w :=
    { registry.submit s w with reply := .answered (.ok (registry.submit s w).reply.answer) false }
  list w := ⟨.answered (.ok (ledger w).assets) false, (registry.list w).lines, w⟩

def told (registry : Registry σ) (s : Submission) (w : σ) : Answer × σ :=
  ((registry.submit s w).reply.answer, (registry.submit s w).world)

theorem calmSteady (registry : Registry σ) (ledger : σ → Ledger) :
    (registry.calm ledger).Steady registry.told fun w => (ledger w).assets where
  submit _ _ := ⟨rfl, rfl⟩
  list _ := ⟨rfl, rfl⟩

variable {registry : Registry σ} {ledger : σ → Ledger} {fair : σ → Prop}

theorem calmAgrees (scripted : registry.Scripted ledger fair) :
    Registry.Agrees fair Moment.Plain registry (registry.calm ledger) where
  submit s w begins := by
    refine ⟨scripted.stays s w begins, fun plain => ?_⟩
    have same : (registry.submit s w).reply =
        .answered (.ok (registry.submit s w).reply.answer) false := by
      cases s with
      | deployment r => rw [(scripted.deployment r w begins).1]; rfl
      | chain r => exact Reply.plainAnswer (plain rfl).1 (plain rfl).2
      | asset r => exact Reply.plainAnswer (plain rfl).1 (plain rfl).2
    simp only [calm, ← same]
  list w begins := by
    obtain ⟨reply, left⟩ := scripted.list w begins
    refine ⟨by rwa [left], fun _ => ?_⟩
    have whole : registry.list w =
        ⟨(registry.list w).reply, (registry.list w).lines, (registry.list w).world⟩ := rfl
    rw [whole, reply, left]
    rfl

section
variable (scripted : registry.Scripted ledger fair)
include scripted

theorem toldSteps (s : Submission) {w : σ} (begins : fair w) :
    ledger (registry.told s w).2 = ledger w ∨
      ledger (registry.told s w).2 = ((ledger w).submit s).2 := by
  cases s with
  | chain r => exact scripted.early (.chain r) w begins nofun
  | asset r => exact scripted.early (.asset r) w begins nofun
  | deployment r => exact .inr (scripted.deployment r w begins).2

theorem toldEnters (items : List Item) {w : σ} (begins : fair w) :
    fair (after registry.told w items) ∧ ∃ entered,
      (ledger w).Entered (ledger (after registry.told w items)) (Item.word items) entered := by
  have step : ∀ item ∈ items, ∀ s, item.work = .ok s → ∀ v,
      (fair v ∧ ∃ entered, (ledger w).Entered (ledger v) (Item.word items) entered) →
      fair (registry.told s v).2 ∧
        ∃ entered, (ledger w).Entered (ledger (registry.told s v).2) (Item.word items) entered := by
    rintro item inside s work v ⟨goes, _, so⟩
    have call : Call.submit s ∈ Item.word items := by
      refine List.mem_flatMap.mpr ⟨item, inside, ?_⟩
      simp [Item.call?, work, Except.toOption]
    exact ⟨scripted.stays s v goes, Ledger.enteredNext so call (toldSteps scripted s goes)⟩
  exact afterKept registry.told step ⟨begins, [], (List.append_nil _).symm, by simp⟩

theorem toldElsewhere {stage : Stage} {items : List Item} (other : stage ≠ .assets)
    (belong : ∀ item ∈ items, item.Belongs stage) {w : σ} (begins : fair w) :
    (ledger (after registry.told w items)).assets = (ledger w).assets := by
  obtain ⟨_, entered, grown, called⟩ := toldEnters scripted items begins
  cases entered with
  | nil => rw [grown, List.append_nil]
  | cons a rest =>
    obtain ⟨r, call, _⟩ := called a List.mem_cons_self
    obtain ⟨item, inside, asked⟩ := List.mem_flatMap.mp call
    obtain ⟨s, work, same⟩ := Item.callSubmits (Option.mem_toList.mp asked)
    cases same
    exact absurd (belong item inside _ work).symm other

theorem toldDeployment (index : Index) (d : Deployment) {w : σ} (begins : fair w) :
    ((d.item index).deal registry.told w).1.isFailed = (index.resolve d.assetSymbol).isNone ∧
    (index.resolve d.assetSymbol = none →
      ((d.item index).deal registry.told w).1 = .failed assetNotFound) := by
  cases found : index.resolve d.assetSymbol with
  | none => simp [Item.deal, Deployment.item, found, Verdict.isFailed]
  | some id =>
    have reply := (scripted.deployment (d.request id) w begins).1
    have verdict : ((ledger w).submit (.deployment (d.request id))).1.verdict.isFailed = false := by
      cases present : (ledger w).holds (.deployment (d.request id)) with
      | true => rw [(Ledger.submitHeld present).1]; rfl
      | false => rw [(Ledger.submitFresh present).1]; rfl
    simp [Item.deal, Deployment.item, found, told, reply, Reply.answer, verdict]

end

end Registry

theorem Ledger.idOfNone {ledger : Ledger} {symbol : String} :
    ledger.idOf? symbol = none ↔ symbol ∉ ledger.assets.map (·.symbol) := by
  simp [idOf?]

def Call.deploys : Call → Bool
  | submit s => s.stage == .deployments
  | _ => false

theorem Item.wordDeploys {stage : Stage} {items : List Item}
    (belong : ∀ item ∈ items, item.Belongs stage) :
    ∀ call ∈ Item.word items, call.deploys = (stage == .deployments) := by
  intro call inside
  obtain ⟨item, member, asked⟩ := List.mem_flatMap.mp inside
  obtain ⟨s, work, rfl⟩ := Item.callSubmits (Option.mem_toList.mp asked)
  rw [Call.deploys, belong item member s work]

namespace Run

section
variable {registry : Registry σ} {ledger : σ → Ledger} {fair : σ → Prop} (records : Records)
  (scripted : registry.Scripted ledger fair) {world : σ} (begins : fair world)
include scripted begins

theorem toldChains : fair (afterChains registry.told records world) ∧
    (ledger (afterChains registry.told records world)).assets = (ledger world).assets :=
  ⟨(Registry.toldEnters scripted _ begins).1, Registry.toldElsewhere scripted (by decide)
    (Item.belongEach Chain.itemBelongs records.chains) begins⟩

theorem toldAssets : fair (afterAssets registry.told records world) ∧ ∃ entered,
    (ledger world).Entered (ledger (afterAssets registry.told records world))
      (Item.word (records.assets.map Asset.item)) entered := by
  obtain ⟨goes, same⟩ := toldChains records scripted begins
  obtain ⟨ends, entered, grown, called⟩ :=
    Registry.toldEnters scripted (records.assets.map Asset.item) goes
  exact ⟨ends, entered, same ▸ grown, called⟩

theorem toldLast :
    (ledger (afterDeployments registry.told (fun w => (ledger w).assets) records world)).assets =
      (ledger (afterAssets registry.told records world)).assets :=
  Registry.toldElsewhere scripted (by decide)
    (Item.belongEach (Deployment.itemBelongs _) records.deployments)
    (toldAssets records scripted begins).1

end

/-- Deployments go by what is registered when they are resolved: those whose symbol is not there
fail and cause no call, each other one is submitted for the first asset of its symbol. -/
theorem deploymentsFollowTheRegistry {registry : Registry σ} {ledger : σ → Ledger}
    {fair : σ → Prop} {source : Source σ} {records : Records}
    (scripted : registry.Scripted ledger fair) (holds : source.Holds records) (stamp : Stamp)
    {world : σ} (begins : fair world)
    (plain : ∀ m ∈ transcript source registry .never false world, m.Plain) :
    let run := seed stamp source registry .never false world
    let before := (ledger world).assets
    run.outcome.fatal = none ∧
    (reportsOf .deployments run.journal).length = records.deployments.length ∧
    ∃ entered, (ledger world).Entered (ledger run.world) (calls run.journal) entered ∧
      (∀ early d late, records.deployments = early ++ d :: late →
        ∃ verdict, (reportsOf .deployments run.journal)[early.length]? =
            some ⟨.deployments, d.assetSymbol ++ "@" ++ d.chainId, verdict⟩ ∧
          (verdict.isFailed = true ↔ d.assetSymbol ∉ before.map (·.symbol) ∧
            d.assetSymbol ∉ entered.map (·.symbol)) ∧
          (verdict.isFailed = true → verdict = .failed "asset not found by symbol")) ∧
      (calls run.journal).filter Call.deploys = records.deployments.filterMap fun d =>
        ((ledger run.world).idOf? d.assetSymbol).map fun id =>
          .submit (.deployment (d.request id)) := by
  intro run before
  have keeps : source.Keeps fair :=
    ⟨fun w goes => by rwa [(holds.chains w).2], fun w goes => by rwa [(holds.assets w).2],
      fun w goes => by rwa [(holds.deployments w).2]⟩
  -- No reply of this run tells the registry from a calm one, and a calm one makes a clean run.
  have steady := registry.calmSteady ledger
  obtain ⟨outcome, journal, left⟩ :=
    seedAgrees keeps (Registry.calmAgrees scripted) stamp begins plain
  obtain ⟨clean, ends⟩ := seedClean stamp holds steady world
  have told := cleanReports stamp holds steady world .deployments
  have asked := cleanCalls stamp holds steady world
  rw [outcome] at clean
  rw [left] at ends
  rw [journal] at told asked
  obtain ⟨goes, entered, grown, called⟩ := toldAssets records scripted begins
  have last := toldLast records scripted begins
  have listed (symbol : String) :
      (resolved registry.told (fun w => (ledger w).assets) records world).resolve symbol =
        (ledger run.world).idOf? symbol := by
    rw [resolved, Ledger.resolveListing, Ledger.idOf?, Ledger.idOf?, ends, last]
  -- Deployments enter no assets, so what was listed for them is what the run leaves.
  have all : (ledger run.world).assets = (ledger world).assets ++ entered := by
    rw [ends, last, grown]
  refine ⟨congrArg Outcome.fatal clean, ?_, entered, ⟨all, fun a inside => ?_⟩, ?_, ?_⟩
  · rw [told, reported, List.length_map, noted, verdictsLength, deploymentItems, List.length_map]
  · obtain ⟨r, call, same⟩ := called a inside
    refine ⟨r, ?_, same⟩
    rw [asked]
    exact List.mem_append_right _ (List.mem_append_left _ (List.mem_cons_of_mem _ call))
  · rintro early d late split
    let item := Deployment.item (resolved registry.told (fun w => (ledger w).assets) records world)
    have here := verdictAt registry.told (afterAssets registry.told records world)
      (early.map item) (late.map item) (item d)
    have met := (Registry.toldEnters scripted (early.map item) goes).1
    obtain ⟨fails, detail⟩ := Registry.toldDeployment scripted _ d met
    rw [listed] at fails detail
    refine ⟨_, ?_, ?_, fun failed => detail ?_⟩
    · rw [List.length_map] at here
      rw [told, reported, List.getElem?_map, noted, deploymentItems, split, List.map_append,
        List.map_cons, here]
      rfl
    · rw [fails, Option.isNone_iff_eq_none, Ledger.idOfNone, all, List.map_append, List.mem_append,
        not_or]
    · rw [fails] at failed
      exact Option.isNone_iff_eq_none.mp failed
  · have apart {stage : Stage} {items : List Item} (other : stage ≠ .deployments)
        (belong : ∀ item ∈ items, item.Belongs stage) :
        (Item.word items).filter Call.deploys = [] := by
      rw [List.filter_eq_nil_iff]
      intro call inside
      rw [Item.wordDeploys belong call inside]
      simpa using other
    have chains := apart (by decide) (Item.belongEach Chain.itemBelongs records.chains)
    have assets := apart (by decide) (Item.belongEach Asset.itemBelongs records.assets)
    have own := List.filter_eq_self.mpr
      (Item.wordDeploys (Item.belongEach (Deployment.itemBelongs
        (resolved registry.told (fun w => (ledger w).assets) records world)) records.deployments))
    rw [asked]
    simp only [List.filter_append, List.filter_cons, chains, assets, Call.deploys,
      Bool.false_eq_true, if_false, List.nil_append]
    rw [deploymentItems, own, ← deploymentCallsWord, deploymentCalls]
    simp only [listed]

end Run

namespace Script

def Early (state : State) : Prop :=
  ∀ rule ∈ state.rules, rule.kind = .create .chains ∨ rule.kind = .create .assets

theorem takeKinds (call : Call) (rules : List Rule) :
    (take call rules).2.map (·.kind) = rules.map (·.kind) := by
  induction rules with
  | nil => rfl
  | cons rule rest ih =>
    rw [take]
    split
    · rfl
    · exact congrArg (_ :: ·) ih

theorem takeOther {call : Call} {rules : List Rule} (none : ∀ rule ∈ rules, rule.kind ≠ kindOf call) :
    take call rules = (.none, rules) := by
  induction rules with
  | nil => rfl
  | cons rule rest ih =>
    have unfit : rule.fits call = false := by
      simp [Rule.fits, none rule List.mem_cons_self]
    rw [take, unfit, ih fun r inside => none r (List.mem_cons_of_mem _ inside)]
    rfl

theorem submitWorld (s : Submission) (state : State) :
    (registry.submit s state).world.rules = (take (.submit s) state.rules).2 ∧
    ((registry.submit s state).world.ledger = state.ledger ∨
      (registry.submit s state).world.ledger = (state.ledger.submit s).2) := by
  simp only [registry, exchange]
  cases taken : take (.submit s) state.rules with
  | mk act rules =>
    cases act with
    | none => exact ⟨rfl, .inr rfl⟩
    | some act =>
      cases act with
      | answer result => exact ⟨rfl, .inl rfl⟩
      | listing assets => exact ⟨rfl, .inr rfl⟩
      | error e => exact ⟨rfl, .inl rfl⟩
      | hang => exact ⟨rfl, .inl rfl⟩
      | cancelAfter => exact ⟨rfl, .inr rfl⟩

theorem registryScripted : registry.Scripted State.ledger Early where
  list state begins := by
    have other : ∀ rule ∈ state.rules, rule.kind ≠ kindOf .list := by
      intro rule inside
      rcases begins rule inside with kind | kind <;> rw [kind] <;> nofun
    simp only [registry, exchange, takeOther other]
    exact ⟨rfl, rfl⟩
  deployment r state begins := by
    have other : ∀ rule ∈ state.rules, rule.kind ≠ kindOf (.submit (.deployment r)) := by
      intro rule inside
      rcases begins rule inside with kind | kind <;> rw [kind] <;> nofun
    simp only [registry, exchange, takeOther other]
    exact ⟨rfl, rfl⟩
  early s state _ _ := (submitWorld s state).2
  stays s state begins := by
    intro rule inside
    rw [(submitWorld s state).1] at inside
    have kind := List.mem_map_of_mem (f := Rule.kind) inside
    rw [takeKinds] at kind
    obtain ⟨old, member, same⟩ := List.mem_map.mp kind
    rw [← same]
    exact begins old member

end Script

namespace Run

/- One call of the asset is told to have created it and has not; chains are out of reach. -/
def deceptiveScript : List Script.Rule :=
  [⟨.create .assets, some "ETH", none, .answer (.ok (.created (some "asset-9")))⟩,
   ⟨.create .chains, none, none, .answer (.ok (.failed ⟨.unavailable, "gateway"⟩))⟩]

theorem mixedRecordsResolved :
    let source : Source Script.State :=
      .ofRecords mixedRecords.chains mixedRecords.assets mixedRecords.deployments
    let world : Script.State := ⟨sampleLedger, deceptiveScript⟩
    let run := seed (sampleStamp "script") source Script.registry .never false world
    source.Holds mixedRecords ∧ Script.Early world ∧
    (∀ m ∈ transcript source Script.registry .never false world, m.Plain) ∧
    run.world.ledger = { sampleLedger with deployments := [("old-1", "base")] } ∧
    (reportsOf .assets run.journal).map (·.verdict) = [.created,
      .failed "asset symbol must not be empty (source id 'void')", .created] ∧
    (reportsOf .deployments run.journal).map (·.verdict) =
      [.failed assetNotFound, .created, .failed assetNotFound] ∧
    run.outcome.fatal = none := by
  intro source world run
  have holds : source.Holds mixedRecords := Source.ofRecordsHolds mixedRecords
  have early : Script.Early world := by
    unfold Script.Early
    decide
  have plain : ∀ m ∈ transcript source Script.registry .never false world, m.Plain := by
    decide +kernel
  have resolved := deploymentsFollowTheRegistry Script.registryScripted holds
    (sampleStamp "script") early plain
  exact ⟨holds, early, plain, by decide +kernel, by decide +kernel, by decide +kernel, resolved.1⟩

end Run
end RegistrySeeding
