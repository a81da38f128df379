import RegistrySeeding.Proofs.Seed.Locality

/-! The order in which a run asks the registry. The records that its loads gave and the listing
it was answered spell a word of requests; whatever is answered and whenever it is cancelled, the
run asks by that word and stops somewhere in it, and a run that is not aborted asks all of it. -/
namespace RegistrySeeding

def Call.isRequest : Call → Bool
  | load _ => false
  | _ => true

def Transcript.Listed (t : Transcript) : Prop :=
  ∃ listing requested, Moment.listing (.answered (.ok listing) requested) ∈ t

def Journal.requests (journal : List Entry) : List Call := (calls journal).filter Call.isRequest

theorem Journal.requestsAppend (early late : List Entry) :
    requests (early ++ late) = requests early ++ requests late := by
  simp [requests]

def Item.call? (item : Item) : Option Call := item.work.toOption.map .submit

def Item.asks (s : Submission) (item : Item) : Bool := item.call? == some (.submit s)

def Item.word (items : List Item) : List Call := items.flatMap fun item => item.call?.toList

namespace Item

theorem callSubmits {item : Item} {call : Call} (found : item.call? = some call) :
    ∃ s, item.work = .ok s ∧ call = .submit s := by
  unfold call? at found
  cases work : item.work with
  | error reason => rw [work] at found; nomatch found
  | ok s => rw [work] at found; exact ⟨s, rfl, (Option.some.inj found).symm⟩

theorem wordCount (items : List Item) (call : Call) :
    (word items).count call = items.countP fun item => item.call? == some call := by
  induction items with
  | nil => rfl
  | cons item rest ih =>
    rw [word, List.flatMap_cons, List.count_append, ← word, ih, List.countP_cons, Nat.add_comm]
    cases found : item.call? with
    | none => rfl
    | some other => simp [List.count_cons]

theorem wordCountNone {items : List Item} {call : Call}
    (none : ∀ item ∈ items, ∀ s, item.work = .ok s → call ≠ .submit s) :
    (word items).count call = 0 := by
  rw [wordCount, List.countP_eq_zero]
  intro item inside found
  obtain ⟨s, work, same⟩ := callSubmits (beq_iff_eq.mp found)
  exact none item inside s work same

end Item

namespace Run

def chainCalls (records : List Chain) : List Call := records.map fun c => .submit (.chain c.request)

def assetCalls (records : List Asset) : List Call :=
  ((records.filter fun a => !Text.blank a.symbol).filterMap fun a => a.request.toOption).map
    fun r => .submit (.asset r)

def deploymentCalls (index : Index) (records : List Deployment) : List Call :=
  records.filterMap fun d =>
    (index.resolve d.assetSymbol).map fun id => .submit (.deployment (d.request id))

def word (t : Transcript) : List Call :=
  chainCalls t.chains ++ assetCalls t.assets ++ [.list] ++
    deploymentCalls (Index.ofListing t.listing).1 t.deployments

theorem chainCallsWord (records : List Chain) :
    chainCalls records = Item.word (records.map Chain.item) := by
  induction records with
  | nil => rfl
  | cons c rest ih => exact congrArg (_ :: ·) ih

theorem assetCallsWord (records : List Asset) :
    assetCalls records = Item.word (records.map Asset.item) := by
  unfold assetCalls Item.word
  induction records with
  | nil => rfl
  | cons a rest ih =>
    rw [List.map_cons, List.flatMap_cons, ← ih, List.filter_cons]
    cases blank : Text.blank a.symbol with
    | true => simp [Asset.item, Item.call?, Asset.request, blank, Except.map, Except.toOption]
    | false => simp [Asset.item, Item.call?, Asset.request, blank, Except.map, Except.toOption]

theorem deploymentCallsWord (index : Index) (records : List Deployment) :
    deploymentCalls index records = Item.word (records.map (Deployment.item index)) := by
  unfold deploymentCalls Item.word
  induction records with
  | nil => rfl
  | cons d rest ih =>
    rw [List.map_cons, List.flatMap_cons, ← ih]
    cases found : index.resolve d.assetSymbol with
    | none => simp [Deployment.item, Item.call?, found, Except.toOption]
    | some id => simp [Deployment.item, Item.call?, found, Except.toOption]

theorem wordOfCandidates (t : Transcript) :
    word t = Item.word (t.candidates .chains) ++ (Item.word (t.candidates .assets) ++
      .list :: Item.word (t.candidates .deployments)) := by
  simp [word, Transcript.candidates, chainCallsWord, assetCallsWord, deploymentCallsWord]

theorem wordCountSubmit (t : Transcript) (s : Submission) :
    (word t).count (.submit s) = (t.candidates s.stage).countP (·.asks s) := by
  have own (stage : Stage) : (Item.word (t.candidates stage)).count (.submit s) =
      (t.candidates stage).countP (·.asks s) := Item.wordCount _ _
  have other (stage : Stage) (different : s.stage ≠ stage) :
      (Item.word (t.candidates stage)).count (.submit s) = 0 := by
    refine Item.wordCountNone fun item inside s' work same => different ?_
    cases same
    exact t.candidatesBelong stage item inside s work
  have list : Call.list ≠ .submit s := by simp
  rw [wordOfCandidates, List.count_append, List.count_append, List.count_cons_of_ne list]
  cases s with
  | chain r => rw [other .assets nofun, other .deployments nofun, own]; rfl
  | asset r => rw [other .chains nofun, other .deployments nofun, own, Nat.zero_add]; rfl
  | deployment r =>
    rw [other .chains nofun, other .assets nofun, own, Nat.zero_add, Nat.zero_add]
    rfl

theorem wordCountList (t : Transcript) : (word t).count .list = 1 := by
  have none (stage : Stage) : (Item.word (t.candidates stage)).count .list = 0 :=
    Item.wordCountNone fun _ _ _ _ => nofun
  rw [wordOfCandidates, List.count_append, List.count_append, List.count_cons_self, none, none,
    none]

end Run

structure Account.Spells {ε α : Type} (word : List Call) (a : Account ε α) : Prop where
  begins : Journal.requests a.journal <+: word
  whole : ∀ x, a.result = .ok x → Journal.requests a.journal = word

namespace Course
variable {ε α β : Type} {token : Bool}
open Journal (requests requestsAppend)

theorem spellsGuarded {inner : Course Error α} {word : List Call} {account : Account Error α}
    (went : Guarded inner token account)
    (each : ∀ token account, inner token account → account.Spells word) : account.Spells word := by
  cases went with
  | barred stopped => exact ⟨List.nil_prefix, nofun⟩
  | begun went => exact each _ _ went

theorem spellsAtStep {step : Step} {inner : Course Error α} {word : List Call}
    {account : Account Abort α} (went : AtStep step inner token account)
    (each : ∀ token account, inner token account → account.Spells word) : account.Spells word := by
  cases went with
  | failed went => exact ⟨(spellsGuarded went each).begins, nofun⟩
  | came went => exact ⟨(spellsGuarded went each).begins, fun x same =>
      (spellsGuarded went each).whole x (congrArg Except.ok (Except.ok.inj same))⟩

theorem requestsCall (call : Call) (lines : List Line) :
    requests (.call call :: lines.map .line) = [call].filter Call.isRequest := by
  rw [requests, Journal.callsCall, Journal.callsLines]

theorem spellsFetched {call : Call} {moment : Reply α → Moment} {value : α → β}
    {account : Account Error β} (went : Fetched call moment value token account) :
    account.Spells ([call].filter Call.isRequest) := by
  have one (lines : List Line) :
      requests (.call call :: lines.map .line) <+: [call].filter Call.isRequest :=
    requestsCall call lines ▸ List.prefix_rfl
  cases went with
  | abandoned _ lines => exact ⟨one lines, nofun⟩
  | refused _ e requested lines => exact ⟨one lines, nofun⟩
  | gave _ x requested lines => exact ⟨one lines, fun _ _ => requestsCall call lines⟩

theorem spellsJudged {item : Item} {account : Account Error Verdict}
    (went : Judged item token account) : account.Spells item.call?.toList := by
  cases went with
  | locally work => simp only [Item.call?, work]; exact ⟨List.nil_prefix, fun _ _ => rfl⟩
  | remotely work went => simp only [Item.call?, work]; exact spellsFetched went

theorem spellsSubmitted {items : List Item} {tally : Tally} {account : Account Error Tally}
    (went : Submitted items tally token account) : account.Spells (Item.word items) := by
  induction went with
  | done => exact ⟨List.nil_prefix, fun _ _ => rfl⟩
  | cut failed =>
    have head := spellsGuarded failed fun _ _ => spellsJudged
    exact ⟨head.begins.trans (List.prefix_append _ _), nofun⟩
  | on came later ih =>
    have head := (spellsGuarded came fun _ _ => spellsJudged).whole _ rfl
    have split (line : Line) (report : Event) (more : Line) (early late : List Entry) :
        requests (.line line :: early ++ ([.line more, .event report] ++ late)) =
          requests early ++ requests late := by
      rw [List.cons_append]
      simp [requests]
    refine ⟨?_, fun x same => ?_⟩
    · simp only [told, split, head]
      exact List.prefix_append_right_inj _ |>.mpr ih.begins
    · simp only [told, split, head, ih.whole x same]
      rfl

theorem spellsSeeded {stage : Stage} {items : List Item} {account : Account Error Tally}
    (went : Seeded stage items token account) : account.Spells (Item.word items) := by
  cases went with
  | cut failed => exact ⟨(spellsSubmitted failed).begins, nofun⟩
  | complete went =>
    have same (journal : List Entry) (tally : Tally) :
        requests (opened stage items.length ++ (journal ++ closed tally)) = requests journal := by
      rw [requestsAppend, requestsAppend]
      exact List.append_nil _
    have whole := (spellsSubmitted went).whole _ rfl
    refine ⟨?_, fun _ _ => ?_⟩
    · rw [same]; exact (spellsSubmitted went).begins
    · rw [same]; exact whole

theorem spellsStage {stage : Stage} {load submit : Step} {moment : Reply (List α) → Moment}
    {item : α → Item} {given : Moment → List α} {account : Account Abort Tally}
    (opens : ∀ reply, given (moment reply) = reply.given)
    (gives : Moment.Gives (.load stage) given) (belong : ∀ x, (item x).Belongs stage)
    (went : Bound (AtStep load (Fetched (.load stage) moment id))
      (fun records => AtStep submit (Seeded stage (records.map item))) token account) :
    account.Spells (Item.word ((account.moments.flatMap given).map item)) := by
  cases went with
  | cut failed =>
    have none := (spellsAtStep failed fun _ _ => spellsFetched).begins
    exact ⟨none.trans List.nil_prefix, nofun⟩
  | on came later =>
    have word := givenByLoad opens gives belong came later
    have body := spellsAtStep later fun _ _ => spellsSeeded
    have nothing := (spellsAtStep came fun _ _ => spellsFetched).whole _ rfl
    refine ⟨?_, fun x same => ?_⟩
    · rw [word, requestsAppend, nothing]
      exact body.begins
    · rw [word, requestsAppend, nothing]
      exact body.whole x same

theorem spellsChains {account : Account Abort Tally} (went : OfChains token account) :
    account.Spells (Item.word (Transcript.candidates account.moments .chains)) :=
  spellsStage (fun _ => rfl) Moment.givesChains Chain.itemBelongs went

theorem spellsAssets {account : Account Abort Tally} (went : OfAssets token account) :
    account.Spells (Item.word (Transcript.candidates account.moments .assets)) :=
  spellsStage (fun _ => rfl) Moment.givesAssets Asset.itemBelongs went

theorem spellsDeployments {account : Account Abort Tally} (went : OfDeployments token account) :
    account.Spells (.list :: Item.word (Transcript.candidates account.moments .deployments)) := by
  cases went with
  | cut failed =>
    have one := spellsAtStep failed fun _ _ => spellsFetched
    exact ⟨one.begins.trans (List.prefix_append [Call.list] _), nofun⟩
  | on came later =>
    have word := givenByListing came later
    have body := spellsStage (fun _ => rfl) Moment.givesDeployments (Deployment.itemBelongs _) later
    have one := (spellsAtStep came fun _ _ => spellsFetched).whole _ rfl
    refine ⟨?_, fun x same => ?_⟩
    · rw [word, requestsAppend, one]
      exact List.prefix_append_right_inj [Call.list] |>.mpr body.begins
    · rw [word, requestsAppend, one]
      exact congrArg (Call.list :: ·) (body.whole x same)

theorem wordOfParts {first second third : Transcript} {early late last : List Entry}
    (chains : Local [.loadChains, .submitChains] early first)
    (assets : Local [.loadAssets, .submitAssets] late second)
    (deployments : Local [.listAssets, .loadDeployments, .submitDeployments] last third) :
    Run.word (first ++ (second ++ third)) = Item.word (first.candidates .chains) ++
      (Item.word (second.candidates .assets) ++
        .list :: Item.word (third.candidates .deployments)) := by
  rw [Run.wordOfCandidates]
  simp only [Transcript.candidatesOfParts chains assets deployments]

theorem spellsStages {account : Account Run.Cut (List Tally)} (went : OfStages token account) :
    account.Spells (Run.word account.moments) := by
  cases went with
  | inChains failed =>
    have word := wordOfParts (ofChainsLocal failed) .nil .nil
    rw [List.append_nil, List.append_nil] at word
    rw [word]
    exact ⟨(spellsChains failed).begins.trans (List.prefix_append _ _), nofun⟩
  | inAssets chains failed =>
    have word := wordOfParts (ofChainsLocal chains) (ofAssetsLocal failed) .nil
    rw [List.append_nil] at word
    rw [word]
    refine ⟨?_, nofun⟩
    rw [requestsAppend, (spellsChains chains).whole _ rfl]
    exact List.prefix_append_right_inj _ |>.mpr
      ((spellsAssets failed).begins.trans (List.prefix_append _ _))
  | inDeployments chains assets failed =>
    rw [wordOfParts (ofChainsLocal chains) (ofAssetsLocal assets) (ofDeploymentsLocal failed)]
    refine ⟨?_, nofun⟩
    rw [requestsAppend, requestsAppend, (spellsChains chains).whole _ rfl,
      (spellsAssets assets).whole _ rfl]
    exact List.prefix_append_right_inj _ |>.mpr
      (List.prefix_append_right_inj _ |>.mpr (spellsDeployments failed).begins)
  | @complete _ _ _ early before _ _ late after _ _ last moments chains assets deployments =>
    have all : requests (early ++ (late ++ last)) = Run.word (before ++ (after ++ moments)) := by
      rw [wordOfParts (ofChainsLocal chains) (ofAssetsLocal assets)
          (ofDeploymentsLocal deployments), requestsAppend, requestsAppend,
        (spellsChains chains).whole _ rfl, (spellsAssets assets).whole _ rfl,
        (spellsDeployments deployments).whole _ rfl]
    exact ⟨all ▸ List.prefix_rfl, fun _ _ => all⟩

theorem toldStages {account : Account Run.Cut (List Tally)} (went : OfStages token account) :
    Journal.calls account.journal = account.moments.calls := by
  cases went with
  | inChains failed => exact (ofChainsLocal failed).calls
  | inAssets chains failed => exact ((ofChainsLocal chains).both (ofAssetsLocal failed)).calls
  | inDeployments chains assets failed =>
    have later := (ofAssetsLocal assets).both (ofDeploymentsLocal failed)
    exact ((ofChainsLocal chains).both later).calls
  | complete chains assets deployments =>
    have later := (ofAssetsLocal assets).both (ofDeploymentsLocal deployments)
    exact ((ofChainsLocal chains).both later).calls

theorem listedFirst {account : Account Abort Tally} {before after : Transcript}
    {request : DeploymentRequest} {reply : Reply Answer} (went : OfDeployments token account)
    (split : account.moments = before ++ .submission (.deployment request) reply :: after) :
    before.Listed := by
  cases went with
  | cut failed =>
    have inside := fetchLocal .list (fun _ => rfl) failed
    have absent : Moment.submission (.deployment request) reply ∉ before ++ _ :: after :=
      split ▸ inside.absent (.submit (.deployment request)) rfl
        (show Step.submitDeployments ∉ [Step.listAssets] by decide)
    exact absurd (List.mem_append_right _ List.mem_cons_self) absent
  | @on _ _ requested _ _ _ _ _ rest came later =>
    obtain ⟨listing, lines, rfl, _, rfl, rfl⟩ := fetchedValue came
    obtain ⟨more, rfl, _⟩ := Transcript.beyond split (by simp)
    exact ⟨listing, requested, List.mem_append_left _ (List.mem_singleton_self _)⟩

theorem listedBefore {account : Account Run.Cut (List Tally)} {before after : Transcript}
    {request : DeploymentRequest} {reply : Reply Answer} (went : OfStages token account)
    (split : account.moments = before ++ .submission (.deployment request) reply :: after) :
    before.Listed := by
  have elsewhere {steps : List Step} {journal : List Entry} {moments : Transcript}
      (inside : Local steps journal moments) (other : Step.submitDeployments ∉ steps) :
      Moment.submission (.deployment request) reply ∉ moments :=
    inside.absent (.submit (.deployment request)) rfl other
  have later (first : Transcript) {rest : Transcript} :
      rest.Listed → Transcript.Listed (first ++ rest) :=
    fun ⟨listing, requested, inside⟩ => ⟨listing, requested, List.mem_append_right _ inside⟩
  have member : Moment.submission (.deployment request) reply ∈ account.moments := by
    rw [split]
    exact List.mem_append_right _ List.mem_cons_self
  cases went with
  | inChains failed => exact absurd member (elsewhere (ofChainsLocal failed) (by decide))
  | inAssets chains failed =>
    exact ((List.mem_append.mp member).elim (elsewhere (ofChainsLocal chains) (by decide))
      (elsewhere (ofAssetsLocal failed) (by decide))).elim
  | inDeployments chains assets failed =>
    obtain ⟨_, rfl, rest⟩ :=
      Transcript.beyond split (elsewhere (ofChainsLocal chains) (by decide))
    obtain ⟨_, rfl, last⟩ := Transcript.beyond rest (elsewhere (ofAssetsLocal assets) (by decide))
    exact later _ (later _ (listedFirst failed last))
  | complete chains assets deployments =>
    obtain ⟨_, rfl, rest⟩ :=
      Transcript.beyond split (elsewhere (ofChainsLocal chains) (by decide))
    obtain ⟨_, rfl, last⟩ := Transcript.beyond rest (elsewhere (ofAssetsLocal assets) (by decide))
    exact later _ (later _ (listedFirst deployments last))

end Course

namespace Run
variable {σ : Type}

/-- Every run asks by the word of its transcript: no candidate is submitted more often than it
occurs, assets are listed at most once and no deployment comes before the listing. -/
theorem requestsFollowTheWord (stamp : Stamp) (source : Source σ) (registry : Registry σ)
    (interrupts : Interrupts σ) (cancelled : Bool) (world : σ) :
    let run := seed stamp source registry interrupts cancelled world
    let t := transcript source registry interrupts cancelled world
    Journal.calls run.journal = t.calls ∧
    Journal.requests run.journal <+: word t ∧
    (run.outcome.fatal = none → Journal.requests run.journal = word t) ∧
    (∀ s, (Journal.requests run.journal).count (.submit s) ≤
      (t.candidates s.stage).countP (·.asks s)) ∧
    (Journal.requests run.journal).count .list ≤ 1 ∧
    ∀ (before after : Transcript) request reply,
      t = before ++ .submission (.deployment request) reply :: after → before.Listed := by
  have went := stagesCourse source registry interrupts cancelled world
  have spells := Course.spellsStages went
  have calls : Journal.calls (seed stamp source registry interrupts cancelled world).journal =
      Journal.calls (stages source registry interrupts cancelled world).journal := by
    simp [seed]
  have requests : Journal.requests (seed stamp source registry interrupts cancelled world).journal =
      Journal.requests (stages source registry interrupts cancelled world).journal := by
    rw [Journal.requests, calls]
    rfl
  have count (call : Call) := requests ▸ spells.begins.sublist.count_le call
  refine ⟨calls.trans (Course.toldStages went), requests ▸ spells.begins, ?_, ?_, ?_, ?_⟩
  · intro complete
    rw [requests]
    cases came : (stages source registry interrupts cancelled world).result with
    | error cut => simp [seed, came, outcomeOf] at complete
    | ok tallies => exact spells.whole tallies came
  · intro s
    rw [← wordCountSubmit]
    exact count _
  · rw [← wordCountList (transcript source registry interrupts cancelled world)]
    exact count _
  · intro before after request reply split
    exact Course.listedBefore went split

end Run
end RegistrySeeding
