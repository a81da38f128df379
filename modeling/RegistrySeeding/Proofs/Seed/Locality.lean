import RegistrySeeding.Proofs.Seed.Course

/-! Which step things belong to. The journal of a piece of work names the calls of its transcript
and no others, and neither its calls nor its reports are those of another step. -/
namespace RegistrySeeding

def Step.submitting : Stage → Step
  | .chains => .submitChains
  | .assets => .submitAssets
  | .deployments => .submitDeployments

def Call.step : Call → Step
  | load .chains => .loadChains
  | load .assets => .loadAssets
  | load .deployments => .loadDeployments
  | submit s => .submitting s.stage
  | list => .listAssets

def Moment.Gives {α : Type} (call : Call) (given : Moment → List α) : Prop :=
  ∀ m : Moment, m.call? ≠ some call → given m = []

namespace Moment

theorem givesChains : Gives (.load .chains) chainsGiven := by
  intro m other
  cases m with
  | chains reply => exact absurd rfl other
  | _ => rfl

theorem givesAssets : Gives (.load .assets) assetsGiven := by
  intro m other
  cases m with
  | assets reply => exact absurd rfl other
  | _ => rfl

theorem givesDeployments : Gives (.load .deployments) deploymentsGiven := by
  intro m other
  cases m with
  | deployments reply => exact absurd rfl other
  | _ => rfl

theorem givesListing : Gives .list listingGiven := by
  intro m other
  cases m with
  | listing reply => exact absurd rfl other
  | _ => rfl

end Moment

theorem Transcript.givenNone {α : Type} {call : Call} {given : Moment → List α} {t : Transcript}
    (gives : Moment.Gives call given) (absent : call ∉ calls t) : t.flatMap given = [] := by
  rw [List.flatMap_eq_nil_iff]
  intro m inside
  apply gives m
  intro same
  exact absent (List.mem_filterMap.mpr ⟨m, inside, same⟩)

structure Local (steps : List Step) (journal : List Entry) (moments : Transcript) : Prop where
  calls : Journal.calls journal = Transcript.calls moments
  asked : ∀ c ∈ Transcript.calls moments, c.step ∈ steps
  reports : ∀ r ∈ Journal.reports journal, Step.submitting r.stage ∈ steps

namespace Local
variable {steps : List Step}

theorem nil : Local steps [] [] := ⟨rfl, nofun, nofun⟩

theorem append {early late : List Entry} {before after : Transcript}
    (first : Local steps early before) (second : Local steps late after) :
    Local steps (early ++ late) (before ++ after) := by
  refine ⟨?_, ?_, ?_⟩
  · rw [Journal.callsAppend, Transcript.callsAppend, first.calls, second.calls]
  · rw [Transcript.callsAppend]
    intro c inside
    exact (List.mem_append.mp inside).elim (first.asked c) (second.asked c)
  · rw [Journal.reportsAppend]
    intro r inside
    exact (List.mem_append.mp inside).elim (first.reports r) (second.reports r)

theorem widen {more : List Step} {journal : List Entry} {moments : Transcript}
    (within : ∀ s ∈ steps, s ∈ more) (inside : Local steps journal moments) :
    Local more journal moments :=
  ⟨inside.calls, fun c one => within _ (inside.asked c one),
    fun r one => within _ (inside.reports r one)⟩

theorem both {more : List Step} {early late : List Entry} {before after : Transcript}
    (first : Local steps early before) (second : Local more late after) :
    Local (steps ++ more) (early ++ late) (before ++ after) :=
  (first.widen fun _ => List.mem_append_left _).append
    (second.widen fun _ => List.mem_append_right _)

theorem apart {more : List Step} {early late : List Entry} {before after : Transcript}
    (first : Local steps early before) (second : Local more late after)
    (disjoint : ∀ s ∈ more, s ∉ steps) :
    ∀ s reply, Moment.submission s reply ∈ after → Journal.keys s.stage early = [] := by
  intro s reply inside
  have late := second.asked (.submit s) (List.mem_filterMap.mpr ⟨_, inside, rfl⟩)
  refine List.map_eq_nil_iff.mpr (List.filter_eq_nil_iff.mpr fun r member same => ?_)
  have early := first.reports r member
  rw [beq_iff_eq.mp same] at early
  exact disjoint _ late early

theorem foreign {α : Type} {call : Call} {given : Moment → List α} {journal : List Entry}
    {moments : Transcript} (inside : Local steps journal moments) (gives : Moment.Gives call given)
    (other : call.step ∉ steps) : moments.flatMap given = [] :=
  Transcript.givenNone gives fun asked => other (inside.asked call asked)

theorem absent (call : Call) {m : Moment} {journal : List Entry} {moments : Transcript}
    (inside : Local steps journal moments) (asks : m.call? = some call)
    (other : call.step ∉ steps) : m ∉ moments :=
  fun member => other (inside.asked call (List.mem_filterMap.mpr ⟨m, member, asks⟩))

theorem quiet {journal : List Entry} (calls : Journal.calls journal = [])
    (reports : Journal.reports journal = []) : Local steps journal [] := by
  refine ⟨calls, nofun, ?_⟩
  rw [reports]
  exact nofun

theorem stopped {token : Bool} {moments : Transcript} (stop : Course.Stopped token moments) :
    Local steps [] moments := by
  cases stop with
  | before => exact nil
  | now => exact ⟨rfl, nofun, nofun⟩

theorem fetched {α β : Type} {call : Call} {moment : Reply α → Moment} {value : α → β}
    {token : Bool} {account : Account Error β} (asks : ∀ reply, (moment reply).call? = some call)
    (member : call.step ∈ steps) (went : Course.Fetched call moment value token account) :
    Local steps account.journal account.moments := by
  have one (lines : List Line) (reply : Reply α) :
      Local steps (.call call :: lines.map .line) [moment reply] := by
    have called : Transcript.calls [moment reply] = [call] := by
      simp [Transcript.calls, asks]
    refine ⟨?_, ?_, ?_⟩
    · rw [Journal.callsCall, Journal.callsLines, called]
    · rw [called]
      intro c inside
      rw [List.mem_singleton.mp inside]
      exact member
    · change ∀ r ∈ Journal.reports (lines.map .line), _
      rw [(Journal.silentLines lines).reports]
      exact nofun
  cases went with
  | abandoned _ lines => exact one lines _
  | refused _ e requested lines => exact one lines _
  | gave _ x requested lines => exact one lines _

theorem told (stage : Stage) (key : String) (verdict : Verdict)
    (member : Step.submitting stage ∈ steps) :
    Local steps (Course.told stage key verdict) [] := by
  refine ⟨rfl, nofun, ?_⟩
  intro r inside
  rw [List.mem_singleton.mp (show r ∈ [⟨stage, key, verdict⟩] from inside)]
  exact member

end Local

def Item.Belongs (stage : Stage) (item : Item) : Prop := ∀ s, item.work = .ok s → s.stage = stage

theorem Item.belongEach {α : Type} {stage : Stage} {item : α → Item}
    (each : ∀ x, (item x).Belongs stage) (records : List α) :
    ∀ i ∈ records.map item, i.Belongs stage := by
  intro i inside
  obtain ⟨x, _, rfl⟩ := List.mem_map.mp inside
  exact each x

theorem Chain.itemBelongs (c : Chain) : c.item.Belongs .chains := by
  intro s work
  cases work
  rfl

theorem Asset.itemBelongs (a : Asset) : a.item.Belongs .assets := by
  intro s work
  unfold Asset.item at work
  cases request : a.request with
  | error reason => rw [request] at work; nomatch work
  | ok r => rw [request] at work; cases work; rfl

theorem Deployment.itemBelongs (index : Index) (d : Deployment) :
    (d.item index).Belongs .deployments := by
  intro s work
  unfold Deployment.item at work
  cases found : index.resolve d.assetSymbol with
  | none => simp [found] at work
  | some id => simp only [found] at work; cases work; rfl

namespace Course
variable {stage : Stage} {token : Bool}

theorem guardedLocal {α : Type} {steps : List Step} {inner : Course Error α}
    {account : Account Error α} (went : Guarded inner token account)
    (each : ∀ token account, inner token account → Local steps account.journal account.moments) :
    Local steps account.journal account.moments := by
  cases went with
  | barred stopped => exact .stopped stopped
  | begun went => exact each _ _ went

theorem atStepLocal {α : Type} {steps : List Step} {step : Step} {inner : Course Error α}
    {account : Account Abort α} (went : AtStep step inner token account)
    (each : ∀ token account, inner token account → Local steps account.journal account.moments) :
    Local steps account.journal account.moments := by
  cases went with
  | failed went => exact guardedLocal went each
  | came went => exact guardedLocal went each

theorem judgedLocal {item : Item} {account : Account Error Verdict} (belongs : item.Belongs stage)
    (went : Judged item token account) :
    Local [Step.submitting stage] account.journal account.moments := by
  cases went with
  | locally => exact .nil
  | @remotely s _ _ work went =>
    refine .fetched (fun _ => rfl) ?_ went
    rw [Call.step, belongs s work]
    exact List.mem_singleton_self _

theorem submittedLocal {items : List Item} {tally : Tally} {account : Account Error Tally}
    (own : tally.stage = stage) (belong : ∀ item ∈ items, item.Belongs stage)
    (went : Submitted items tally token account) :
    Local [Step.submitting stage] account.journal account.moments := by
  have line (l : Line) : Local [Step.submitting stage] [.line l] [] := .quiet rfl rfl
  induction went with
  | done => exact .nil
  | cut failed =>
    exact .append (line _)
      (guardedLocal failed fun _ _ => judgedLocal (belong _ List.mem_cons_self))
  | @on item _ tally _ verdict _ _ _ _ _ _ _ came later ih =>
    have head := guardedLocal came fun _ _ => judgedLocal (belong _ List.mem_cons_self)
    have tail := ih ((tally.noteStage _ _).trans own) fun i inside =>
      belong i (List.mem_cons_of_mem _ inside)
    have report : Local [Step.submitting stage] (told tally.stage item.key verdict) [] :=
      .told _ _ _ (by rw [own]; exact List.mem_singleton_self _)
    exact .append (.append (line _) head) (.append report tail)

theorem seededLocal (stage : Stage) {items : List Item} {account : Account Error Tally}
    (belong : ∀ item ∈ items, item.Belongs stage) (went : Seeded stage items token account) :
    Local [Step.submitting stage] account.journal account.moments := by
  have opening : Local [Step.submitting stage] (opened stage items.length) [] := .quiet rfl rfl
  cases went with
  | cut failed => exact .append opening (submittedLocal rfl belong failed)
  | @complete _ tally _ _ moments went =>
    have body := submittedLocal rfl belong went
    have closing : Local [Step.submitting stage] (closed tally) [] := .quiet rfl rfl
    have whole := opening.append (body.append closing)
    rwa [List.append_nil, List.nil_append] at whole

theorem boundLocal {ε α β : Type} {steps more : List Step} {first : Course ε α}
    {next : α → Course ε β} {account : Account ε β} (went : Bound first next token account)
    (one : ∀ token account, first token account → Local steps account.journal account.moments)
    (other : ∀ x token account, next x token account → Local more account.journal account.moments) :
    Local (steps ++ more) account.journal account.moments := by
  cases went with
  | cut failed => exact (one _ _ failed).widen fun _ => List.mem_append_left _
  | on came later => exact (one _ _ came).both (other _ _ _ later)

theorem fetchLocal {α β : Type} (call : Call) {moment : Reply α → Moment} {value : α → β}
    {account : Account Abort β} (asks : ∀ reply, (moment reply).call? = some call)
    (went : AtStep call.step (Fetched call moment value) token account) :
    Local [call.step] account.journal account.moments :=
  atStepLocal went fun _ _ => .fetched asks (List.mem_singleton_self _)

theorem stageLocal {α : Type} {moment : Reply (List α) → Moment} {item : α → Item}
    {account : Account Abort Tally} (asks : ∀ reply, (moment reply).call? = some (.load stage))
    (belong : ∀ x, (item x).Belongs stage)
    (went : Bound (AtStep (Call.load stage).step (Fetched (.load stage) moment id))
      (fun records => AtStep (.submitting stage) (Seeded stage (records.map item))) token account) :
    Local [(Call.load stage).step, .submitting stage] account.journal account.moments :=
  boundLocal went (fun _ _ => fetchLocal _ asks) fun records _ _ submit =>
    atStepLocal submit fun _ _ => seededLocal stage (Item.belongEach belong records)

theorem ofChainsLocal {account : Account Abort Tally} (went : OfChains token account) :
    Local [.loadChains, .submitChains] account.journal account.moments :=
  stageLocal (fun _ => rfl) Chain.itemBelongs went

theorem ofAssetsLocal {account : Account Abort Tally} (went : OfAssets token account) :
    Local [.loadAssets, .submitAssets] account.journal account.moments :=
  stageLocal (fun _ => rfl) Asset.itemBelongs went

theorem listedLocal {index : Index} {account : Account Abort Tally}
    (went : AfterListing index token account) :
    Local [.loadDeployments, .submitDeployments] account.journal account.moments :=
  stageLocal (fun _ => rfl) (Deployment.itemBelongs index) went

theorem ofDeploymentsLocal {account : Account Abort Tally} (went : OfDeployments token account) :
    Local [.listAssets, .loadDeployments, .submitDeployments] account.journal account.moments :=
  boundLocal went (fun _ _ => fetchLocal .list fun _ => rfl) fun _ _ _ => listedLocal

theorem givenByLoad {α : Type} {load submit : Step} {moment : Reply (List α) → Moment}
    {item : α → Item} {given : Moment → List α} {records : List α} {middle : Bool}
    {early : List Entry} {before : Transcript} {account : Account Abort Tally}
    (opens : ∀ reply, given (moment reply) = reply.given)
    (gives : Moment.Gives (.load stage) given) (belong : ∀ x, (item x).Belongs stage)
    (came : AtStep load (Fetched (.load stage) moment id) token
      ⟨.ok records, middle, early, before⟩)
    (later : AtStep submit (Seeded stage (records.map item)) middle account) :
    (before ++ account.moments).flatMap given = records := by
  obtain ⟨_, lines, rfl, _, rfl, rfl⟩ := fetchedValue came
  have inside := atStepLocal later fun _ _ => seededLocal stage (Item.belongEach belong _)
  have absent : (Call.load stage).step ∉ [Step.submitting stage] := by
    cases stage <;> decide
  rw [List.flatMap_append, inside.foreign gives absent, List.flatMap_singleton, opens,
    List.append_nil]
  rfl

theorem givenByListing {index : Index} {middle : Bool} {early : List Entry} {before : Transcript}
    {account : Account Abort Tally}
    (came : AtStep .listAssets (Fetched .list .listing fun listing => (Index.ofListing listing).1)
      token ⟨.ok index, middle, early, before⟩)
    (later : AfterListing index middle account) :
    Transcript.candidates (before ++ account.moments) .deployments =
      (account.moments.flatMap Moment.deploymentsGiven).map (Deployment.item index) := by
  obtain ⟨listing, lines, rfl, _, rfl, rfl⟩ := fetchedValue came
  have inside := listedLocal later
  have listed : Transcript.listing account.moments = [] :=
    inside.foreign Moment.givesListing (by decide)
  simp only [Transcript.candidates, Transcript.listingAppend, listed, List.append_nil]
  simp [Transcript.listing, Transcript.deployments, Moment.listingGiven, Moment.deploymentsGiven,
    Reply.given]

end Course

theorem Transcript.fallsIn {first second before after : Transcript} {m : Moment}
    (split : first ++ second = before ++ m :: after) :
    (∃ more, first = before ++ m :: more ∧ after = more ++ second) ∨
      ∃ more, before = first ++ more ∧ second = more ++ m :: after := by
  rcases List.append_eq_append_iff.mp split with ⟨more, same, rest⟩ | ⟨more, same, rest⟩
  · exact .inr ⟨more, same, rest⟩
  · cases more with
    | nil => exact .inr ⟨[], by simpa using same.symm, rest.symm⟩
    | cons head tail =>
      obtain ⟨rfl, rfl⟩ := List.cons.inj rest
      exact .inl ⟨tail, same, rfl⟩

theorem Transcript.beyond {first second before after : Transcript} {m : Moment}
    (split : first ++ second = before ++ m :: after) (absent : m ∉ first) :
    ∃ more, before = first ++ more ∧ second = more ++ m :: after := by
  rcases fallsIn split with ⟨more, same, _⟩ | later
  · exact absurd (by simp [same]) absent
  · exact later

theorem Transcript.candidatesBelong (t : Transcript) (stage : Stage) :
    ∀ item ∈ t.candidates stage, item.Belongs stage := by
  cases stage with
  | chains => exact Item.belongEach Chain.itemBelongs _
  | assets => exact Item.belongEach Asset.itemBelongs _
  | deployments => exact Item.belongEach (Deployment.itemBelongs _) _

section
variable {first second third : Transcript} {early late last : List Entry}

theorem Transcript.candidatesOfParts (chains : Local [.loadChains, .submitChains] early first)
    (assets : Local [.loadAssets, .submitAssets] late second)
    (deployments : Local [.listAssets, .loadDeployments, .submitDeployments] last third)
    (stage : Stage) :
    candidates (first ++ (second ++ third)) stage =
      match stage with
      | .chains => candidates first .chains
      | .assets => candidates second .assets
      | .deployments => candidates third .deployments := by
  cases stage with
  | chains =>
    have none : Transcript.chains second = [] := assets.foreign Moment.givesChains (by decide)
    have none' : Transcript.chains third = [] := deployments.foreign Moment.givesChains (by decide)
    simp [candidates, none, none']
  | assets =>
    have none : Transcript.assets first = [] := chains.foreign Moment.givesAssets (by decide)
    have none' : Transcript.assets third = [] := deployments.foreign Moment.givesAssets (by decide)
    simp [candidates, none, none']
  | deployments =>
    have none : Transcript.deployments first = [] :=
      chains.foreign Moment.givesDeployments (by decide)
    have none' : Transcript.deployments second = [] :=
      assets.foreign Moment.givesDeployments (by decide)
    have unlisted : Transcript.listing first = [] := chains.foreign Moment.givesListing (by decide)
    have unlisted' : Transcript.listing second = [] :=
      assets.foreign Moment.givesListing (by decide)
    simp [candidates, none, none', unlisted, unlisted']

end
end RegistrySeeding
