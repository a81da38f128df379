import RegistrySeeding.Proofs.Seed.Journal
import RegistrySeeding.Proofs.Seed.Transcript

/-! The course a run can take. Each piece of work has an account: what came of it, what it told
and what happened to it meanwhile. The relations below list the accounts there are, whatever the
world; every run of the program has one of them. -/
namespace RegistrySeeding

structure Account (ε α : Type) where
  result : Except ε α
  cancelled : Bool
  journal : List Entry
  moments : Transcript

abbrev Course (ε α : Type) := Bool → Account ε α → Prop

namespace Course
variable {ε ε' α β : Type}

inductive Settled (x : α) : Course ε α where
  | mk (token : Bool) : Settled x token ⟨.ok x, token, [], []⟩

inductive Noted (entries : List Entry) : Course ε Unit where
  | mk (token : Bool) : Noted entries token ⟨.ok (), token, entries, []⟩

inductive Bound (first : Course ε α) (next : α → Course ε β) : Course ε β where
  | cut {token e left journal moments} (failed : first token ⟨.error e, left, journal, moments⟩) :
      Bound first next token ⟨.error e, left, journal, moments⟩
  | on {token x middle early before result left late after}
      (came : first token ⟨.ok x, middle, early, before⟩)
      (later : next x middle ⟨result, left, late, after⟩) :
      Bound first next token ⟨result, left, early ++ late, before ++ after⟩

inductive Renamed (f : ε → ε') (inner : Course ε α) : Course ε' α where
  | failed {token e left journal moments} (went : inner token ⟨.error e, left, journal, moments⟩) :
      Renamed f inner token ⟨.error (f e), left, journal, moments⟩
  | came {token x left journal moments} (went : inner token ⟨.ok x, left, journal, moments⟩) :
      Renamed f inner token ⟨.ok x, left, journal, moments⟩

inductive Stopped : Bool → Transcript → Prop where
  | before : Stopped true []
  | now (token : Bool) : Stopped token [.interrupt]

inductive Guarded (inner : Course Error α) : Course Error α where
  | barred {token moments} (stopped : Stopped token moments) :
      Guarded inner token ⟨.error .cancelled, true, [], moments⟩
  | begun {account} (went : inner false account) : Guarded inner false account

def AtStep (step : Step) (inner : Course Error α) : Course Abort α :=
  Renamed (Abort.ofError step) (Guarded inner)

inductive Fetched (call : Call) (moment : Reply α → Moment) (value : α → β) : Course Error β where
  | abandoned (token : Bool) (lines : List Line) :
      Fetched call moment value token
        ⟨.error .cancelled, true, .call call :: lines.map .line, [moment .abandoned]⟩
  | refused (token : Bool) (e : Error) (requested : Bool) (lines : List Line) :
      Fetched call moment value token
        ⟨.error e, token || requested, .call call :: lines.map .line,
          [moment (.answered (.error e) requested)]⟩
  | gave (token : Bool) (x : α) (requested : Bool) (lines : List Line) :
      Fetched call moment value token
        ⟨.ok (value x), token || requested, .call call :: lines.map .line,
          [moment (.answered (.ok x) requested)]⟩

inductive Judged (item : Item) : Course Error Verdict where
  | locally {reason} (work : item.work = .error reason) (token : Bool) :
      Judged item token ⟨.ok (.failed reason), token, [], []⟩
  | remotely {s token account} (work : item.work = .ok s)
      (went : Fetched (.submit s) (.submission s) Answer.verdict token account) :
      Judged item token account

def told (stage : Stage) (key : String) (verdict : Verdict) : List Entry :=
  [.line (stage.verdictLine key verdict), .event (.item stage key verdict)]

inductive Submitted : List Item → Tally → Course Error Tally where
  | done (tally : Tally) (token : Bool) : Submitted [] tally token ⟨.ok tally, token, [], []⟩
  | cut {item rest tally token e left journal moments}
      (failed : Guarded (Judged item) token ⟨.error e, left, journal, moments⟩) :
      Submitted (item :: rest) tally token
        ⟨.error e, left, .line (tally.stage.submitLine item.key) :: journal, moments⟩
  | on {item rest tally token verdict middle early before result left late after}
      (came : Guarded (Judged item) token ⟨.ok verdict, middle, early, before⟩)
      (later : Submitted rest (tally.note item.key verdict) middle ⟨result, left, late, after⟩) :
      Submitted (item :: rest) tally token
        ⟨result, left, .line (tally.stage.submitLine item.key) :: early ++
          (told tally.stage item.key verdict ++ late), before ++ after⟩

def opened (stage : Stage) (total : Nat) : List Entry :=
  [.line (stage.startLine total), .event (.stageStart stage total)]

def closed (tally : Tally) : List Entry :=
  [.line (Stage.completeLine tally), .event (.stageComplete tally)]

inductive Seeded (stage : Stage) (items : List Item) : Course Error Tally where
  | cut {token e left journal moments}
      (failed : Submitted items (Tally.empty stage) token ⟨.error e, left, journal, moments⟩) :
      Seeded stage items token ⟨.error e, left, opened stage items.length ++ journal, moments⟩
  | complete {token tally left journal moments}
      (went : Submitted items (Tally.empty stage) token ⟨.ok tally, left, journal, moments⟩) :
      Seeded stage items token
        ⟨.ok tally, left, opened stage items.length ++ (journal ++ closed tally), moments⟩

def OfChains : Course Abort Tally :=
  Bound (AtStep .loadChains (Fetched (.load .chains) .chains id)) fun records =>
    AtStep .submitChains (Seeded .chains (records.map Chain.item))

def OfAssets : Course Abort Tally :=
  Bound (AtStep .loadAssets (Fetched (.load .assets) .assets id)) fun records =>
    AtStep .submitAssets (Seeded .assets (records.map Asset.item))

def AfterListing (index : Index) : Course Abort Tally :=
  Bound (AtStep .loadDeployments (Fetched (.load .deployments) .deployments id)) fun records =>
    AtStep .submitDeployments (Seeded .deployments (records.map (Deployment.item index)))

def OfDeployments : Course Abort Tally :=
  Bound (AtStep .listAssets (Fetched .list .listing fun listing => (Index.ofListing listing).1))
    AfterListing

theorem fetchedValue {step : Step} {call : Call} {moment : Reply α → Moment} {value : α → β}
    {token left : Bool} {y : β} {journal : List Entry} {moments : Transcript}
    (came : AtStep step (Fetched call moment value) token ⟨.ok y, left, journal, moments⟩) :
    ∃ x, ∃ lines : List Line, y = value x ∧ token = false ∧
      journal = .call call :: lines.map .line ∧
      moments = [moment (.answered (.ok x) left)] := by
  cases came with | came went =>
  cases went with | begun went =>
  cases went with | gave _ x requested lines =>
  exact ⟨x, lines, rfl, rfl, rfl, rfl⟩

inductive OfStages : Course Run.Cut (List Tally) where
  | inChains {token fatal left journal moments}
      (failed : OfChains token ⟨.error fatal, left, journal, moments⟩) :
      OfStages token ⟨.error ⟨[], fatal⟩, left, journal, moments⟩
  | inAssets {token first middle early before fatal left journal moments}
      (chains : OfChains token ⟨.ok first, middle, early, before⟩)
      (failed : OfAssets middle ⟨.error fatal, left, journal, moments⟩) :
      OfStages token ⟨.error ⟨[first], fatal⟩, left, early ++ journal, before ++ moments⟩
  | inDeployments {token first middle early before second later late after fatal left journal
      moments}
      (chains : OfChains token ⟨.ok first, middle, early, before⟩)
      (assets : OfAssets middle ⟨.ok second, later, late, after⟩)
      (failed : OfDeployments later ⟨.error fatal, left, journal, moments⟩) :
      OfStages token
        ⟨.error ⟨[first, second], fatal⟩, left, early ++ (late ++ journal),
          before ++ (after ++ moments)⟩
  | complete {token first middle early before second later late after third left journal moments}
      (chains : OfChains token ⟨.ok first, middle, early, before⟩)
      (assets : OfAssets middle ⟨.ok second, later, late, after⟩)
      (deployments : OfDeployments later ⟨.ok third, left, journal, moments⟩) :
      OfStages token
        ⟨.ok [first, second, third], left, early ++ (late ++ journal), before ++ (after ++ moments)⟩

end Course

namespace Activity
variable {σ ε α β : Type}
open Course

def Follows (work : Activity (Recorded σ) ε α) (course : Course ε α) : Prop :=
  ∀ token r, ∃ moments, (work token r).world.transcript = r.transcript ++ moments ∧
    course token ⟨(work token r).result, (work token r).cancelled, (work token r).journal, moments⟩

theorem followsPure (x : α) : (pure x : Activity (Recorded σ) ε α).Follows (Settled x) :=
  fun token _ => ⟨[], (List.append_nil _).symm, .mk token⟩

theorem followsLog (line : Line) :
    (log line : Activity (Recorded σ) ε Unit).Follows (Noted [.line line]) :=
  fun token _ => ⟨[], (List.append_nil _).symm, .mk token⟩

theorem followsAnnounce (event : Event) :
    (announce event : Activity (Recorded σ) ε Unit).Follows (Noted [.event event]) :=
  fun token _ => ⟨[], (List.append_nil _).symm, .mk token⟩

theorem followsWeaken {work : Activity (Recorded σ) ε α} {course wider : Course ε α}
    (follows : work.Follows course)
    (within : ∀ token account, course token account → wider token account) :
    work.Follows wider := by
  intro token r
  obtain ⟨moments, grown, went⟩ := follows token r
  exact ⟨moments, grown, within _ _ went⟩

theorem followsBind {work : Activity (Recorded σ) ε α} {next : α → Activity (Recorded σ) ε β}
    {first : Course ε α} {second : α → Course ε β} (one : work.Follows first)
    (other : ∀ x, (next x).Follows (second x)) : (work >>= next).Follows (Bound first second) := by
  intro token r
  obtain ⟨before, grown, went⟩ := one token r
  change ∃ moments, (andThen work next token r).world.transcript = r.transcript ++ moments ∧
    Bound first second token ⟨(andThen work next token r).result,
      (andThen work next token r).cancelled, (andThen work next token r).journal, moments⟩
  unfold andThen
  cases came : (work token r).result with
  | error e =>
    rw [came] at went
    exact ⟨before, by simpa [came] using grown, by simpa [came] using Bound.cut went⟩
  | ok x =>
    rw [came] at went
    obtain ⟨after, later, last⟩ := other x (work token r).cancelled (work token r).world
    refine ⟨before ++ after, ?_, ?_⟩
    · simp only [came, later, grown, List.append_assoc]
    · simpa only [came] using Bound.on went last

theorem followsMapFailure {ε' : Type} {work : Activity (Recorded σ) ε α} {course : Course ε α}
    (f : ε → ε') (inner : work.Follows course) :
    (mapFailure f work).Follows (Renamed f course) := by
  intro token r
  obtain ⟨moments, grown, went⟩ := inner token r
  refine ⟨moments, grown, ?_⟩
  simp only [mapFailure]
  cases came : (work token r).result with
  | error e => rw [came] at went; exact .failed went
  | ok x => rw [came] at went; exact .came went

theorem followsUnlessCancelled {interrupts : Interrupts σ} {work : Activity (Recorded σ) Error α}
    {course : Course Error α} (inner : work.Follows course) :
    (unlessCancelled interrupts.recorded work).Follows (Guarded course) := by
  intro token r
  cases fires : (interrupts.check r.world).1 with
  | true =>
    refine ⟨[.interrupt], ?_, ?_⟩
    · simp [unlessCancelled, Interrupts.recorded, fires]
    · simpa [unlessCancelled, Interrupts.recorded, fires] using Guarded.barred (.now token)
  | false =>
    cases token with
    | true =>
      refine ⟨[], ?_, ?_⟩
      · simp [unlessCancelled, Interrupts.recorded, fires]
      · simpa [unlessCancelled, Interrupts.recorded, fires] using Guarded.barred .before
    | false =>
      obtain ⟨moments, grown, went⟩ := inner false ⟨(interrupts.check r.world).2, r.transcript⟩
      refine ⟨moments, ?_, ?_⟩
      · simpa [unlessCancelled, Interrupts.recorded, fires] using grown
      · simpa [unlessCancelled, Interrupts.recorded, fires] using Guarded.begun went

theorem followsAtStep {interrupts : Interrupts σ} {work : Activity (Recorded σ) Error α}
    {course : Course Error α} (step : Step) (inner : work.Follows course) :
    (atStep interrupts.recorded step work).Follows (AtStep step course) :=
  followsMapFailure _ (followsUnlessCancelled inner)

def Tells (work : Activity σ ε α) (x : α) : Prop :=
  ∀ token world, ∃ lines : List Line, work token world = ⟨.ok x, token, lines.map .line, world⟩

theorem tellsPure (x : α) : (pure x : Activity σ ε α).Tells x := fun _ _ => ⟨[], rfl⟩

theorem tellsLogAll {next : Activity σ ε α} {x : α} (lines : List Line) (later : next.Tells x) :
    (logAll lines >>= fun _ => next).Tells x := by
  intro token world
  obtain ⟨more, same⟩ := later token world
  refine ⟨lines ++ more, ?_⟩
  change andThen (logAll lines) (fun _ => next) token world = _
  simp only [andThen, logAll, same, List.map_append]

theorem tellsLog {next : Activity σ ε α} {x : α} (line : Line) (later : next.Tells x) :
    (log line >>= fun _ => next).Tells x :=
  tellsLogAll [line] later

theorem followsFetch (call : Call) (moment : Reply α → Moment) (exchange : σ → Exchange σ α)
    (value : α → β) {rest : α → Activity (Recorded σ) Error β}
    (tells : ∀ x, (rest x).Tells (value x)) :
    (perform call (Exchange.recorded moment exchange) >>= rest).Follows
      (Fetched call moment value) := by
  intro token r
  refine ⟨[moment (exchange r.world).reply], ?_⟩
  change
    (andThen (perform call (Exchange.recorded moment exchange)) rest token r).world.transcript =
      r.transcript ++ [moment (exchange r.world).reply] ∧
    Fetched call moment value token
      ⟨(andThen (perform call (Exchange.recorded moment exchange)) rest token r).result,
        (andThen (perform call (Exchange.recorded moment exchange)) rest token r).cancelled,
        (andThen (perform call (Exchange.recorded moment exchange)) rest token r).journal,
        [moment (exchange r.world).reply]⟩
  simp only [andThen, perform, Exchange.recorded]
  cases (exchange r.world).reply with
  | abandoned => exact ⟨rfl, .abandoned token _⟩
  | answered result requested =>
    cases result with
    | error e => exact ⟨rfl, .refused token e requested _⟩
    | ok x =>
      obtain ⟨lines, same⟩ := tells x (token || requested)
        ⟨(exchange r.world).world, r.transcript ++ [moment (.answered (.ok x) requested)]⟩
      simp only [same, true_and]
      rw [List.cons_append, ← List.map_append]
      exact .gave token x requested _

theorem followsCall (call : Call) (moment : Reply α → Moment) (exchange : σ → Exchange σ α) :
    (perform call (Exchange.recorded moment exchange)).Follows (Fetched call moment id) := by
  have through := followsFetch call moment exchange id fun x => tellsPure x
  rwa [bind_pure] at through

end Activity

section
variable {σ : Type} (source : Source σ) (registry : Registry σ) (interrupts : Interrupts σ)
open Activity Course

theorem judgeFollows (item : Item) :
    (Stage.judge registry.recorded item.work).Follows (Judged item) := by
  intro token r
  cases work : item.work with
  | error reason => exact ⟨[], (List.append_nil _).symm, .locally work token⟩
  | ok s =>
    have asked := followsFetch (.submit s) (.submission s) (registry.submit s) Answer.verdict
      fun answer => tellsPure _
    obtain ⟨moments, grown, went⟩ := asked token r
    exact ⟨moments, grown, .remotely work went⟩

theorem submitAllFollows (items : List Item) (tally : Tally) :
    (Stage.submitAll registry.recorded interrupts.recorded items tally).Follows
      (Submitted items tally) := by
  induction items generalizing tally with
  | nil => exact fun token _ => ⟨[], (List.append_nil _).symm, .done tally token⟩
  | cons item rest ih =>
    refine followsWeaken (followsBind (followsLog _) fun _ =>
      followsBind (followsUnlessCancelled (judgeFollows registry item)) fun verdict =>
        followsBind (followsLog _) fun _ => followsBind (followsAnnounce _) fun _ => ih _) ?_
    intro token account went
    cases went with
    | cut failed => nomatch failed
    | on opening went =>
      cases opening
      cases went with
      | cut failed => exact .cut failed
      | on judged went =>
        cases went with
        | cut failed => nomatch failed
        | on line went =>
          cases line
          cases went with
          | cut failed => nomatch failed
          | on event later =>
            cases event
            simpa [told] using Submitted.on judged later

theorem seedFollows (stage : Stage) (items : List Item) :
    (Stage.seed registry.recorded interrupts.recorded stage items).Follows
      (Seeded stage items) := by
  refine followsWeaken (followsBind (followsLog _) fun _ => followsBind (followsAnnounce _) fun _ =>
    followsBind (submitAllFollows registry interrupts items _) fun tally =>
      followsBind (followsLog _) fun _ => followsBind (followsAnnounce _) fun _ => followsPure _) ?_
  intro token account went
  cases went with
  | cut failed => nomatch failed
  | on line went =>
    cases line
    cases went with
    | cut failed => nomatch failed
    | on event went =>
      cases event
      cases went with
      | cut failed => exact .cut failed
      | on submitted went =>
        cases went with
        | cut failed => nomatch failed
        | on line went =>
          cases line
          cases went with
          | cut failed => nomatch failed
          | on event went =>
            cases event
            cases went
            simpa [opened, closed] using Seeded.complete submitted

theorem indexFollows :
    registry.recorded.index.Follows
      (Fetched .list .listing fun listing => (Index.ofListing listing).1) :=
  followsFetch .list .listing registry.list _ fun _ => tellsLogAll _ (tellsLog _ (tellsPure _))

theorem chainsFollow :
    (Run.chains source.recorded registry.recorded interrupts.recorded).Follows OfChains :=
  followsBind (followsAtStep _ (followsCall _ _ _)) fun _ => followsAtStep _ (seedFollows _ _ _ _)

theorem assetsFollow :
    (Run.assets source.recorded registry.recorded interrupts.recorded).Follows OfAssets :=
  followsBind (followsAtStep _ (followsCall _ _ _)) fun _ => followsAtStep _ (seedFollows _ _ _ _)

theorem deploymentsFollow :
    (Run.deployments source.recorded registry.recorded interrupts.recorded).Follows OfDeployments :=
  followsBind (followsAtStep _ (indexFollows _)) fun _ =>
    followsBind (followsAtStep _ (followsCall _ _ _)) fun _ => followsAtStep _ (seedFollows _ _ _ _)

theorem stagesFollow :
    (Run.stages source.recorded registry.recorded interrupts.recorded).Follows OfStages := by
  refine followsWeaken (followsBind (followsMapFailure _ (chainsFollow _ _ _)) fun first =>
    followsBind (followsMapFailure _ (assetsFollow _ _ _)) fun second =>
      followsBind (followsMapFailure _ (deploymentsFollow _ _ _)) fun third => followsPure _) ?_
  intro token account went
  cases went with
  | cut failed => cases failed with | failed chains => exact .inChains chains
  | on came went =>
    cases came with | came chains =>
    cases went with
    | cut failed => cases failed with | failed assets => exact .inAssets chains assets
    | on came went =>
      cases came with | came assets =>
      cases went with
      | cut failed =>
        cases failed with | failed deployments => exact .inDeployments chains assets deployments
      | on came went =>
        cases came with | came deployments =>
        cases went
        simpa using OfStages.complete chains assets deployments

end

theorem Run.stagesCourse {σ : Type} (source : Source σ) (registry : Registry σ)
    (interrupts : Interrupts σ) (token : Bool) (world : σ) :
    Course.OfStages token ⟨(stages source registry interrupts token world).result,
      (stages source registry interrupts token world).cancelled,
      (stages source registry interrupts token world).journal,
      transcript source registry interrupts token world⟩ := by
  obtain ⟨moments, grown, went⟩ := stagesFollow source registry interrupts token ⟨world, []⟩
  have same := recordedSimilar source registry interrupts token ⟨world, []⟩ world rfl
  have taken : transcript source registry interrupts token world = moments := grown
  rw [taken, ← same.result, ← same.cancelled, ← same.journal]
  exact went

end RegistrySeeding
