import RegistrySeeding.Proofs.Client.Forecast
import RegistrySeeding.Proofs.Seed.CleanJournal
import RegistrySeeding.Proofs.Seed.EventStream

/-! The faults of a registry over a run. Whatever comes back for a create call is the affair of its
candidate, unless it counts as cancelled; so a run over records that can be loaded ends early at a
listing or by a cancelled answer and in no other way. -/
namespace RegistrySeeding
open Journal (events reports requests reportsOf reported)
variable {ω : Type}

def Event.report? : Event → Option Report
  | .item stage key verdict => some ⟨stage, key, verdict⟩
  | _ => none

theorem Journal.eventReports (journal : List Entry) :
    reports journal = (events journal).filterMap Event.report? := by
  rw [reports, events, List.filterMap_filterMap]
  congr 1
  funext entry
  cases entry with
  | line _ => rfl
  | call _ => rfl
  | event event => cases event <;> rfl

namespace Block

theorem openedReports (b : Block) :
    b.opened.filterMap Event.report? = reported b.stage b.noted := by
  change (b.noted.map fun n => Event.item b.stage n.1 n.2).filterMap Event.report? = _
  rw [List.filterMap_map]
  change b.noted.filterMap (some ∘ fun n => Report.mk b.stage n.1 n.2) = _
  rw [List.filterMap_eq_map]
  rfl

theorem closedReports (b : Block) :
    b.closed.filterMap Event.report? = reported b.stage b.noted := by
  rw [closed, List.filterMap_append, openedReports]
  exact List.append_nil _

theorem othersSilent {stage : Stage} {blocks : List Block} (others : stage ∉ blocks.map (·.stage)) :
    ((blocks.flatMap Block.closed).filterMap Event.report?).filter (·.stage == stage) = [] := by
  induction blocks with
  | nil => rfl
  | cons b rest ih =>
    rw [List.map_cons, List.mem_cons, not_or] at others
    rw [List.flatMap_cons, List.filterMap_append, List.filter_append, closedReports, ih others.2,
      Journal.reportedOther (Ne.symm others.1), List.append_nil]

theorem ownReports {blocks : List Block} {b : Block} (inside : b ∈ blocks)
    (apart : (blocks.map (·.stage)).Nodup) :
    ((blocks.flatMap Block.closed).filterMap Event.report?).filter (·.stage == b.stage) =
      reported b.stage b.noted := by
  induction blocks with
  | nil => cases inside
  | cons head rest ih =>
    rw [List.map_cons, List.nodup_cons] at apart
    rw [List.flatMap_cons, List.filterMap_append, List.filter_append, closedReports]
    rcases List.mem_cons.mp inside with rfl | later
    · rw [Journal.reportedOwn, othersSilent apart.1, List.append_nil]
    · have different : head.stage ≠ b.stage := fun same =>
        apart.1 (same ▸ List.mem_map_of_mem later)
      rw [Journal.reportedOther different, ih later apart.2, List.nil_append]

end Block

theorem Told.counted {candidates : Stage → List Item} {told : List Event} {tallies : List Tally}
    {fatal : Option Abort} {blocks : List Block} {cut : Option Block}
    (all : Told candidates told tallies fatal blocks cut)
    (apart : (blocks.map (·.stage) ++ cut.toList.map (·.stage)).Nodup) :
    ∀ t ∈ tallies, ∃ noted, t = Tally.ofVerdicts t.stage noted ∧
      (told.filterMap Event.report?).filter (·.stage == t.stage) = reported t.stage noted := by
  intro t inside
  rw [all.tallies] at inside
  obtain ⟨b, member, rfl⟩ := List.mem_map.mp inside
  have stage : b.tally.stage = b.stage := Tally.ofVerdictsStage _ _
  rw [stage]
  refine ⟨b.noted, rfl, ?_⟩
  obtain ⟨distinct, _, foreign⟩ := List.nodup_append.mp apart
  rw [all.events, List.filterMap_append, List.filter_append, Block.ownReports member distinct]
  cases cut with
  | none => exact List.append_nil _
  | some c =>
    have different : c.stage ≠ b.stage :=
      (foreign b.stage (List.mem_map_of_mem member) c.stage (List.mem_singleton_self _)).symm
    change _ ++ ((c.opened ++ []).filterMap Event.report?).filter _ = _
    rw [List.append_nil, Block.openedReports, Journal.reportedOther different, List.append_nil]

namespace Run
variable {σ : Type} (stamp : Stamp) (source : Source σ) (registry : Registry σ)
  (interrupts : Interrupts σ) (token : Bool) (world : σ)

theorem blocksApart {candidates : Stage → List Item} {told : List Event} {blocks : List Block}
    {cut : Option Block} (all : let run := seed stamp source registry interrupts token world
      Told candidates told run.outcome.stages run.outcome.fatal blocks cut) :
    (blocks.map (·.stage) ++ cut.toList.map (·.stage)).Nodup := by
  -- The stages of the outcome and then the one that was cut are those of a run that went so far.
  suffices inOrder : blocks.map (·.stage) ++ cut.toList.map (·.stage) <+: Stage.all from
    inOrder.sublist.nodup (by decide)
  rw [all.stages]
  cases cut with
  | some b =>
    obtain ⟨e, failed⟩ := (all.short b rfl).2.2.2
    rw [(seedKept stamp source registry interrupts token world failed).2]
    exact Step.completedBefore b.stage
  | none =>
    rw [Option.toList_none, List.map_nil, List.append_nil]
    cases failed : (seed stamp source registry interrupts token world).outcome.fatal with
    | none => exact (stagesReported stamp source registry interrupts token world).2 failed ▸
        List.prefix_rfl
    | some abort =>
      rw [(seedKept stamp source registry interrupts token world failed).2]
      exact abort.step.completedPrefix

theorem reportsCounted :
    let run := seed stamp source registry interrupts token world
    ∀ t ∈ run.outcome.stages, ∃ noted, t = Tally.ofVerdicts t.stage noted ∧
      reportsOf t.stage run.journal = reported t.stage noted := by
  intro run t inside
  obtain ⟨blocks, cut, told⟩ := seedTold stamp source registry interrupts token world
  obtain ⟨noted, counted, own⟩ :=
    told.counted (blocksApart stamp source registry interrupts token world told) t inside
  have spoken := seedEvents stamp source registry interrupts token world
  refine ⟨noted, counted, ?_⟩
  rw [reportsOf, Journal.eventReports, spoken, ← own, List.filterMap_cons_none rfl,
    List.filterMap_append]
  exact congrArg (List.filter _) (List.append_nil _)

end Run

namespace Client

section
variable (client : Client) (replies : Nat → Delivery)

/-- Why a listing fails: the pages go on beyond the limit, or there is a turn whose request fails or
is refused, whose answer cannot be read, or whose token is the one that was sent. -/
inductive ListingFault : Prop where
  | endless (leads : ∀ turn < client.settings.maxPages, LeadsOn (client.heard replies) turn)
  | failed {turn failure} (reached : client.Reached replies turn)
      (received : client.heard replies turn = .failed failure)
  | refused {turn status body} (reached : client.Reached replies turn)
      (received : client.heard replies turn = .response status body)
      (refused : succeeded status = false)
  | unreadable {turn status body fault} (reached : client.Reached replies turn)
      (received : client.heard replies turn = .response status body)
      (success : succeeded status = true) (unread : Page.record.codec.decode body = .error fault)
  | repeated {turn page} (reached : client.Reached replies turn)
      (shown : (client.heard replies turn).page? = some page) (more : page.nextPageToken ≠ "")
      (same : page.nextPageToken = tokenSent (client.heard replies) turn)

/-- The ways in which a run can be aborted, and the replies that it has taken by then: all up to the
last one of a listing that failed, or up to an answer that counts as cancelled. -/
inductive Fatal : Abort → Nat → Prop where
  | unlisted {first e} (fault : client.ListingFault fun later => replies (first + later))
      (closed : (client.listingFrom replies first).reply = .answered (.error e) false) :
      Fatal (.ofError .listAssets e) (first + (client.listingFrom replies first).world.length)
  | cancelled {stage last status body} (reply : replies last = .response status body)
      (refused : succeeded status = false) (code : (errorStatus status body).1 = .canceled) :
      Fatal (.ofError (.submitting stage) .cancelled) (last + 1)

end

variable {client : Client} {replies : Nat → Delivery}

theorem listingFails (whole : ∀ n, replies n ≠ .interrupted) {e : Error}
    (closed : (client.list (.playing replies) []).reply = .answered (.error e) false) :
    client.ListingFault replies := by
  rcases client.limitOrStop replies with leads | ⟨turn, reached, stops⟩
  · exact .endless leads
  cases received : client.heard replies turn with
  | interrupted =>
    exact absurd received (hearsWhole whole "ListAssets" turn)
  | failed failure => exact .failed reached received
  | response status body =>
    cases success : succeeded status with
    | false => exact .refused reached received success
    | true =>
      cases read : Page.record.codec.decode body with
      | error fault => exact .unreadable reached received success read
      | ok page =>
        have shown : (client.heard replies turn).page? = some page := by
          simp [received, Received.page?, success, read, Except.toOption]
        by_cases last : page.nextPageToken = ""
        · have listed := listEnds reached ⟨page, shown, last⟩
          rw [closed] at listed
          cases listed
        · refine .repeated reached shown last ?_
          exact Classical.byContradiction fun fresh => stops ⟨page, shown, last, fresh⟩

theorem verdictNone {received : Received} (none : received.verdict? = none)
    (whole : received ≠ .interrupted) : ∃ status body, received = .response status body ∧
      succeeded status = false ∧ (errorStatus status body).1 = .canceled := by
  cases received with
  | interrupted => exact absurd rfl whole
  | failed failure => cases none
  | response status body =>
    refine ⟨status, body, rfl, ?_⟩
    cases success : succeeded status with
    | true => simp [Received.verdict?, success] at none
    | false =>
      refine ⟨rfl, ?_⟩
      cases coded : errorStatus status body with
      | mk code message =>
        simp only [Received.verdict?, success, coded] at none
        cases code <;> first | rfl | cases none

theorem hearsResponse {method : String} {turn status : Nat} {body : String}
    (received : client.hears method replies turn = .response status body) :
    client.takes method = 1 ∧ replies turn = .response status body := by
  unfold hears at received
  unfold takes
  cases place : client.destination method with
  | error failure => simp [place] at received
  | ok place' =>
    simp only [place] at received
    cases delivered : replies turn with
    | response status' body' =>
      rw [delivered] at received
      cases received
      exact ⟨rfl, rfl⟩
    | lost loss => rw [delivered] at received; cases received
    | interrupted => rw [delivered] at received; cases received

end Client

def Forecast.Fails (f : Forecast) (why : Abort → Nat → Prop) : Prop :=
  ∀ abort, f.fatal = some abort → why abort f.turn

theorem Forecast.failsAndThen {first : Forecast} {next : Nat → Forecast} {why : Abort → Nat → Prop}
    (early : first.Fails why) (late : ∀ turn, (next turn).Fails why) :
    (first.andThen next).Fails why := by
  cases cut : first.fatal with
  | some abort =>
    rw [andThenCut cut]
    exact early
  | none =>
    rw [andThenOn cut]
    exact late first.turn

namespace Client
variable {client : Client} {replies : Nat → Delivery} (whole : ∀ n, replies n ≠ .interrupted)
include whole

theorem fateFails (stage : Stage) (item : Item) (turn : Nat) :
    (client.fate replies stage item turn).Fails (client.Fatal replies) := by
  intro abort failed
  unfold fate at failed ⊢
  cases work : item.work with
  | error reason => simp [work] at failed
  | ok s =>
    simp only [work] at failed ⊢
    cases judged : (client.hears (methodOf s.stage).1 replies turn).verdict? with
    | some verdict => simp [judged] at failed
    | none =>
      simp only [judged, Option.some.injEq] at failed ⊢
      obtain ⟨status, body, received, refused, code⟩ := verdictNone judged (hearsWhole whole _ turn)
      obtain ⟨one, reply⟩ := hearsResponse received
      rw [← failed, one]
      exact .cancelled reply refused code

theorem fatesFail (stage : Stage) (items : List Item) (turn : Nat) :
    (client.fates replies stage items turn).Fails (client.Fatal replies) := by
  induction items generalizing turn with
  | nil => exact nofun
  | cons item rest ih => exact Forecast.failsAndThen (fateFails whole stage item turn) ih

theorem listingFateFails (turn : Nat) :
    (client.listingFate replies turn).Fails (client.Fatal replies) := by
  intro abort failed
  obtain ⟨result, replied⟩ := listingAnswered client whole turn
  simp only [listingFate, replied] at failed
  cases result with
  | ok assets => cases failed
  | error e =>
    cases failed
    exact .unlisted (listingFails (fun later => whole (turn + later)) replied) replied

theorem forecastFails (source : Source ω) (world : ω) :
    (client.forecast replies source world).Fails (client.Fatal replies) := by
  refine Forecast.failsAndThen (fatesFail whole _ _ _) fun turn => ?_
  refine Forecast.failsAndThen (fatesFail whole _ _ _) fun turn => ?_
  exact Forecast.failsAndThen (listingFateFails whole turn) (fatesFail whole _ _)

end Client

def Call.isSubmission : Call → Bool
  | submit _ => true
  | _ => false

def Forecast.Takes (f : Forecast) (limit turn : Nat) : Prop :=
  ∃ pages ≤ f.requests.count .list * limit,
    f.turn = turn + f.requests.countP Call.isSubmission + pages

theorem Forecast.takesAndThen {first : Forecast} {next : Nat → Forecast} {limit turn : Nat}
    (early : first.Takes limit turn) (late : ∀ turn, (next turn).Takes limit turn) :
    (first.andThen next).Takes limit turn := by
  cases cut : first.fatal with
  | some abort =>
    rw [andThenCut cut]
    exact early
  | none =>
    obtain ⟨pages, few, taken⟩ := early
    obtain ⟨more, fewer, taken'⟩ := late first.turn
    rw [andThenOn cut]
    refine ⟨pages + more, ?_, ?_⟩
    · simp only [List.count_append, Nat.add_mul]
      omega
    · simp only [List.countP_append, taken']
      omega

namespace Client
variable {client : Client} (replies : Nat → Delivery)
  (there : ∀ method, (client.destination method).isOk)

section
include there

theorem takesOne (method : String) : client.takes method = 1 := by
  unfold takes
  cases place : client.destination method with
  | ok place' => rfl
  | error failure =>
    have led := there method
    rw [place] at led
    cases led

theorem fateTakes (stage : Stage) (item : Item) (turn : Nat) :
    (client.fate replies stage item turn).Takes client.settings.maxPages turn := by
  refine ⟨0, Nat.zero_le _, ?_⟩
  unfold fate
  cases item.work with
  | error reason => rfl
  | ok s =>
    dsimp only
    rw [takesOne there]
    cases (client.hears (methodOf s.stage).1 replies turn).verdict? <;> rfl

theorem fatesTake (stage : Stage) (items : List Item) (turn : Nat) :
    (client.fates replies stage items turn).Takes client.settings.maxPages turn := by
  induction items generalizing turn with
  | nil => exact ⟨0, Nat.zero_le _, rfl⟩
  | cons item rest ih => exact Forecast.takesAndThen (fateTakes replies there stage item turn) ih

omit there in
theorem listingLength : (client.list (.playing replies) []).world.length ≤
    client.settings.maxPages := by
  obtain ⟨taken, sent, reached⟩ := client.listSent replies
  have within : taken ≤ client.settings.maxPages := by
    cases taken with
    | zero => exact Nat.zero_le _
    | succ last => exact ((reached last).mp (Nat.lt_succ_self last)).1
  cases place : client.destination "ListAssets" with
  | error failure => simp [sent, askedNowhere place]
  | ok place' => simpa [sent, askedThere place] using within

omit there in
theorem listingTakes (turn : Nat) :
    (client.listingFate replies turn).Takes client.settings.maxPages turn := by
  refine ⟨(client.listingFrom replies turn).world.length, ?_, rfl⟩
  have one : (client.listingFate replies turn).requests.count .list = 1 := rfl
  rw [one, Nat.one_mul]
  exact listingLength fun later => replies (turn + later)

theorem forecastTakes (source : Source ω) (world : ω) :
    (client.forecast replies source world).Takes client.settings.maxPages 0 := by
  refine Forecast.takesAndThen (fatesTake replies there _ _ _) fun turn => ?_
  refine Forecast.takesAndThen (fatesTake replies there _ _ _) fun turn => ?_
  exact Forecast.takesAndThen (listingTakes replies turn) (fatesTake replies there _ _)

end

end Client

def Report.candidate (r : Report) : Stage × String := (r.stage, r.key)

def Forecast.Reports (f : Forecast) (candidates : List (Stage × String)) : Prop :=
  f.fatal = none → f.reports.map Report.candidate = candidates

theorem Forecast.reportsAndThen {first : Forecast} {next : Nat → Forecast}
    {early late : List (Stage × String)} (one : first.Reports early)
    (other : ∀ turn, (next turn).Reports late) : (first.andThen next).Reports (early ++ late) := by
  intro on
  cases cut : first.fatal with
  | some abort =>
    rw [andThenCut cut, cut] at on
    cases on
  | none =>
    rw [andThenOn cut] at on ⊢
    rw [List.map_append, one cut, other first.turn on]

namespace Client
variable (client : Client) (replies : Nat → Delivery)

theorem fateReports (stage : Stage) (item : Item) (turn : Nat) :
    (client.fate replies stage item turn).Reports [(stage, item.key)] := by
  intro on
  unfold fate at on ⊢
  cases work : item.work with
  | error reason => rfl
  | ok s =>
    simp only [work] at on ⊢
    cases judged : (client.hears (methodOf s.stage).1 replies turn).verdict? with
    | some verdict => rfl
    | none => simp [judged] at on

theorem fatesReport (stage : Stage) (items : List Item) (turn : Nat) :
    (client.fates replies stage items turn).Reports (items.map fun item => (stage, item.key)) := by
  induction items generalizing turn with
  | nil => exact fun _ => rfl
  | cons item rest ih =>
    exact Forecast.reportsAndThen (fateReports client replies stage item turn) ih

theorem recordsReport {α : Type} (stage : Stage) {item : α → Item} {key : α → String}
    (own : ∀ x, (item x).key = key x) (records : List α) (turn : Nat) :
    (client.fates replies stage (records.map item) turn).Reports
      (records.map fun x => (stage, key x)) := by
  have reported := fatesReport client replies stage (records.map item) turn
  simpa only [List.map_map, Function.comp_def, own] using reported

theorem forecastReports (source : Source ω) (world : ω) :
    let middle := (source.chains world).world
    let last := (source.assets middle).world
    (client.forecast replies source world).Reports
      ((source.chains world).reply.given.map (fun c => (.chains, c.key)) ++
        ((source.assets middle).reply.given.map (fun a => (.assets, a.key)) ++
          (source.deployments last).reply.given.map fun d => (.deployments, d.key))) := by
  intro middle last
  have silent (turn : Nat) : (client.listingFate replies turn).Reports [] := fun _ => rfl
  refine Forecast.reportsAndThen (recordsReport client replies .chains (fun _ => rfl) _ 0)
    fun turn => ?_
  refine Forecast.reportsAndThen (recordsReport client replies .assets (fun _ => rfl) _ turn)
    fun turn => ?_
  exact Forecast.reportsAndThen (silent turn)
    (recordsReport client replies .deployments (fun _ => rfl) _)

end Client

namespace Run

theorem seedGoes (stamp : Stamp) {client : Client} {source : Source ω} {replies : Nat → Delivery}
    (given : source.Succeeds) (whole : ∀ n, replies n ≠ .interrupted) (world : ω) :
    let run := seed stamp source.beside (client.registry (.playing replies)).beside .never false
      (world, [])
    let forecast := client.forecast replies source world
    requests run.journal = forecast.requests ∧ reports run.journal = forecast.reports ∧
    run.world.2.length = forecast.turn ∧ run.outcome.fatal = forecast.fatal ∧
    run.cancelled = false := by
  intro run forecast
  obtain ⟨token, asked, told, turn, result⟩ := stagesFit client whole given world
  obtain ⟨opening, closing, first, last, journal⟩ := seedJournal stamp source.beside
    (client.registry (.playing replies)).beside .never false (world, [])
  refine ⟨?_, ?_, turn, ?_, token⟩
  · rw [journal, Journal.requestsAppend, Journal.requestsAppend, asked, requests, requests,
      first.calls, last.calls]
    exact List.append_nil _
  · rw [journal, Journal.reportsAppend, Journal.reportsAppend, told, first.reports, last.reports]
    exact List.append_nil _
  · rw [seedFatal]
    cases cut : forecast.fatal with
    | none =>
      rw [cut] at result
      obtain ⟨tallies, came, _⟩ := result
      rw [came]
      rfl
    | some abort =>
      rw [cut] at result
      obtain ⟨left, failed, same⟩ := result
      rw [failed, ← same]
      rfl

/-- A run over records that can be loaded goes as the replies of the registry say, one for each
create call: whatever befalls a call is the one verdict on its candidate, and only a listing that
fails or an answer that counts as cancelled ends the run. -/
theorem faultsStayWithTheirItems (stamp : Stamp) (client : Client) {source : Source ω}
    {replies : Nat → Delivery} (given : source.Succeeds) (whole : ∀ n, replies n ≠ .interrupted)
    (world : ω) :
    let run := seed stamp source.beside (client.registry (.playing replies)).beside .never false
      (world, [])
    let forecast := client.forecast replies source world
    let middle := (source.chains world).world
    let last := (source.assets middle).world
    requests run.journal = forecast.requests ∧ reports run.journal = forecast.reports ∧
    run.world.2.length = forecast.turn ∧ run.outcome.fatal = forecast.fatal ∧
    run.cancelled = false ∧
    (∀ t ∈ run.outcome.stages, ∃ noted, t = Tally.ofVerdicts t.stage noted ∧
      reportsOf t.stage run.journal = reported t.stage noted) ∧
    (∀ abort, run.outcome.fatal = some abort →
      client.Fatal replies abort run.world.2.length) ∧
    (run.outcome.fatal = none → (reports run.journal).map Report.candidate =
      (source.chains world).reply.given.map (fun c => (.chains, c.key)) ++
        ((source.assets middle).reply.given.map (fun a => (.assets, a.key)) ++
          (source.deployments last).reply.given.map fun d => (.deployments, d.key))) ∧
    ((∀ method, (client.destination method).isOk) →
      ∃ pages ≤ (requests run.journal).count .list * client.settings.maxPages,
        run.world.2.length =
          (requests run.journal).countP Call.isSubmission + pages) := by
  intro run forecast middle last
  obtain ⟨asked, told, taken, fatal, token⟩ := seedGoes stamp given whole world
  refine ⟨asked, told, taken, fatal, token, reportsCounted _ _ _ _ _ _, ?aborted, ?finished,
    ?counted⟩
  case aborted =>
    rw [fatal, taken]
    exact Client.forecastFails whole source world
  case finished =>
    rw [fatal, told]
    exact client.forecastReports replies source world
  case counted =>
    intro there
    rw [asked, taken]
    obtain ⟨pages, few, count⟩ := Client.forecastTakes replies there source world
    exact ⟨pages, few, by rwa [Nat.zero_add] at count⟩

def faultyReplies : Nat → Delivery
  | 0 => .lost .unanswered
  | 1 => .response 409 ""
  | 2 => .response 201 "unreadable"
  | 3 => .response 500 "\x7b\"message\": \"full\"\x7d"
  | 4 =>
    .response 200 ("\x7b\"assets\": [\x7b\"id\": \"a-1\", \"symbol\": \"ETH\"\x7d, " ++
      "\x7b\"id\": \"a-2\", \"symbol\": \"DAI\"\x7d]\x7d")
  | 5 => .lost .bodyNotInTime
  | _ => .response 400 "\x7b\"code\": \"canceled\"\x7d"

theorem faultyWhole (n : Nat) : faultyReplies n ≠ .interrupted := by
  unfold faultyReplies
  split <;> exact nofun

theorem recordsSucceed (records : Records) : Source.Succeeds
    (.ofRecords records.chains records.assets records.deployments : Source ω) where
  chains _ := ⟨_, rfl⟩
  assets _ := ⟨_, rfl⟩
  deployments _ := ⟨_, rfl⟩

theorem faultyRunCancelled :
    let source : Source Unit :=
      .ofRecords mixedRecords.chains mixedRecords.assets mixedRecords.deployments
    let client : Client := ⟨"http://[::1]:8080", none, {}, .basic⟩
    let abort : Abort := ⟨.submitDeployments, "Operation cancelled", true⟩
    let run := seed (sampleStamp "faulty") source.beside
      (client.registry (.playing faultyReplies)).beside .never false ((), [])
    source.Succeeds ∧ (∀ n, faultyReplies n ≠ .interrupted) ∧
    (reports run.journal).map (fun r => (r.verdict.isFailed, r.verdict.isDuplicate)) =
      [(true, false), (false, true), (false, false), (true, false), (true, false), (true, false)] ∧
    run.world.2.length = 7 ∧ run.outcome.fatal = some abort ∧
    client.Fatal faultyReplies abort 7 := by
  intro source client abort run
  have given : source.Succeeds := recordsSucceed mixedRecords
  obtain ⟨_, told, taken, fatal, _, _, aborted, _⟩ :=
    faultsStayWithTheirItems (sampleStamp "faulty") client given faultyWhole ()
  have seven : run.world.2.length = 7 := taken.trans (by decide +kernel)
  have cancelled : run.outcome.fatal = some abort := fatal.trans (by decide +kernel)
  have verdicts : (reports run.journal).map (fun r => (r.verdict.isFailed, r.verdict.isDuplicate)) =
      [(true, false), (false, true), (false, false), (true, false), (true, false),
        (true, false)] := by
    rw [told]
    decide +kernel
  exact ⟨given, faultyWhole, verdicts, seven, cancelled, seven ▸ aborted abort cancelled⟩

end Run
end RegistrySeeding
