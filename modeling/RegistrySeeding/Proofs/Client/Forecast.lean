import RegistrySeeding.Proofs.Client.Paging
import RegistrySeeding.Proofs.Seed.CallOrder
import RegistrySeeding.Proofs.Seed.Heeding
import RegistrySeeding.Proofs.Seed.Noninterference
import RegistrySeeding.Proofs.Seed.Trials

/-! What becomes of a run whose every reply is known beforehand. Each create call takes the next
reply and comes to a verdict by it; a listing takes as many as it asks for pages. Only an answer
that counts as cancelled ends a stage early, and only a failed listing keeps the deployments from
their turn. -/
namespace RegistrySeeding
open Activity
open Journal (reports requests)
variable {ω : Type}

namespace Client

def hears (client : Client) (method : String) (replies : Nat → Delivery) (turn : Nat) : Received :=
  match client.destination method with
  | .error failure => .failed failure
  | .ok (url, _) => .ofDelivery url (replies turn)

def takes (client : Client) (method : String) : Nat :=
  match client.destination method with
  | .error _ => 0
  | .ok _ => 1

def Received.verdict? : Received → Option Verdict
  | .interrupted => none
  | .failed failure => some (.failed failure.text)
  | .response status body =>
    if succeeded status then some .created
    else
      match errorStatus status body with
      | (.alreadyExists, _) => some .duplicate
      | (.canceled, _) => none
      | (code, message) => some (.failed (Failure.text ⟨code, message⟩))

end Client

structure Forecast where
  requests : List Call
  reports : List Report
  turn : Nat
  fatal : Option Abort

namespace Forecast

def idle (turn : Nat) : Forecast := ⟨[], [], turn, none⟩

def andThen (first : Forecast) (next : Nat → Forecast) : Forecast :=
  match first.fatal with
  | some _ => first
  | none =>
    let later := next first.turn
    ⟨first.requests ++ later.requests, first.reports ++ later.reports, later.turn, later.fatal⟩

theorem andThenCut {first : Forecast} {abort : Abort} (cut : first.fatal = some abort)
    (next : Nat → Forecast) : first.andThen next = first := by
  unfold andThen
  rw [cut]

theorem andThenOn {first : Forecast} (on : first.fatal = none) (next : Nat → Forecast) :
    first.andThen next =
      let later := next first.turn
      ⟨first.requests ++ later.requests, first.reports ++ later.reports, later.turn,
        later.fatal⟩ := by
  unfold andThen
  rw [on]

theorem idleAndThen (turn : Nat) (next : Nat → Forecast) : (idle turn).andThen next = next turn :=
  rfl

theorem andThenIdle (f : Forecast) : f.andThen idle = f := by
  cases f with
  | mk requests reports turn fatal =>
    cases fatal with
    | none => simp [andThen, idle]
    | some abort => rfl

end Forecast

namespace Client
variable (client : Client) (replies : Nat → Delivery)

def fate (stage : Stage) (item : Item) (turn : Nat) : Forecast :=
  match item.work with
  | .error reason => ⟨[], [⟨stage, item.key, .failed reason⟩], turn, none⟩
  | .ok s =>
    let method := (methodOf s.stage).1
    let after := turn + client.takes method
    match (client.hears method replies turn).verdict? with
    | some verdict => ⟨[.submit s], [⟨stage, item.key, verdict⟩], after, none⟩
    | none => ⟨[.submit s], [], after, some (.ofError (.submitting stage) .cancelled)⟩

def fates (stage : Stage) : List Item → Nat → Forecast
  | [], turn => .idle turn
  | item :: rest, turn => (client.fate replies stage item turn).andThen (fates stage rest)

def listingFrom (turn : Nat) : Exchange (List Request) (List RegisteredAsset) :=
  client.list (.playing fun later => replies (turn + later)) []

def listingFate (turn : Nat) : Forecast :=
  let listing := client.listingFrom replies turn
  ⟨[.list], [], turn + listing.world.length, listing.reply.error?.map (.ofError .listAssets)⟩

def forecast (source : Source ω) (world : ω) : Forecast :=
  let middle := (source.chains world).world
  let last := (source.assets middle).world
  let chains := (source.chains world).reply.given.map Chain.item
  let assets := (source.assets middle).reply.given.map Asset.item
  let deployments (listing : List RegisteredAsset) :=
    (source.deployments last).reply.given.map (Deployment.item (Index.ofListing listing).1)
  (client.fates replies .chains chains 0).andThen fun turn =>
    (client.fates replies .assets assets turn).andThen fun turn =>
      (client.listingFate replies turn).andThen
        (client.fates replies .deployments
          (deployments (client.listingFrom replies turn).reply.given))

end Client

section
variable {α β : Type} {f : α → β} {reply : Reply α} {cancelled : Bool}

theorem Reply.ofMapOk {y : β} (same : reply.map f = .answered (.ok y) cancelled) :
    ∃ x, reply = .answered (.ok x) cancelled ∧ f x = y := by
  cases reply with
  | abandoned => cases same
  | answered result requested =>
    cases result with
    | error e => cases same
    | ok x => cases same; exact ⟨x, rfl, rfl⟩

theorem Reply.ofMapError {e : Error} (same : reply.map f = .answered (.error e) cancelled) :
    reply = .answered (.error e) cancelled := by
  cases reply with
  | abandoned => cases same
  | answered result requested =>
    cases result with
    | error e => cases same; rfl
    | ok x => cases same

end

structure Source.Succeeds (source : Source ω) : Prop where
  chains (w : ω) : ∃ records, (source.chains w).reply = .answered (.ok records) false
  assets (w : ω) : ∃ records, (source.assets w).reply = .answered (.ok records) false
  deployments (w : ω) : ∃ records, (source.deployments w).reply = .answered (.ok records) false

namespace Client

theorem callAnswered (client : Client) (replies : Nat → Delivery) (method : String) (body : Json)
    (sent : List Request) :
    (client.call (.playing replies) method body sent).1 =
        client.hears method replies sent.length ∧
      (client.call (.playing replies) method body sent).2.length =
        sent.length + client.takes method := by
  unfold call hears takes
  cases client.destination method with
  | error failure => exact ⟨rfl, rfl⟩
  | ok place => exact ⟨rfl, List.length_append⟩

theorem judgeVerdict (recordName : String) {received : Received} (whole : received ≠ .interrupted) :
    (judge recordName received).1.map Answer.verdict =
      match received.verdict? with
      | some verdict => .answered (.ok verdict) false
      | none => .answered (.error .cancelled) false := by
  cases received with
  | interrupted => exact absurd rfl whole
  | failed failure => rfl
  | response status body =>
    cases good : succeeded status with
    | true => simp [Received.verdict?, good, judgeSucceeded good]
    | false =>
      cases coded : errorStatus status body with
      | mk code message =>
        simp only [judge, Received.verdict?, good, coded, Bool.false_eq_true, if_false]
        cases code <;> rfl

theorem hearsWhole {client : Client} {replies : Nat → Delivery}
    (whole : ∀ n, replies n ≠ .interrupted) (method : String) (turn : Nat) :
    client.hears method replies turn ≠ .interrupted := by
  unfold hears
  split
  · exact nofun
  · cases delivered : replies turn with
    | interrupted => exact absurd delivered (whole turn)
    | response status body => exact nofun
    | lost loss => exact nofun

theorem submitAnswered {client : Client} {replies : Nat → Delivery}
    (whole : ∀ n, replies n ≠ .interrupted) (s : Submission) (sent : List Request) :
    let x := client.submit (.playing replies) s sent
    let method := (methodOf s.stage).1
    x.world.length = sent.length + client.takes method ∧
      x.reply.map Answer.verdict =
        match (client.hears method replies sent.length).verdict? with
        | some verdict => .answered (.ok verdict) false
        | none => .answered (.error .cancelled) false := by
  intro x method
  obtain ⟨heard, taken⟩ := client.callAnswered replies method s.json sent
  simp only [x, submit]
  refine ⟨taken, ?_⟩
  rw [heard]
  exact judgeVerdict _ (hearsWhole whole _ sent.length)

end Client

/-- The passage goes as forecast. `fatal` tells what abort an error is, and `came` what is known of
the value and the outside world if there is none. -/
structure Passage.Fits {ε α : Type} (p : Passage (ω × List Request) ε α) (f : Forecast)
    (fatal : ε → Abort) (came : α → ω → Prop) : Prop where
  cancelled : p.cancelled = false
  requests : Journal.requests p.journal = f.requests
  reports : Journal.reports p.journal = f.reports
  turn : p.world.2.length = f.turn
  result :
    match f.fatal with
    | none => ∃ x, p.result = .ok x ∧ came x p.world.1
    | some abort => ∃ e, p.result = .error e ∧ fatal e = abort

namespace Activity
variable {ε α β : Type} {f : Forecast} {fatal : ε → Abort} {came : α → ω → Prop}

theorem fitsPure (x : α) (fatal : ε → Abort) (w : ω × List Request) :
    ((pure x : Activity (ω × List Request) ε α) false w).Fits (.idle w.2.length) fatal
      fun y outside => y = x ∧ outside = w.1 :=
  ⟨rfl, rfl, rfl, rfl, x, rfl, rfl, rfl⟩

theorem fitsLog (line : Line) (fatal : ε → Abort) (w : ω × List Request) :
    ((log line : Activity (ω × List Request) ε Unit) false w).Fits (.idle w.2.length) fatal
      fun _ outside => outside = w.1 :=
  ⟨rfl, rfl, rfl, rfl, (), rfl, rfl⟩

theorem fitsLogAll (lines : List Line) (fatal : ε → Abort) (w : ω × List Request) :
    ((logAll lines : Activity (ω × List Request) ε Unit) false w).Fits (.idle w.2.length) fatal
      fun _ outside => outside = w.1 :=
  ⟨rfl, congrArg (List.filter _) (Journal.silentLines lines).calls,
    (Journal.silentLines lines).reports, rfl, (), rfl, rfl⟩

theorem fitsAnnounce {event : Event} (silent : Entry.report? (.event event) = none)
    (fatal : ε → Abort) (w : ω × List Request) :
    ((announce event : Activity (ω × List Request) ε Unit) false w).Fits (.idle w.2.length) fatal
      fun _ outside => outside = w.1 :=
  ⟨rfl, rfl, by simp [announce, reports, silent, Forecast.idle], rfl, (), rfl, rfl⟩

theorem fitsBind {work : Activity (ω × List Request) ε α}
    {next : α → Activity (ω × List Request) ε β} {w : ω × List Request} {g : Nat → Forecast}
    {comes : β → ω → Prop} (first : (work false w).Fits f fatal came)
    (second : ∀ x v, came x v.1 → v.2.length = f.turn →
      (next x false v).Fits (g v.2.length) fatal comes) :
    ((work >>= next) false w).Fits (f.andThen g) fatal comes := by
  obtain ⟨token, asked, told, turn, result⟩ := first
  cases cut : f.fatal with
  | some abort =>
    rw [cut] at result
    obtain ⟨e, failed, own⟩ := result
    rw [andThenFailed failed, Forecast.andThenCut cut]
    exact ⟨token, asked, told, turn, by rw [cut]; exact ⟨e, rfl, own⟩⟩
  | none =>
    rw [cut] at result
    obtain ⟨x, came, there⟩ := result
    obtain ⟨token', asked', told', turn', result'⟩ := second x (work false w).world there turn
    rw [turn] at asked' told' turn' result'
    rw [andThenCame came, Forecast.andThenOn cut, token]
    exact ⟨token', by rw [Journal.requestsAppend, asked, asked'],
      by rw [Journal.reportsAppend, told, told'], turn', result'⟩

theorem fitsAfter {work : Activity (ω × List Request) ε α}
    {next : α → Activity (ω × List Request) ε β} {w : ω × List Request} {comes : β → ω → Prop}
    (first : (work false w).Fits (.idle w.2.length) fatal fun _ outside => outside = w.1)
    (second : ∀ x v, v.1 = w.1 → v.2.length = w.2.length → (next x false v).Fits f fatal comes) :
    ((work >>= next) false w).Fits f fatal comes := by
  rw [← Forecast.idleAndThen w.2.length fun _ => f]
  exact fitsBind first second

theorem fitsMapFailure {ε' : Type} {fatal' : ε' → Abort} {work : Activity (ω × List Request) ε α}
    {w : ω × List Request} (rename : ε → ε') (own : ∀ e, fatal' (rename e) = fatal e)
    (inner : (work false w).Fits f fatal came) :
    (mapFailure rename work false w).Fits f fatal' came := by
  obtain ⟨token, asked, told, turn, result⟩ := inner
  refine ⟨token, asked, told, turn, ?_⟩
  unfold mapFailure
  cases cut : f.fatal with
  | none =>
    rw [cut] at result
    obtain ⟨x, came, there⟩ := result
    exact ⟨x, congrArg (Except.mapError rename) came, there⟩
  | some abort =>
    rw [cut] at result
    obtain ⟨e, failed, same⟩ := result
    exact ⟨rename e, congrArg (Except.mapError rename) failed, (own e).trans same⟩

theorem fitsCut {work : Activity (ω × List Request) Abort α} {w : ω × List Request}
    (completed : List Tally) (inner : (work false w).Fits f id came) :
    (mapFailure (Run.Cut.mk completed) work false w).Fits f (·.fatal) came :=
  fitsMapFailure _ (fun _ => rfl) inner

theorem fitsAtStep {work : Activity (ω × List Request) Error α} {w : ω × List Request} (step : Step)
    (inner : (work false w).Fits f (.ofError step) came) :
    (atStep .never step work false w).Fits f id came :=
  fitsMapFailure _ (fun _ => rfl) inner

theorem fitsWeaken {p : Passage (ω × List Request) ε α} {weaker : α → ω → Prop}
    (fits : p.Fits f fatal came) (less : ∀ x outside, came x outside → weaker x outside) :
    p.Fits f fatal weaker := by
  obtain ⟨token, asked, told, turn, result⟩ := fits
  refine ⟨token, asked, told, turn, ?_⟩
  cases cut : f.fatal with
  | none =>
    rw [cut] at result
    obtain ⟨x, came, there⟩ := result
    exact ⟨x, came, less x _ there⟩
  | some abort =>
    rw [cut] at result
    exact result

end Activity

theorem reportsCall (call : Call) (lines : List Line) :
    reports (.call call :: lines.map .line) = [] :=
  (Journal.silentLines lines).reports

theorem loadFits {α : Type} {exchange : ω → Exchange ω (List α)} (stage : Stage) (step : Step)
    (w : ω × List Request)
    (given : ∃ records, (exchange w.1).reply = .answered (.ok records) false) :
    ((perform (.load stage) (Exchange.first exchange) : Activity (ω × List Request) Error (List α))
        false w).Fits (.idle w.2.length) (.ofError step)
      fun records outside =>
        records = (exchange w.1).reply.given ∧ outside = (exchange w.1).world := by
  obtain ⟨records, replied⟩ := given
  simp only [perform, Exchange.first, replied]
  exact ⟨rfl, Course.requestsCall _ _, reportsCall _ _, rfl, records, rfl, rfl, rfl⟩

theorem besideSubmit (registry : Registry (List Request)) (s : Submission) (outside : ω)
    (sent : List Request) :
    registry.beside.submit s (outside, sent) =
      ⟨(registry.submit s sent).reply, (registry.submit s sent).lines,
        (outside, (registry.submit s sent).world)⟩ := rfl

section
variable {σ : Type} {registry : Registry σ} {s : Submission} {w : σ}

theorem judgeRefused {e : Error}
    (refused : (registry.submit s w).reply = .answered (.error e) false) :
    Stage.judge registry (.ok s) false w = ⟨.error e, false,
      .call (.submit s) :: (registry.submit s w).lines.map .line, (registry.submit s w).world⟩ := by
  rw [judgeSubmitted, refused]
  rfl

theorem judgeAnswered {answer : Answer}
    (answered : (registry.submit s w).reply = .answered (.ok answer) false) :
    Stage.judge registry (.ok s) false w = ⟨.ok answer.verdict, false,
      .call (.submit s) :: (registry.submit s w).lines.map .line, (registry.submit s w).world⟩ := by
  rw [judgeSubmitted, answered]
  rfl

end

section
variable {client : Client} {replies : Nat → Delivery} (whole : ∀ n, replies n ≠ .interrupted)
include whole

theorem judgeFits (stage : Stage) (item : Item) (w : ω × List Request) :
    let f := client.fate replies stage item w.2.length
    let p := Stage.judge (client.registry (.playing replies)).beside item.work false w
    p.cancelled = false ∧ requests p.journal = f.requests ∧ reports p.journal = [] ∧
      p.world.2.length = f.turn ∧ p.world.1 = w.1 ∧
      match f.fatal with
      | none => ∃ verdict, p.result = .ok verdict ∧ f.reports = [⟨stage, item.key, verdict⟩]
      | some abort => p.result = .error .cancelled ∧ f.reports = [] ∧
        abort = .ofError (.submitting stage) .cancelled := by
  obtain ⟨outside, sent⟩ := w
  cases work : item.work with
  | error reason =>
    simp only [Client.fate, work]
    exact ⟨rfl, rfl, rfl, rfl, rfl, _, rfl, rfl⟩
  | ok s =>
    obtain ⟨taken, replied⟩ : let x := client.submit (.playing replies) s sent
        x.world.length = _ ∧ x.reply.map Answer.verdict = _ := Client.submitAnswered whole s sent
    generalize asked : (client.registry (.playing replies)).submit s sent = x
    have same : client.submit (.playing replies) s sent = x := asked
    have there : (client.registry (.playing replies)).beside.submit s (outside, sent) =
        ⟨x.reply, x.lines, (outside, x.world)⟩ := by
      rw [besideSubmit, asked]
    rw [same] at taken replied
    simp only [Client.fate, work]
    cases heard : (client.hears (Client.methodOf s.stage).1 replies sent.length).verdict? with
    | none =>
      rw [heard] at replied
      have reply := Reply.ofMapError replied
      rw [judgeRefused (by rw [there]; exact reply), there]
      exact ⟨rfl, Course.requestsCall (.submit s) _, reportsCall _ _, taken, rfl, rfl, rfl, rfl⟩
    | some verdict =>
      rw [heard] at replied
      obtain ⟨answer, reply, own⟩ := Reply.ofMapOk replied
      rw [judgeAnswered (by rw [there]; exact reply), there]
      exact ⟨rfl, Course.requestsCall (.submit s) _, reportsCall _ _, taken, rfl, verdict,
        by rw [own], rfl⟩

end

section
variable (stage : Stage) (key : String) (verdict : Verdict) (line : Line) (early late : List Entry)

theorem requestsCandidate :
    requests (.line line :: (early ++ (Course.told stage key verdict ++ late))) =
      requests early ++ requests late := by
  rw [← List.cons_append]
  simp [requests, Course.told]

end

section
variable {client : Client} {replies : Nat → Delivery} (whole : ∀ n, replies n ≠ .interrupted)
include whole

theorem submitAllFits (items : List Item) (tally : Tally) (w : ω × List Request) :
    (Stage.submitAll (client.registry (.playing replies)).beside .never items tally false w).Fits
      (client.fates replies tally.stage items w.2.length) (.ofError (.submitting tally.stage))
      fun _ outside => outside = w.1 := by
  induction items generalizing tally w with
  | nil => exact fitsWeaken (fitsPure tally _ w) fun _ _ same => same.2
  | cons item rest ih =>
    obtain ⟨token, asked, silent, turn, outside, result⟩ := judgeFits whole tally.stage item w
    unfold Client.fates
    cases cut : (client.fate replies tally.stage item w.2.length).fatal with
    | some abort =>
      rw [cut] at result
      obtain ⟨failed, untold, own⟩ := result
      rw [submitAllCut failed, Forecast.andThenCut cut]
      refine ⟨token, asked, silent.trans untold.symm, turn, ?_⟩
      rw [cut]
      exact ⟨_, rfl, own.symm⟩
    | none =>
      rw [cut] at result
      obtain ⟨verdict, came, reported⟩ := result
      rw [submitAllOn came, Forecast.andThenOn cut, token]
      generalize Stage.judge (client.registry (.playing replies)).beside item.work false w = p at *
      have later := ih (tally.note item.key verdict) p.world
      rw [tally.noteStage, turn] at later
      obtain ⟨token', asked', told', turn', result'⟩ := later
      refine ⟨token', ?_, ?_, turn', outside ▸ result'⟩
      · rw [requestsCandidate, asked, asked']
      · rw [reportsCandidate, silent, told', reported]
        rfl

theorem seedFits (stage : Stage) (items : List Item) (w : ω × List Request) :
    (Stage.seed (client.registry (.playing replies)).beside .never stage items false w).Fits
      (client.fates replies stage items w.2.length) (.ofError (.submitting stage))
      fun _ outside => outside = w.1 := by
  refine fitsAfter (fitsLog _ _ w) fun _ v first begun => ?_
  refine fitsAfter (fitsAnnounce rfl _ v) fun _ u second opened => ?_
  rw [← Forecast.andThenIdle (client.fates ..), ← begun, ← opened]
  refine fitsBind (submitAllFits whole items (Tally.empty stage) u) fun tally t third _ => ?_
  refine fitsAfter (fitsLog _ _ t) fun _ t' fourth closed => ?_
  rw [← closed]
  refine fitsAfter (fitsAnnounce rfl _ t') fun _ t'' fifth told => ?_
  rw [← told]
  refine fitsWeaken (fitsPure tally _ t'') fun _ _ same => ?_
  rw [same.2, fifth, fourth, third, second, first]

end

namespace Client
variable (client : Client) (replies : Nat → Delivery) (sent : List Request)

theorem callShifted (method : String) (body : Json) (late : List Request) :
    client.call (.playing replies) method body (sent ++ late) =
      let x := client.call (.playing fun turn => replies (sent.length + turn)) method body late
      (x.1, sent ++ x.2) := by
  unfold call
  cases client.destination method with
  | error failure => rfl
  | ok place => simp [Transport.playing]

theorem pagesShifted (left number : Nat) (token : String) (listed : List RegisteredAsset)
    (late : List Request) :
    client.pages (.playing replies) left number token listed (sent ++ late) =
      let x := client.pages (.playing fun turn => replies (sent.length + turn)) left number token
        listed late
      { x with world := sent ++ x.world } := by
  induction left generalizing number token listed late with
  | zero => rfl
  | succ left ih =>
    simp only [pages, callShifted]
    cases (client.call (.playing fun turn => replies (sent.length + turn)) "ListAssets"
      (PageRequest.mk client.settings.pageSize token).json late).1 with
    | interrupted => rfl
    | failed failure => rfl
    | response status body =>
      dsimp only
      cases readPage status body with
      | error e => rfl
      | ok page =>
        dsimp only
        by_cases last : page.nextPageToken.isEmpty = true
        · rw [if_pos last, if_pos last]
        · rw [if_neg last, if_neg last]
          by_cases same : page.nextPageToken = token
          · rw [if_pos same, if_pos same]
          · rw [if_neg same, if_neg same, ih]

theorem listShifted : client.list (.playing replies) sent =
    let x := client.listingFrom replies sent.length
    { x with world := sent ++ x.world } := by
  have shifted := client.pagesShifted replies sent client.settings.maxPages 0 "" [] []
  rwa [List.append_nil] at shifted

end Client

section
variable {client : Client} {replies : Nat → Delivery} (whole : ∀ n, replies n ≠ .interrupted)
include whole

variable (client) in
theorem listingAnswered (turn : Nat) :
    ∃ result, (client.listingFrom replies turn).reply = .answered result false := by
  rcases client.listCloses fun later => replies (turn + later) with ⟨_, _, _, same⟩ |
    ⟨_, _, _, same⟩ | ⟨later, _, lost, _⟩ | ⟨_, same⟩
  · exact ⟨_, same⟩
  · exact ⟨_, same⟩
  · exact absurd lost (Client.hearsWhole whole "ListAssets" (turn + later))
  · exact ⟨_, same⟩

theorem listFits (w : ω × List Request) :
    let listing := client.listingFrom replies w.2.length
    ((perform .list (client.registry (.playing replies)).beside.list :
        Activity (ω × List Request) Error (List RegisteredAsset)) false w).Fits
      (client.listingFate replies w.2.length) (.ofError .listAssets)
      fun assets outside => assets = listing.reply.given ∧ outside = w.1 := by
  intro listing
  obtain ⟨outside, sent⟩ := w
  obtain ⟨result, replied⟩ := listingAnswered client whole sent.length
  have asked : (client.registry (.playing replies)).beside.list (outside, sent) =
      ⟨.answered result false, listing.lines, (outside, sent ++ listing.world)⟩ := by
    change Exchange.mk (client.list _ sent).reply (client.list _ sent).lines
      (outside, (client.list _ sent).world) = _
    rw [client.listShifted replies sent, ← replied]
  simp only [perform, asked]
  refine ⟨rfl, Course.requestsCall .list _, reportsCall _ _, List.length_append, ?_⟩
  simp only [Client.listingFate, replied]
  cases result with
  | error e => exact ⟨e, rfl, rfl⟩
  | ok assets => exact ⟨assets, rfl, by simp [listing, replied, Reply.given]⟩

theorem indexFits (w : ω × List Request) :
    ((client.registry (.playing replies)).beside.index false w).Fits
      (client.listingFate replies w.2.length) (.ofError .listAssets)
      fun index outside => index =
        (Index.ofListing (client.listingFrom replies w.2.length).reply.given).1 ∧ outside = w.1 := by
  rw [← Forecast.andThenIdle (client.listingFate ..)]
  refine fitsBind (listFits whole w) fun listing v came _ => ?_
  refine fitsAfter (fitsLogAll _ _ v) fun _ u second kept => ?_
  rw [← kept]
  refine fitsAfter (fitsLog _ _ u) fun _ t third still => ?_
  rw [← still]
  refine fitsWeaken (fitsPure _ _ t) fun _ _ same => ?_
  rw [same.1, same.2, came.1, third, second, came.2]
  exact ⟨rfl, rfl⟩

theorem stageFits {α : Type} {exchange : ω → Exchange ω (List α)} {item : α → Item} {stage : Stage}
    {load : Step} (given : ∀ w, ∃ records, (exchange w).reply = .answered (.ok records) false)
    (w : ω × List Request) :
    ((do
      let records ← atStep .never load (perform (.load stage) (Exchange.first exchange))
      atStep .never (.submitting stage)
        (Stage.seed (client.registry (.playing replies)).beside .never stage (records.map item)) :
        Activity (ω × List Request) Abort Tally) false w).Fits
      (client.fates replies stage ((exchange w.1).reply.given.map item) w.2.length) id
      fun _ outside => outside = (exchange w.1).world := by
  rw [← Forecast.idleAndThen w.2.length (client.fates replies stage _)]
  refine fitsBind (fitsAtStep load (loadFits stage load w (given w.1))) fun records v came _ => ?_
  rw [came.1, ← came.2]
  exact fitsAtStep _ (seedFits whole stage _ v)

variable {source : Source ω} (given : source.Succeeds)
include given

theorem chainsFit (w : ω × List Request) :
    (Run.chains source.beside (client.registry (.playing replies)).beside .never false w).Fits
      (client.fates replies .chains ((source.chains w.1).reply.given.map Chain.item) w.2.length) id
      fun _ outside => outside = (source.chains w.1).world :=
  stageFits whole given.chains w

theorem assetsFit (w : ω × List Request) :
    (Run.assets source.beside (client.registry (.playing replies)).beside .never false w).Fits
      (client.fates replies .assets ((source.assets w.1).reply.given.map Asset.item) w.2.length) id
      fun _ outside => outside = (source.assets w.1).world :=
  stageFits whole given.assets w

theorem deploymentsFit (w : ω × List Request) :
    (Run.deployments source.beside (client.registry (.playing replies)).beside .never false w).Fits
      ((client.listingFate replies w.2.length).andThen
        (client.fates replies .deployments ((source.deployments w.1).reply.given.map
          (Deployment.item (Index.ofListing
            (client.listingFrom replies w.2.length).reply.given).1)))) id
      fun _ _ => True := by
  refine fitsBind (fitsAtStep .listAssets (indexFits whole w)) fun index v came _ => ?_
  rw [came.1, ← came.2]
  exact fitsWeaken (stageFits whole given.deployments v) fun _ _ _ => trivial

variable (client) in
theorem stagesFit (w : ω) :
    (Run.stages source.beside (client.registry (.playing replies)).beside .never false (w, [])).Fits
      (client.forecast replies source w) (·.fatal) fun _ _ => True := by
  unfold Client.forecast
  refine fitsBind (fitsCut [] (chainsFit whole given (w, []))) fun first v chained _ => ?_
  rw [← chained]
  refine fitsBind (fitsCut [first] (assetsFit whole given v)) fun second u listed _ => ?_
  rw [← listed, ← Forecast.andThenIdle (Forecast.andThen ..)]
  refine fitsBind (fitsCut [first, second] (deploymentsFit whole given u)) fun third t _ _ => ?_
  exact fitsWeaken (fitsPure _ _ t) fun _ _ _ => trivial

end
end RegistrySeeding
