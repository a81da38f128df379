import RegistrySeeding.Proofs.Seed.Counting
import RegistrySeeding.Proofs.Seed.Cancellation

/-! The events of a run as blocks, one for each stage that it began. A block tells of the stage's
candidates in order; a stage that is completed closes its block with what was told, counted. -/
namespace RegistrySeeding

structure Block where
  stage : Stage
  total : Nat
  noted : List (String × Verdict)
  deriving DecidableEq, Repr

namespace Block

def items (b : Block) : List Event := b.noted.map fun n => .item b.stage n.1 n.2

def tally (b : Block) : Tally := Tally.ofVerdicts b.stage b.noted

def opened (b : Block) : List Event := .stageStart b.stage b.total :: b.items

def closed (b : Block) : List Event := b.opened ++ [.stageComplete b.tally]

end Block

/-- The events are those of blocks that were closed, one for each tally, and at most one that the
run was cut short in. -/
structure Told (candidates : Stage → List Item) (events : List Event) (tallies : List Tally)
    (fatal : Option Abort) (blocks : List Block) (cut : Option Block) : Prop where
  events : events = blocks.flatMap Block.closed ++ cut.toList.flatMap Block.opened
  tallies : tallies = blocks.map Block.tally
  whole : ∀ b ∈ blocks, b.total = (candidates b.stage).length ∧
    b.noted.map (·.1) = (candidates b.stage).map (·.key)
  short : ∀ b ∈ cut, b.total = (candidates b.stage).length ∧ b.noted.length < b.total ∧
    b.noted.map (·.1) <+: (candidates b.stage).map (·.key) ∧
    ∃ e, fatal = some (.ofError (.submitting b.stage) e)

section
variable {candidates : Stage → List Item}

theorem Told.silent (fatal : Option Abort) : Told candidates [] [] fatal [] none :=
  ⟨rfl, rfl, nofun, nofun⟩

theorem Told.uncut {events : List Event} {tallies : List Tally} {blocks : List Block}
    {cut : Option Block} (told : Told candidates events tallies none blocks cut) : cut = none := by
  cases cut with
  | none => rfl
  | some b =>
    obtain ⟨e, absurd⟩ := (told.short b rfl).2.2.2
    nomatch absurd

theorem Told.append {early late : List Event} {first second : List Tally} {fatal : Option Abort}
    {blocks more : List Block} {still cut : Option Block}
    (one : Told candidates early first none blocks still)
    (other : Told candidates late second fatal more cut) :
    Told candidates (early ++ late) (first ++ second) fatal (blocks ++ more) cut := by
  cases one.uncut
  refine ⟨?_, ?_, ?_, other.short⟩
  · rw [one.events, other.events]
    simp
  · rw [one.tallies, other.tallies, List.map_append]
  · intro b inside
    exact (List.mem_append.mp inside).elim (one.whole b) (other.whole b)

end

namespace Course
open Journal (events eventsAppend eventsLines)
variable {α β : Type} {token : Bool} {stage : Stage}

theorem unspokenFetched {call : Call} {moment : Reply α → Moment} {value : α → β}
    {account : Account Error β} (went : Fetched call moment value token account) :
    events account.journal = [] := by
  cases went with
  | abandoned _ lines => exact eventsLines lines
  | refused _ e requested lines => exact eventsLines lines
  | gave _ x requested lines => exact eventsLines lines

theorem unspokenJudged {item : Item} {account : Account Error Verdict}
    (went : Guarded (Judged item) token account) : events account.journal = [] := by
  cases went with
  | barred stopped => rfl
  | begun went =>
    cases went with
    | locally work => rfl
    | remotely work went => exact unspokenFetched went

theorem unspokenFetch {step : Step} {call : Call} {moment : Reply α → Moment} {value : α → β}
    {account : Account Abort β} (went : AtStep step (Fetched call moment value) token account) :
    events account.journal = [] := by
  cases went with
  | failed went =>
    cases went with
    | barred stopped => rfl
    | begun went => exact unspokenFetched went
  | came went =>
    cases went with
    | begun went => exact unspokenFetched went

theorem submittedNotes {items : List Item} {tally : Tally} {account : Account Error Tally}
    (went : Submitted items tally token account) :
    ∃ noted : List (String × Verdict), noted.map (·.1) <+: items.map (·.key) ∧
      events account.journal = noted.map (fun n => .item tally.stage n.1 n.2) ∧
      match account.result with
      | .ok t => noted.length = items.length ∧ t = tally.noteAll noted
      | .error _ => noted.length < items.length := by
  induction went with
  | done => exact ⟨[], List.nil_prefix, rfl, rfl, rfl⟩
  | cut failed => exact ⟨[], List.nil_prefix, unspokenJudged failed, Nat.succ_pos _⟩
  | @on item rest tally _ verdict _ early _ result _ late _ came later ih =>
    obtain ⟨noted, keys, told, ends⟩ := ih
    -- What is told of the rest follows what is told of the head, under the same stage.
    refine ⟨(item.key, verdict) :: noted, ?_, ?_, ?_⟩
    · rw [List.map_cons, List.map_cons]
      exact (List.prefix_cons_inj _).mpr keys
    · have mute : events early = [] := unspokenJudged came
      have split : events (.line (tally.stage.submitLine item.key) :: early ++
          (Course.told tally.stage item.key verdict ++ late)) =
          events early ++ .item tally.stage item.key verdict :: events late := by
        rw [List.cons_append]
        change events (early ++ _) = _
        rw [eventsAppend]
        rfl
      rw [split, mute, told, Tally.noteStage]
      rfl
    · cases result with
      | error e => exact Nat.succ_lt_succ ends
      | ok t => exact ⟨congrArg (· + 1) ends.1, ends.2⟩

theorem seededTold {items : List Item} {account : Account Error Tally}
    (went : Seeded stage items token account) :
    ∃ noted : List (String × Verdict), noted.map (·.1) <+: items.map (·.key) ∧
      match account.result with
      | .ok t => noted.length = items.length ∧ t = Block.tally ⟨stage, items.length, noted⟩ ∧
        events account.journal = Block.closed ⟨stage, items.length, noted⟩
      | .error _ => noted.length < items.length ∧
        events account.journal = Block.opened ⟨stage, items.length, noted⟩ := by
  cases went with
  | cut failed =>
    obtain ⟨noted, keys, told, ends⟩ := submittedNotes failed
    refine ⟨noted, keys, ends, ?_⟩
    rw [eventsAppend, told]
    rfl
  | complete went =>
    obtain ⟨noted, keys, told, ends, counted⟩ := submittedNotes went
    refine ⟨noted, keys, ends, counted, ?_⟩
    rw [eventsAppend, eventsAppend, told, counted]
    rfl

end Course

def Account.Tells (candidates : Stage → List Item) (a : Account Abort Tally) : Prop :=
  ∃ blocks cut, Told candidates (Journal.events a.journal) a.result.toOption.toList
    (abort? a.result) blocks cut

namespace Course
open Journal (events eventsAppend)
variable {α β : Type} {token : Bool} {stage : Stage} {candidates : Stage → List Item}

theorem tellsSubmit {items : List Item} {account : Account Abort Tally}
    (place : candidates stage = items)
    (went : AtStep (.submitting stage) (Seeded stage items) token account) :
    account.Tells candidates := by
  subst place
  cases went with
  | failed went =>
    cases went with
    | barred stopped => exact ⟨[], none, .silent _⟩
    | begun went =>
      obtain ⟨noted, keys, ends, told⟩ := seededTold went
      refine ⟨[], some ⟨stage, (candidates stage).length, noted⟩, ?_, rfl, nofun, ?_⟩
      · rw [told]
        simp
      · rintro b ⟨⟩
        exact ⟨rfl, ends, keys, _, rfl⟩
  | came went =>
    cases went with
    | begun went =>
      obtain ⟨noted, keys, ends, rfl, told⟩ := seededTold went
      refine ⟨[⟨stage, (candidates stage).length, noted⟩], none, ?_, rfl, ?_, nofun⟩
      · rw [told]
        simp
      · intro b inside
        cases List.mem_singleton.mp inside
        exact ⟨rfl, keys.eq_of_length (by simpa using ends)⟩

theorem tellsBound {first : Course Abort α} {next : α → Course Abort Tally}
    {account : Account Abort Tally} (went : Bound first next token account)
    (one : ∀ token account, first token account → events account.journal = [])
    (other : ∀ {x middle early before later}, first token ⟨.ok x, middle, early, before⟩ →
      next x middle later → account.moments = before ++ later.moments → later.Tells candidates) :
    account.Tells candidates := by
  cases went with
  | cut failed =>
    refine ⟨[], none, ?_⟩
    rw [one _ _ failed]
    exact .silent _
  | on came later =>
    obtain ⟨blocks, cut, told⟩ := other came later rfl
    refine ⟨blocks, cut, ?_⟩
    rw [eventsAppend, one _ _ came]
    exact told

theorem tellsStage {moment : Reply (List α) → Moment} {item : α → Item}
    {given : Moment → List α} {account : Account Abort Tally}
    (opens : ∀ reply, given (moment reply) = reply.given)
    (gives : Moment.Gives (.load stage) given) (belong : ∀ x, (item x).Belongs stage)
    (place : candidates stage = (account.moments.flatMap given).map item)
    (went : Bound (AtStep (Call.load stage).step (Fetched (.load stage) moment id))
      (fun records => AtStep (.submitting stage) (Seeded stage (records.map item))) token account) :
    account.Tells candidates := by
  refine tellsBound went (fun _ _ => unspokenFetch) fun came later same => ?_
  rw [same, givenByLoad opens gives belong came later] at place
  exact tellsSubmit place later

section
variable {account : Account Abort Tally}

theorem tellsChains (place : candidates .chains = account.moments.candidates .chains)
    (went : OfChains token account) : account.Tells candidates :=
  tellsStage (fun _ => rfl) Moment.givesChains Chain.itemBelongs place went

theorem tellsAssets (place : candidates .assets = account.moments.candidates .assets)
    (went : OfAssets token account) : account.Tells candidates :=
  tellsStage (fun _ => rfl) Moment.givesAssets Asset.itemBelongs place went

theorem tellsDeployments (place : candidates .deployments = account.moments.candidates .deployments)
    (went : OfDeployments token account) : account.Tells candidates := by
  refine tellsBound went (fun _ _ => unspokenFetch) fun came later same => ?_
  rw [same, givenByListing came later] at place
  exact tellsStage (fun _ => rfl) Moment.givesDeployments (Deployment.itemBelongs _) place later

end

theorem tellsStages {account : Account Run.Cut (List Tally)} (went : OfStages token account) :
    ∃ blocks cut, Told account.moments.candidates (events account.journal)
      (match account.result with
        | .ok tallies => tallies
        | .error cut => cut.stages)
      (abort? (account.result.mapError (·.fatal))) blocks cut := by
  cases went with
  | inChains failed => exact tellsChains rfl failed
  | inAssets chains failed =>
    have place := Transcript.candidatesOfParts (ofChainsLocal chains) (ofAssetsLocal failed) .nil
    rw [List.append_nil] at place
    obtain ⟨_, _, one⟩ := tellsChains (place .chains) chains
    obtain ⟨_, _, two⟩ := tellsAssets (place .assets) failed
    rw [eventsAppend]
    exact ⟨_, _, one.append two⟩
  | inDeployments chains assets failed =>
    have place := Transcript.candidatesOfParts (ofChainsLocal chains) (ofAssetsLocal assets)
      (ofDeploymentsLocal failed)
    obtain ⟨_, _, one⟩ := tellsChains (place .chains) chains
    obtain ⟨_, _, two⟩ := tellsAssets (place .assets) assets
    obtain ⟨_, _, three⟩ := tellsDeployments (place .deployments) failed
    rw [eventsAppend, eventsAppend]
    exact ⟨_, _, one.append (two.append three)⟩
  | complete chains assets deployments =>
    have place := Transcript.candidatesOfParts (ofChainsLocal chains) (ofAssetsLocal assets)
      (ofDeploymentsLocal deployments)
    obtain ⟨_, _, one⟩ := tellsChains (place .chains) chains
    obtain ⟨_, _, two⟩ := tellsAssets (place .assets) assets
    obtain ⟨_, _, three⟩ := tellsDeployments (place .deployments) deployments
    rw [eventsAppend, eventsAppend]
    exact ⟨_, _, one.append (two.append three)⟩

end Course
end RegistrySeeding
