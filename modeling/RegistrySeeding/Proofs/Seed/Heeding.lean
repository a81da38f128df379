import RegistrySeeding.Proofs.Seed.Completion
import RegistrySeeding.Proofs.Seed.Locality

/-! What follows the first moment that cancels a run. A moment is a call in progress or an
interrupt; the stage in which it falls is followed up to it, and from there on the candidates and
steps that are left find the token cancelled. -/
namespace RegistrySeeding
open Journal (calls reports completions keys Silent)

def Step.next : Step → Option Step
  | loadChains => some submitChains
  | submitChains => some loadAssets
  | loadAssets => some submitAssets
  | submitAssets => some listAssets
  | listAssets => some loadDeployments
  | loadDeployments => some submitDeployments
  | submitDeployments => none

def Reply.error? {α : Type} : Reply α → Option Error
  | answered (.ok _) _ => none
  | answered (.error e) _ => some e
  | abandoned => some .cancelled

def Moment.error? : Moment → Option Error
  | chains reply => reply.error?
  | assets reply => reply.error?
  | deployments reply => reply.error?
  | listing reply => reply.error?
  | submission _ reply => reply.error?
  | interrupt => none

def Transcript.Quiet (t : Transcript) : Prop := ∀ m ∈ t, m.cancels = false

theorem Transcript.onlyOne {x m : Moment} {before after : Transcript}
    (split : [x] = before ++ m :: after) : before = [] ∧ m = x ∧ after = [] := by
  cases before with
  | nil => obtain ⟨rfl, rfl⟩ := List.cons.inj split; exact ⟨rfl, rfl, rfl⟩
  | cons head tail => exact absurd (List.cons.inj split).2 (by simp)

/-- After the call that was in progress when the token was cancelled: what is still told, and the
error that ends the run. -/
inductive Sequel (candidates : Stage → List Item) (early late : List Entry) :
    Moment → Option Abort → Prop where
  | failed {m call e} (asks : m.call? = some call) (error : m.error? = some e)
      (silent : Silent late) : Sequel candidates early late m (some (.ofError call.step e))
  | fetched {m call} (asks : m.call? = some call) (fetch : ∀ s, call ≠ .submit s)
      (came : m.error? = none) (silent : Silent late) :
      Sequel candidates early late m (call.step.next.map (Abort.ofError · .cancelled))
  | amid {s answer requested earlier item next later}
      (place : candidates s.stage = earlier ++ item :: next :: later) (work : item.work = .ok s)
      (told : keys s.stage early = earlier.map (·.key))
      (reported : reports late = [⟨s.stage, item.key, answer.verdict⟩])
      (unfinished : completions late = []) :
      Sequel candidates early late (.submission s (.answered (.ok answer) requested))
        (some (.ofError (.submitting s.stage) .cancelled))
  | last {s answer requested earlier item tally}
      (place : candidates s.stage = earlier ++ [item]) (work : item.work = .ok s)
      (told : keys s.stage early = earlier.map (·.key))
      (reported : reports late = [⟨s.stage, item.key, answer.verdict⟩])
      (completed : completions late = [tally]) (own : tally.stage = s.stage) :
      Sequel candidates early late (.submission s (.answered (.ok answer) requested))
        ((Step.submitting s.stage).next.map (Abort.ofError · .cancelled))

namespace Course
variable {token : Bool}

theorem stoppedCalls {moments : Transcript} (stopped : Stopped token moments) :
    moments.calls = [] := by
  cases stopped <;> rfl

theorem submittedBarred {items : List Item} {tally : Tally} {account : Account Error Tally}
    (went : Submitted items tally true account) :
    (items = [] ∧ account = ⟨.ok tally, true, [], []⟩) ∨
      (items ≠ [] ∧ account.result = .error .cancelled ∧ Silent account.journal ∧
        account.moments.calls = []) := by
  cases went with
  | done => exact .inl ⟨rfl, rfl⟩
  | cut failed =>
    cases failed with
    | barred stopped =>
      exact .inr ⟨nofun, rfl, Journal.silentLines [_], stoppedCalls stopped⟩
  | on came later => cases came

theorem submittedUntouched {items : List Item} {tally : Tally} {account : Account Error Tally}
    (went : Submitted items tally token account) (clear : token = false)
    (quiet : account.moments.Quiet) (x : Tally) (came : account.result = .ok x) :
    account.cancelled = false := by
  induction went with
  | done => exact clear
  | cut failed => nomatch came
  | on head later ih =>
    have rest (middle : _ = false) :=
      ih middle (fun m inside => quiet m (List.mem_append_right _ inside)) came
    cases head with
    | begun head =>
      cases head with
      | locally work => exact rest rfl
      | remotely work head =>
        cases head with
        | gave _ answer requested lines =>
          exact rest (quiet _ (List.mem_append_left _ (List.mem_singleton_self _)))

theorem toldKeys (stage : Stage) (key : String) (verdict : Verdict) :
    keys stage (told stage key verdict) = [key] := by
  change List.map _ ([Report.mk stage key verdict].filter _) = _
  simp

inductive Met (item : Item) (later : List Item) (reached : Tally) :
    Moment → Transcript → Account Error Tally → Prop where
  | interrupted {left} : Met item later reached .interrupt []
      ⟨.error .cancelled, left, [.line (reached.stage.submitLine item.key)], [.interrupt]⟩
  | failed {s reply e left} (lines : List Line) (work : item.work = .ok s)
      (error : reply.error? = some e) :
      Met item later reached (.submission s reply) []
        ⟨.error e, left, .line (reached.stage.submitLine item.key) :: .call (.submit s) ::
          lines.map .line, [.submission s reply]⟩
  | judged {s answer requested result left late after} (lines : List Line)
      (work : item.work = .ok s)
      (rest : Submitted later (reached.note item.key answer.verdict) requested
        ⟨result, left, late, after⟩) :
      Met item later reached (.submission s (.answered (.ok answer) requested)) after
        ⟨result, left, .line (reached.stage.submitLine item.key) :: .call (.submit s) ::
          (lines.map .line ++ (told reached.stage item.key answer.verdict ++ late)),
          .submission s (.answered (.ok answer) requested) :: after⟩

inductive Reaches (items : List Item) (tally : Tally) (before : Transcript) (m : Moment)
    (after : Transcript) : Account Error Tally → Prop where
  | mk {earlier item later reached front back result left moments}
      (place : items = earlier ++ item :: later) (asked : calls front = before.calls)
      (reported : keys tally.stage front = earlier.map (·.key)) (own : reached.stage = tally.stage)
      (met : Met item later reached m after ⟨result, left, back, m :: after⟩) :
      Reaches items tally before m after ⟨result, left, front ++ back, moments⟩

theorem Reaches.here {item : Item} {later : List Item} {tally : Tally} {m : Moment}
    {after moments : Transcript} {back : List Entry} {result : Except Error Tally} {left : Bool}
    (met : Met item later tally m after ⟨result, left, back, m :: after⟩) :
    Reaches (item :: later) tally [] m after ⟨result, left, back, moments⟩ :=
  .mk (show item :: later = [] ++ item :: later from rfl)
    (show calls [] = Transcript.calls [] from rfl) rfl rfl met

theorem submittedReaches {items : List Item} {tally : Tally} {account : Account Error Tally}
    (went : Submitted items tally token account) (clear : token = false)
    {before after : Transcript} {m : Moment} (split : account.moments = before ++ m :: after)
    (quiet : before.Quiet) : Reaches items tally before m after account := by
  -- By induction on the candidates: the moment falls at the first one, or the first one went by
  -- without cancelling anything and is one more that was reported before it.
  induction went generalizing before with
  | done => exact absurd split.symm (by simp)
  | @cut item rest tally _ _ _ _ _ failed =>
    cases failed with
    | barred stopped =>
      cases stopped with
      | before => nomatch clear
      | now =>
        obtain ⟨rfl, rfl, rfl⟩ := Transcript.onlyOne split
        exact .here .interrupted
    | begun failed =>
      cases failed with
      | remotely work failed =>
        cases failed with
        | abandoned _ lines =>
          obtain ⟨rfl, rfl, rfl⟩ := Transcript.onlyOne split
          exact .here (.failed lines work rfl)
        | refused _ e requested lines =>
          obtain ⟨rfl, rfl, rfl⟩ := Transcript.onlyOne split
          exact .here (.failed lines work rfl)
  | @on item rest tally _ verdict middle early skipped result left late tail came later ih =>
    have onward {more : Transcript} (open' : middle = false) (beyond : tail = more ++ m :: after)
        (still : more.Quiet) (asked : calls early ++ more.calls = before.calls)
        (mute : reports early = []) :
        Reaches (item :: rest) tally before m after
          ⟨result, left, .line (tally.stage.submitLine item.key) :: early ++
            (told tally.stage item.key verdict ++ late), skipped ++ tail⟩ := by
      have first : keys tally.stage (.line (tally.stage.submitLine item.key) :: early) = [] := by
        change ((reports early).filter _).map _ = []
        rw [mute]
        rfl
      have reach := ih open' beyond still
      cases reach with
      | @mk earlier _ _ _ front back _ _ _ place asked' reported own met =>
        rw [Tally.noteStage] at reported own
        rw [← List.append_assoc, ← List.append_assoc]
        refine .mk (show item :: rest = (item :: earlier) ++ _ from congrArg (item :: ·) place)
          ?_ ?_ own met
        · rw [Journal.callsAppend, Journal.callsAppend, ← asked, ← asked', List.append_assoc]
          rfl
        · rw [Journal.keysAppend, Journal.keysAppend, first, toldKeys, reported]
          rfl
    cases came with
    | begun came =>
      cases came with
      | locally work => exact onward rfl split quiet rfl rfl
      | remotely work came =>
        cases came with
        | gave _ answer requested lines =>
          cases before with
          | nil =>
            obtain ⟨rfl, rfl⟩ := List.cons.inj split
            exact .here (.judged lines work later)
          | cons head more =>
            obtain ⟨rfl, beyond⟩ := List.cons.inj split
            refine onward (quiet _ List.mem_cons_self) beyond
              (fun m inside => quiet m (List.mem_cons_of_mem _ inside)) ?_
              (Journal.silentLines lines).reports
            rw [Journal.callsCall, Journal.callsLines]
            rfl

end Course

inductive Ends {α : Type} (exit : Option Step) : Account Abort α → Option Abort → Prop where
  | aborted {fatal left journal moments} :
      Ends exit ⟨.error fatal, left, journal, moments⟩ (some fatal)
  | passed {x journal moments} :
      Ends exit ⟨.ok x, true, journal, moments⟩ (exit.map (Abort.ofError · .cancelled))

inductive Struck {α : Type} (candidates : Stage → List Item) (exit : Option Step)
    (before : Transcript) : Moment → Account Abort α → Prop where
  | between {m step left journal moments} (uncalled : m.call? = none)
      (asked : calls journal = before.calls) :
      Struck candidates exit before m
        ⟨.error (.ofError step .cancelled), left, journal, moments⟩
  | during {m call early late result left moments fatal} (asks : m.call? = some call)
      (asked : calls early = before.calls) (ceased : calls late = [])
      (ends : Ends exit ⟨result, left, early ++ .call call :: late, moments⟩ fatal)
      (sequel : Sequel candidates early late m fatal) :
      Struck candidates exit before m ⟨result, left, early ++ .call call :: late, moments⟩

/-- Work from one step to before another: a cancelled token stops it at its first step, and the
first moment that cancels it stops whatever is left of it. -/
structure Heeds {α : Type} (candidates : Stage → List Item) (entry : Step) (exit : Option Step)
    (token : Bool) (a : Account Abort α) : Prop where
  barred : token = true →
    a.result = .error (.ofError entry .cancelled) ∧ a.journal = [] ∧ a.moments.calls = []
  untouched : token = false → a.moments.Quiet → ∀ x, a.result = .ok x → a.cancelled = false
  struck : token = false → ∀ before m after, a.moments = before ++ m :: after →
    Transcript.Quiet before → m.cancels = true →
      Transcript.calls after = [] ∧ Struck candidates exit before m a

namespace Course
variable {token : Bool} {candidates : Stage → List Item}

theorem heedsBarred {α : Type} {entry : Step} {exit : Option Step} {moments : Transcript}
    (stopped : Stopped token moments) : Heeds (α := α) candidates entry exit token
      ⟨.error (.ofError entry .cancelled), true, [], moments⟩ := by
  refine ⟨fun _ => ⟨rfl, rfl, stoppedCalls stopped⟩,
    fun _ _ => nofun, ?_⟩
  intro clear before m after split quiet cancels
  cases stopped with
  | before => nomatch clear
  | now =>
    obtain ⟨rfl, rfl, rfl⟩ := Transcript.onlyOne split
    exact ⟨rfl, .between rfl rfl⟩

theorem heedsFetch {α β : Type} (call : Call) {moment : Reply α → Moment} {value : α → β}
    {account : Account Abort β} (asks : ∀ reply, (moment reply).call? = some call)
    (cancels : ∀ reply, (moment reply).cancels = reply.cancels)
    (errors : ∀ reply, (moment reply).error? = reply.error?) (fetch : ∀ s, call ≠ .submit s)
    (went : AtStep call.step (Fetched call moment value) token account) :
    Heeds candidates call.step call.step.next token account := by
  have opening : calls [] = Transcript.calls [] := rfl
  cases went with
  | failed went =>
    cases went with
    | barred stopped => exact heedsBarred stopped
    | begun went =>
      refine ⟨nofun, fun _ _ => nofun, ?_⟩
      intro _ before m after split quiet _
      cases went with
      | abandoned _ lines =>
        obtain ⟨rfl, rfl, rfl⟩ := Transcript.onlyOne split
        exact ⟨rfl, .during (asks _) opening (Journal.callsLines lines) .aborted
          (.failed (asks _) (errors _) (Journal.silentLines lines))⟩
      | refused _ e requested lines =>
        obtain ⟨rfl, rfl, rfl⟩ := Transcript.onlyOne split
        exact ⟨rfl, .during (asks _) opening (Journal.callsLines lines) .aborted
          (.failed (asks _) (errors _) (Journal.silentLines lines))⟩
  | came went =>
    cases went with
    | begun went =>
      cases went with
      | gave _ x requested lines =>
        refine ⟨nofun, fun _ quiet _ _ => ?_, ?_⟩
        · exact (cancels _).symm.trans (quiet _ (List.mem_singleton_self _))
        · intro _ before m after split quiet cancelled
          obtain ⟨rfl, rfl, rfl⟩ := Transcript.onlyOne split
          have requested : requested = true := (cancels _).symm.trans cancelled
          subst requested
          exact ⟨rfl, .during (asks _) opening (Journal.callsLines lines) .passed
            (.fetched (asks _) fetch (errors _) (Journal.silentLines lines))⟩

theorem answered (lines : List Line) (stage : Stage) (key : String) (verdict : Verdict)
    (back : List Entry) :
    calls (lines.map .line ++ (told stage key verdict ++ back)) = calls back ∧
    reports (lines.map .line ++ (told stage key verdict ++ back)) =
      ⟨stage, key, verdict⟩ :: reports back ∧
    completions (lines.map .line ++ (told stage key verdict ++ back)) = completions back := by
  have quiet := Journal.silentLines lines
  refine ⟨?_, ?_, ?_⟩
  · rw [Journal.callsAppend, quiet.calls]; rfl
  · rw [Journal.reportsAppend, quiet.reports]; rfl
  · rw [Journal.completionsAppend, quiet.completions]; rfl

def leading (stage : Stage) (total : Nat) (front : List Entry) (key : String) : List Entry :=
  opened stage total ++ (front ++ [.line (stage.submitLine key)])

theorem leadingCalls (stage : Stage) (total : Nat) (front : List Entry) (key : String) :
    calls (leading stage total front key) = calls front := by
  rw [leading, Journal.callsAppend, Journal.callsAppend]
  exact List.append_nil _

theorem leadingKeys (stage : Stage) (total : Nat) (front : List Entry) (key : String) :
    keys stage (leading stage total front key) = keys stage front := by
  rw [leading, Journal.keysAppend, Journal.keysAppend]
  exact List.append_nil _

theorem leadingCall (stage : Stage) (total : Nat) (front late : List Entry) (key : String)
    (s : Submission) :
    opened stage total ++ (front ++ .line (stage.submitLine key) :: .call (.submit s) :: late) =
      leading stage total front key ++ .call (.submit s) :: late := by
  simp [leading]

section
variable {stage : Stage} {items : List Item} {left : Bool} {journal : List Entry}
  {moments before after : Transcript} {m : Moment}

theorem struckCut {e : Error} (place : candidates stage = items)
    (belong : ∀ item ∈ items, item.Belongs stage)
    (failed : Submitted items (Tally.empty stage) false ⟨.error e, left, journal, moments⟩)
    (split : moments = before ++ m :: after) (quiet : before.Quiet) (cancels : m.cancels = true) :
    after.calls = [] ∧ Struck (α := Tally) candidates (Step.submitting stage).next before m
      ⟨.error (.ofError (.submitting stage) e), left, opened stage items.length ++ journal,
        moments⟩ := by
  have reach := submittedReaches failed rfl split quiet
  cases reach with
  | @mk earlier item later reached front back _ _ _ found asked reported own met =>
    change reached.stage = stage at own
    subst own
    have header := (leadingCalls reached.stage items.length front item.key).trans asked
    cases met with
    | interrupted => exact ⟨rfl, .between rfl header⟩
    | @failed s reply _ _ lines work error =>
      have own := belong item (by rw [found]; simp) s work
      have asks : (Moment.submission s reply).call? = some (.submit s) := rfl
      rw [leadingCall]
      refine ⟨rfl, .during rfl header (Journal.callsLines lines) .aborted ?_⟩
      rw [← own]
      exact .failed asks error (Journal.silentLines lines)
    | @judged s answer requested _ _ late _ lines work rest =>
      have requested : requested = true := cancels
      subst requested
      -- An error after an answer can only come from a candidate that is left.
      rcases submittedBarred rest with ⟨_, same⟩ | ⟨more, stops, silent, ceased⟩
      · cases same
      · obtain ⟨next, last, rfl⟩ := List.exists_cons_of_ne_nil more
        cases stops
        have own := belong item (by rw [found]; simp) s work
        rw [leadingCall, ← own]
        rw [← own] at header place reported
        have told' := (leadingKeys s.stage items.length front item.key).trans reported
        have tail := answered lines s.stage item.key answer.verdict late
        rw [silent.calls, silent.reports, silent.completions] at tail
        exact ⟨ceased, .during rfl header tail.1 .aborted
          (.amid (place.trans found) work told' tail.2.1 tail.2.2)⟩

theorem struckComplete {tally : Tally} (place : candidates stage = items)
    (belong : ∀ item ∈ items, item.Belongs stage)
    (went : Submitted items (Tally.empty stage) false ⟨.ok tally, left, journal, moments⟩)
    (split : moments = before ++ m :: after) (quiet : before.Quiet) (cancels : m.cancels = true) :
    after.calls = [] ∧ Struck candidates (Step.submitting stage).next before m
      ⟨.ok tally, left, opened stage items.length ++ (journal ++ closed tally), moments⟩ := by
  have reach := submittedReaches went rfl split quiet
  cases reach with
  | @mk earlier item later reached front back _ _ _ found asked reported own met =>
    change reached.stage = stage at own
    subst own
    have header := (leadingCalls reached.stage items.length front item.key).trans asked
    cases met with
    | @judged s answer requested _ _ late _ lines work rest =>
      have requested : requested = true := cancels
      subst requested
      -- A stage whose token is cancelled completes only if no candidate is left.
      rcases submittedBarred rest with ⟨rfl, same⟩ | ⟨_, stops, _⟩
      · cases same
        have own := belong item (by rw [found]; simp) s work
        have shape (tally : Tally) :
            lines.map .line ++ (told s.stage item.key answer.verdict ++ []) ++ closed tally =
              lines.map .line ++ (told s.stage item.key answer.verdict ++ closed tally) := by
          simp
        rw [List.append_assoc, List.cons_append, List.cons_append, leadingCall, ← own, shape]
        rw [← own] at header place reported
        have told' := (leadingKeys s.stage items.length front item.key).trans reported
        have tail := answered lines s.stage item.key answer.verdict
          (closed (reached.note item.key answer.verdict))
        exact ⟨rfl, .during rfl header tail.1 .passed
          (.last (place.trans found) work told' tail.2.1 tail.2.2
            ((Tally.noteStage _ _ _).trans own.symm))⟩
      · nomatch stops

theorem heedsSubmit {account : Account Abort Tally} (place : candidates stage = items)
    (belong : ∀ item ∈ items, item.Belongs stage)
    (went : AtStep (.submitting stage) (Seeded stage items) token account) :
    Heeds candidates (.submitting stage) (Step.submitting stage).next token account := by
  cases went with
  | failed went =>
    cases went with
    | barred stopped => exact heedsBarred stopped
    | begun went =>
      refine ⟨nofun, fun _ _ => nofun, fun _ before m after split quiet cancels => ?_⟩
      cases went with
      | cut failed => exact struckCut place belong failed split quiet cancels
  | came went =>
    cases went with
    | begun went =>
      cases went with
      | complete went =>
        refine ⟨nofun, fun _ quiet _ _ => submittedUntouched went rfl quiet _ rfl, ?_⟩
        intro _ before m after split quiet cancels
        exact struckComplete place belong went split quiet cancels

end
end Course
end RegistrySeeding
