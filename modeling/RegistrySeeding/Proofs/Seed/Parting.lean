import RegistrySeeding.Proofs.Seed.EventStream
import RegistrySeeding.Proofs.Seed.Likeness

/-! Two runs that go together up to a call and part there. What was done before the call is the same
in both, and so are the tallies of the stages that were over by then. -/
namespace RegistrySeeding
open Journal (deeds deedsAppend deedsLines)
variable {σ ε α β : Type} {strict : Prop} {call : Call}

inductive Matches (strict : Prop) : Except ε α → Except ε α → Prop where
  | came (x : α) : Matches strict (.ok x) (.ok x)
  | failed {e e' : ε} (same : strict → e = e') : Matches strict (.error e) (.error e')

theorem Matches.self (result : Except ε α) : Matches strict result result := by
  cases result with
  | ok x => exact .came x
  | error e => exact .failed fun _ => rfl

theorem Matches.weaken {stricter : Prop} {left right : Except ε α} (same : Matches strict left right)
    (less : stricter → strict) : Matches stricter left right := by
  cases same with
  | came x => exact .came x
  | failed same => exact .failed fun holds => same (less holds)

theorem Matches.mapError {ε' : Type} {left right : Except ε α} (f : ε → ε')
    (same : Matches strict left right) : Matches strict (left.mapError f) (right.mapError f) := by
  cases same with
  | came x => exact .came x
  | failed same => exact .failed fun holds => congrArg f (same holds)

theorem Matches.either {left right : Except ε α} (same : Matches strict left right) :
    (∃ e e', left = .error e ∧ right = .error e' ∧ (strict → e = e')) ∨
      ∃ x, left = .ok x ∧ right = .ok x := by
  cases same with
  | came x => exact .inr ⟨x, rfl, rfl⟩
  | failed same => exact .inl ⟨_, _, rfl, rfl, same⟩

structure Passage.Together (strict : Prop) (left right : Passage σ ε α) : Prop where
  result : Matches strict left.result right.result
  cancelled : left.cancelled = right.cancelled
  deeds : deeds left.journal = deeds right.journal
  world : left.world = right.world

inductive Passage.Parts (strict : Prop) (call : Call) (left right : Passage σ ε α) : Prop where
  | short {e : ε} (together : Together strict left right) (failed : left.result = .error e)
  | called {common rest rest' : List Entry} (one : deeds left.journal = common ++ .call call :: rest)
      (other : deeds right.journal = common ++ .call call :: rest')

def Exchange.Together (strict : Prop) (left right : σ → Exchange σ α) : Prop :=
  ∀ w, ∃ result result', (left w).reply = .answered result false ∧
    (right w).reply = .answered result' false ∧ Matches strict result result' ∧
    (left w).world = (right w).world

namespace Activity
variable {interrupts : Interrupts σ}

def Together (strict : Prop) (left right : Activity σ ε α) : Prop :=
  ∀ token w, Passage.Together strict (left token w) (right token w)

def Parts (strict : Prop) (call : Call) (left right : Activity σ ε α) : Prop :=
  ∀ token w, Passage.Parts strict call (left token w) (right token w)

theorem togetherSelf (work : Activity σ ε α) : Together strict work work :=
  fun _ _ => ⟨.self _, rfl, rfl, rfl⟩

theorem togetherBind {left right : Activity σ ε α} {next : α → Activity σ ε β}
    (first : Together strict left right) : Together strict (left >>= next) (right >>= next) := by
  intro token w
  obtain ⟨result, same, done, world⟩ := first token w
  rcases result.either with ⟨e, e', failed, failed', equal⟩ | ⟨x, came, came'⟩
  · rw [andThenFailed failed, andThenFailed failed']
    exact ⟨.failed equal, same, done, world⟩
  · rw [andThenCame came, andThenCame came', same, world]
    exact ⟨.self _, rfl, by simp only [deedsAppend, done], rfl⟩

theorem togetherMapFailure {ε' : Type} (f : ε → ε') {left right : Activity σ ε α}
    (inner : Together strict left right) :
    Together strict (mapFailure f left) (mapFailure f right) := by
  intro token w
  obtain ⟨result, same, done, world⟩ := inner token w
  exact ⟨result.mapError f, same, done, world⟩

theorem togetherAtStep (step : Step) {left right : Activity σ Error α}
    (inner : Together strict left right) :
    Together strict (atStep interrupts step left) (atStep interrupts step right) := by
  refine togetherMapFailure _ fun token w => ?_
  unfold unlessCancelled
  dsimp only
  split
  · exact ⟨.self _, rfl, rfl, rfl⟩
  · exact inner false _

theorem togetherPerform (call : Call) {left right : σ → Exchange σ α}
    (same : Exchange.Together strict left right) :
    Together strict (perform call left) (perform call right) := by
  intro token w
  obtain ⟨result, result', one, other, matched, world⟩ := same w
  have done (lines : List Line) : deeds (.call call :: lines.map .line) = [.call call] :=
    congrArg (_ :: ·) (deedsLines lines)
  simp only [perform, one, other]
  exact ⟨matched, rfl, by rw [done, done], world⟩

theorem partsPerform (step : Step) (call : Call) (left right : σ → Exchange σ α) :
    Parts strict call (atStep interrupts step (perform call left))
      (atStep interrupts step (perform call right)) := by
  intro token w
  unfold atStep mapFailure unlessCancelled
  dsimp only
  split
  · exact .short ⟨.self _, rfl, rfl, rfl⟩ rfl
  · have made (exchange : σ → Exchange σ α) (w : σ) :
        deeds (perform call exchange false w).journal = [] ++ .call call :: [] := by
      have journal : (perform call exchange false w).journal =
          .call call :: (exchange w).lines.map .line := by
        unfold perform
        dsimp only
        split <;> rfl
      rw [journal]
      exact congrArg (_ :: ·) (deedsLines _)
    exact .called (made left _) (made right _)

theorem partsMapFailure {ε' : Type} (f : ε → ε') {left right : Activity σ ε α}
    (inner : Parts strict call left right) :
    Parts strict call (mapFailure f left) (mapFailure f right) := by
  intro token w
  cases inner token w with
  | short together failed =>
    obtain ⟨result, same, done, world⟩ := together
    exact .short ⟨result.mapError f, same, done, world⟩ (congrArg (Except.mapError f) failed)
  | called one other => exact .called one other

theorem partsBind {left right : Activity σ ε α} {next next' : α → Activity σ ε β}
    (first : Parts strict call left right) :
    Parts strict call (left >>= next) (right >>= next') := by
  intro token w
  have grown (work : Activity σ ε α) (next : α → Activity σ ε β) :
      ∃ more, deeds ((work >>= next) token w).journal = deeds (work token w).journal ++ more := by
    cases came : (work token w).result with
    | error e => exact ⟨[], by rw [andThenFailed came, List.append_nil]⟩
    | ok x => exact ⟨_, by rw [andThenCame came, deedsAppend]⟩
  cases first token w with
  | short together failed =>
    obtain ⟨result, same, done, world⟩ := together
    rcases result.either with ⟨e, e', failed, failed', equal⟩ | ⟨x, came, _⟩
    · rw [andThenFailed failed, andThenFailed failed']
      exact .short ⟨.failed equal, same, done, world⟩ rfl
    · cases failed.symm.trans came
  | called one other =>
    obtain ⟨more, left⟩ := grown left next
    obtain ⟨more', right⟩ := grown right next'
    rw [one, List.append_assoc] at left
    rw [other, List.append_assoc] at right
    exact .called left right

theorem partsAfter {left right : Activity σ ε α} {next next' : α → Activity σ ε β}
    (first : Together strict left right) (second : ∀ x, Parts strict call (next x) (next' x)) :
    Parts strict call (left >>= next) (right >>= next') := by
  intro token w
  obtain ⟨result, same, done, world⟩ := first token w
  rcases result.either with ⟨e, e', failed, failed', equal⟩ | ⟨x, came, came'⟩
  · rw [andThenFailed failed, andThenFailed failed']
    exact .short ⟨.failed equal, same, done, world⟩ rfl
  · rw [andThenCame came, andThenCame came', same, world]
    cases second x (right token w).cancelled (right token w).world with
    | short together failed =>
      obtain ⟨result, later, more, left⟩ := together
      exact .short ⟨result, later, by simp only [deedsAppend, done, more], left⟩ failed
    | called one other =>
      exact .called (by rw [deedsAppend, one, done, ← List.append_assoc])
        (by rw [deedsAppend, other, ← List.append_assoc])

end Activity

def Journal.callsBefore (call : Call) (journal : List Entry) : List Call :=
  (calls journal).takeWhile (· ≠ call)

theorem Journal.takeBefore (call : Call) (common rest rest' : List Call) :
    (common ++ call :: rest).takeWhile (· ≠ call) =
      (common ++ call :: rest').takeWhile (· ≠ call) := by
  induction common with
  | nil => simp
  | cons head tail ih =>
    rw [List.cons_append, List.cons_append, List.takeWhile_cons, List.takeWhile_cons, ih]

theorem Outcome.stageInOrder {o : Outcome} (ordered : o.stages.map (·.stage) <+: Stage.all) :
    o.stage? .chains = o.stages[0]? ∧ o.stage? .assets = o.stages[1]? := by
  obtain ⟨rest, whole⟩ := ordered
  unfold stage?
  match same : o.stages with
  | [] => exact ⟨rfl, rfl⟩
  | [a] =>
    rw [same] at whole
    have first : a.stage = .chains := (List.cons.inj whole).1
    simp [first]
  | a :: b :: tail =>
    rw [same] at whole
    have first : a.stage = .chains := (List.cons.inj whole).1
    have second : b.stage = .assets := (List.cons.inj (List.cons.inj whole).2).1
    simp [first, second]

namespace Run
open Activity
variable {source source' : Source σ} {registry : Registry σ} {interrupts : Interrupts σ}

def kept : Except Cut (List Tally) → List Tally
  | .ok tallies => tallies
  | .error cut => cut.stages

theorem outcomeKept (stamp : Stamp) (result : Except Cut (List Tally)) :
    (outcomeOf stamp result).stages = kept result := by
  cases result <;> rfl

section
variable {first : List Tally} {count : Nat} {stage stage' : Activity σ Abort Tally}
  {next next' : Tally → Activity σ Cut (List Tally)}

theorem keptFirst (later : ∀ x token w, first <+: kept (next x token w).result) (token : Bool)
    (w : σ) : first <+: kept ((mapFailure (Cut.mk first) stage >>= next) token w).result := by
  cases came : (mapFailure (Cut.mk first) stage token w).result with
  | ok x =>
    rw [andThenCame came]
    exact later x _ _
  | error cut =>
    rw [andThenFailed came]
    simp only [mapFailure] at came
    cases own : (stage token w).result with
    | ok x => rw [own] at came; cases came
    | error e =>
      rw [own] at came
      cases came
      exact List.prefix_rfl

theorem keptAfter (together : Together strict stage stage')
    (later : ∀ x token w, (kept (next x token w).result).take count =
      (kept (next' x token w).result).take count) (token : Bool) (w : σ) :
    (kept ((mapFailure (Cut.mk first) stage >>= next) token w).result).take count =
      (kept ((mapFailure (Cut.mk first) stage' >>= next') token w).result).take count := by
  obtain ⟨result, same, _, world⟩ := togetherMapFailure (Cut.mk first) together token w
  rcases result.either with ⟨cut, cut', failed, failed', _⟩ | ⟨x, came, came'⟩
  · rw [andThenFailed failed, andThenFailed failed']
    have own {stage : Activity σ Abort Tally} {cut : Cut}
        (failed : (mapFailure (Cut.mk first) stage token w).result = .error cut) :
        cut.stages = first := by
      simp only [mapFailure] at failed
      cases came : (stage token w).result with
      | ok x => rw [came] at failed; cases failed
      | error e => rw [came] at failed; cases failed; rfl
    change cut.stages.take count = cut'.stages.take count
    rw [own failed, own failed']
  · rw [andThenCame came, andThenCame came', same, world]
    exact later x _ _

end

theorem takePrefix {first tallies : List Tally} (starts : first <+: tallies) :
    tallies.take first.length = first :=
  (List.prefix_iff_eq_take.mp starts).symm

theorem keptOnce (source : Source σ) (registry : Registry σ) (interrupts : Interrupts σ)
    (first second : Tally) (token : Bool) (w : σ) :
    [first, second] <+: kept ((mapFailure (Cut.mk [first, second])
      (deployments source registry interrupts) >>= fun third => pure [first, second, third])
        token w).result :=
  keptFirst (fun _ _ _ => List.prefix_append [first, second] _) token w

theorem keptChains (together : Together strict (chains source registry interrupts)
      (chains source' registry interrupts)) (token : Bool) (w : σ) :
    (kept (stages source registry interrupts token w).result).take 1 =
      (kept (stages source' registry interrupts token w).result).take 1 := by
  refine keptAfter together (fun first token w => ?_) token w
  have starts (source : Source σ) : [first] <+: kept ((mapFailure (Cut.mk [first])
      (assets source registry interrupts) >>= fun second =>
        mapFailure (Cut.mk [first, second]) (deployments source registry interrupts) >>=
          fun third => pure [first, second, third]) token w).result :=
    keptFirst (fun second token w => (List.prefix_append [first] [second]).trans
      (keptOnce source registry interrupts first second token w)) token w
  exact (takePrefix (starts source)).trans (takePrefix (starts source')).symm

theorem keptAssets (together : Together strict (chains source registry interrupts)
      (chains source' registry interrupts))
    (again : Together strict (assets source registry interrupts)
      (assets source' registry interrupts)) (token : Bool) (w : σ) :
    (kept (stages source registry interrupts token w).result).take 2 =
      (kept (stages source' registry interrupts token w).result).take 2 := by
  refine keptAfter together (fun first => keptAfter again fun second token w => ?_) token w
  exact (takePrefix (keptOnce source registry interrupts first second token w)).trans
    (takePrefix (keptOnce source' registry interrupts first second token w)).symm

theorem seedOrdered (stamp : Stamp) (source : Source σ) (registry : Registry σ)
    (interrupts : Interrupts σ) (token : Bool) (w : σ) :
    (seed stamp source registry interrupts token w).outcome.stages.map (·.stage) <+:
      Stage.all := by
  cases failed : (seed stamp source registry interrupts token w).outcome.fatal with
  | none =>
    have whole := (stagesReported stamp source registry interrupts token w).2 failed
    exact whole ▸ List.prefix_rfl
  | some f =>
    rw [(seedKept stamp source registry interrupts token w failed).2]
    exact f.step.completedPrefix

inductive Finished.PartsAt (strict : Prop) (call : Call) (stamp stamp' : Stamp)
    (one other : Finished σ) : Prop where
  | short {told : List Entry}
      (left : deeds one.journal = .event (.runStart stamp.runId) ::
        (told ++ [.event (.runComplete one.outcome)]))
      (right : deeds other.journal = .event (.runStart stamp'.runId) ::
        (told ++ [.event (.runComplete other.outcome)]))
      (stages : one.outcome.stages = other.outcome.stages)
      (cut : one.outcome.fatal.isSome ∧ other.outcome.fatal.isSome)
      (same : strict → one.outcome.fatal = other.outcome.fatal)
  | called {common rest rest' : List Entry}
      (left : deeds one.journal = .event (.runStart stamp.runId) ::
        (common ++ .call call :: rest))
      (right : deeds other.journal = .event (.runStart stamp'.runId) ::
        (common ++ .call call :: rest'))

theorem seedParts (stamp stamp' : Stamp) (parts : Parts strict call
      (stages source registry interrupts) (stages source' registry interrupts))
    (token : Bool) (w : σ) :
    Finished.PartsAt strict call stamp stamp' (seed stamp source registry interrupts token w)
      (seed stamp' source' registry interrupts token w) := by
  have spoken (stamp : Stamp) (source : Source σ) :=
    seedDeeds stamp source registry interrupts token w
  cases parts token w with
  | @short cut together failed =>
    obtain ⟨result, _, done, _⟩ := together
    rcases result.either with ⟨e, e', failed, failed', same⟩ | ⟨x, came, _⟩
    · have tallies : Journal.completions
            (stages source registry interrupts token w).journal =
          Journal.completions (stages source' registry interrupts token w).journal := by
        have viewed := congrArg (List.filterMap Entry.completion?) done
        rwa [Journal.viewOfDeeds fun _ => rfl, Journal.viewOfDeeds fun _ => rfl] at viewed
      have own (stamp : Stamp) (source : Source σ) :
          (seed stamp source registry interrupts token w).outcome.stages =
            Journal.completions (stages source registry interrupts token w).journal := by
        obtain ⟨opening, closing, first, last, journal⟩ :=
          seedJournal stamp source registry interrupts token w
        rw [(stagesReported stamp source registry interrupts token w).1, journal,
          Journal.completionsAppend, Journal.completionsAppend, first.completions,
          last.completions, List.append_nil]
        rfl
      refine .short (spoken stamp source) (done ▸ spoken stamp' source') ?_ ?_ fun holds => ?_
      · rw [own, own, tallies]
      · simp [seed, failed, failed', outcomeOf]
      · simp [seed, failed, failed', outcomeOf, same holds]
    · cases failed.symm.trans came
  | @called common rest rest' one other =>
    have grown {whole rest last : List Entry} (split : whole = common ++ .call call :: rest) :
        whole ++ last = common ++ .call call :: (rest ++ last) := by
      rw [split, List.append_assoc]
      rfl
    exact .called ((spoken stamp source).trans (congrArg _ (grown one)))
      ((spoken stamp' source').trans (congrArg _ (grown other)))

theorem Finished.PartsAt.callsBefore {stamp stamp' : Stamp} {one other : Finished σ}
    (parts : Finished.PartsAt strict call stamp stamp' one other) :
    Journal.callsBefore call one.journal = Journal.callsBefore call other.journal := by
  have viewed (journal : List Entry) : Journal.calls (deeds journal) = Journal.calls journal :=
    Journal.viewOfDeeds (fun _ => rfl) journal
  unfold Journal.callsBefore
  cases parts with
  | short left right =>
    rw [← viewed one.journal, ← viewed other.journal, left, right]
    simp only [Journal.callsEvent, Journal.callsAppend]
  | called left right =>
    rw [← viewed one.journal, ← viewed other.journal, left, right]
    simp only [Journal.callsEvent, Journal.callsAppend, Journal.callsCall]
    exact Journal.takeBefore call _ _ _

section
variable {token : Bool} {w : σ}

theorem chainsKept (stamp stamp' : Stamp)
    (kept : (kept (stages source registry interrupts token w).result).take 1 =
      (kept (stages source' registry interrupts token w).result).take 1) :
    (seed stamp source registry interrupts token w).outcome.stage? .chains =
      (seed stamp' source' registry interrupts token w).outcome.stage? .chains := by
  have first := congrArg (·[0]?) kept
  simp only [List.getElem?_take, Nat.zero_lt_one, if_true] at first
  rw [(Outcome.stageInOrder (seedOrdered stamp source registry interrupts token w)).1,
    (Outcome.stageInOrder (seedOrdered stamp' source' registry interrupts token w)).1]
  simpa only [seed, outcomeKept] using first

theorem assetsKept (stamp stamp' : Stamp)
    (kept : (kept (stages source registry interrupts token w).result).take 2 =
      (kept (stages source' registry interrupts token w).result).take 2) :
    (seed stamp source registry interrupts token w).outcome.stage? .chains =
      (seed stamp' source' registry interrupts token w).outcome.stage? .chains ∧
    (seed stamp source registry interrupts token w).outcome.stage? .assets =
      (seed stamp' source' registry interrupts token w).outcome.stage? .assets := by
  have fewer := congrArg (List.take 1) kept
  rw [List.take_take, List.take_take] at fewer
  refine ⟨chainsKept stamp stamp' fewer, ?_⟩
  have second := congrArg (·[1]?) kept
  simp only [List.getElem?_take, Nat.one_lt_two, if_true] at second
  rw [(Outcome.stageInOrder (seedOrdered stamp source registry interrupts token w)).2,
    (Outcome.stageInOrder (seedOrdered stamp' source' registry interrupts token w)).2]
  simpa only [seed, outcomeKept] using second

end

end Run
end RegistrySeeding
