import RegistrySeeding.Proofs.Seed.Journal

/-! From the operators of an activity to whole runs. A relation between activities that holds of
every line and event, and is kept by every operator, holds of two runs as soon as it holds of what
they ask for. -/
namespace RegistrySeeding
variable {σ τ : Type}

def Line.failsToCreate (l : Line) : Bool :=
  l.level = .warn && "Failed to create ".toList.isPrefixOf l.message.toList

theorem Index.duplicatesPlain (index : Index) (listing : List RegisteredAsset) :
    ∀ l ∈ (index.extend listing).2, l.failsToCreate = false := by
  induction listing generalizing index with
  | nil => nofun
  | cons asset rest ih =>
    intro l inside
    rcases List.mem_append.mp inside with own | later
    · split at own
      · rw [List.mem_singleton.mp own]
        simp [Line.failsToCreate, Index.duplicateLine]
        rfl
      · nomatch own
    · exact ih _ l later

namespace Activity

section
variable {ε α β : Type}

theorem andThenFailed {work : Activity σ ε α} {next : α → Activity σ ε β} {token : Bool} {w : σ}
    {e : ε} (failed : (work token w).result = .error e) : (work >>= next) token w =
      ⟨.error e, (work token w).cancelled, (work token w).journal, (work token w).world⟩ := by
  change andThen work next token w = _
  simp only [andThen, failed]

theorem andThenCame {work : Activity σ ε α} {next : α → Activity σ ε β} {token : Bool} {w : σ}
    {x : α} (came : (work token w).result = .ok x) : (work >>= next) token w =
      let q := next x (work token w).cancelled (work token w).world
      ⟨q.result, q.cancelled, (work token w).journal ++ q.journal, q.world⟩ := by
  change andThen work next token w = _
  simp only [andThen, came]

end

-- The line and the event of a verdict are one step: a relation may hold of both and of neither.
structure Lifting (R : (ε α : Type) → Activity σ ε α → Activity τ ε α → Prop)
    (interrupts : Interrupts σ) (interrupts' : Interrupts τ) : Prop where
  value {ε α : Type} (x : α) : R ε α (pure x) (pure x)
  line {ε : Type} (l : Line) (plain : l.failsToCreate = false) : R ε Unit (log l) (log l)
  lines {ε : Type} (ls : List Line) (plain : ∀ l ∈ ls, l.failsToCreate = false) :
    R ε Unit (logAll ls) (logAll ls)
  event {ε : Type} (e : Event) (plain : Entry.report? (.event e) = none) :
    R ε Unit (announce e) (announce e)
  verdict {ε : Type} (stage : Stage) (key : String) (v : Verdict) :
    R ε Unit (log (stage.verdictLine key v) >>= fun _ => announce (.item stage key v))
      (log (stage.verdictLine key v) >>= fun _ => announce (.item stage key v))
  next {ε α β : Type} {first : Activity σ ε α} {first' : Activity τ ε α}
    {later : α → Activity σ ε β} {later' : α → Activity τ ε β} (one : R ε α first first')
    (other : ∀ x, R ε β (later x) (later' x)) : R ε β (first >>= later) (first' >>= later')
  renamed {ε ε' α : Type} (f : ε → ε') {work : Activity σ ε α} {work' : Activity τ ε α}
    (inner : R ε α work work') : R ε' α (mapFailure f work) (mapFailure f work')
  guarded {α : Type} {work : Activity σ Error α} {work' : Activity τ Error α}
    (inner : R Error α work work') :
    R Error α (unlessCancelled interrupts work) (unlessCancelled interrupts' work')

namespace Lifting
variable {R : (ε α : Type) → Activity σ ε α → Activity τ ε α → Prop} {interrupts : Interrupts σ}
  {interrupts' : Interrupts τ} (lifting : Lifting R interrupts interrupts')
  {registry : Registry σ} {registry' : Registry τ} {source : Source σ} {source' : Source τ}
include lifting

theorem atStep (step : Step) {α : Type} {work : Activity σ Error α} {work' : Activity τ Error α}
    (inner : R Error α work work') :
    R Abort α (Activity.atStep interrupts step work) (Activity.atStep interrupts' step work') :=
  lifting.renamed _ (lifting.guarded inner)

section
variable (submits : ∀ s, R Error Verdict (Stage.judge registry (.ok s))
  (Stage.judge registry' (.ok s)))
include submits

theorem judge (work : Except String Submission) :
    R Error Verdict (Stage.judge registry work) (Stage.judge registry' work) := by
  cases work with
  | error reason => exact lifting.value _
  | ok s => exact submits s

theorem submitAll (items : List Item) (tally : Tally) :
    R Error Tally (Stage.submitAll registry interrupts items tally)
      (Stage.submitAll registry' interrupts' items tally) := by
  induction items generalizing tally with
  | nil => exact lifting.value _
  | cons item rest ih =>
    refine lifting.next (lifting.line _ rfl) fun _ => ?_
    refine lifting.next (lifting.guarded (lifting.judge submits _)) fun verdict => ?_
    have told := lifting.next (lifting.verdict tally.stage item.key verdict) fun _ =>
      ih (tally.note item.key verdict)
    simpa only [bind_assoc] using told

theorem seed (stage : Stage) (items : List Item) :
    R Error Tally (Stage.seed registry interrupts stage items)
      (Stage.seed registry' interrupts' stage items) := by
  refine lifting.next (lifting.line _ rfl) fun _ => lifting.next (lifting.event _ rfl) fun _ => ?_
  refine lifting.next (lifting.submitAll submits items _) fun tally => ?_
  refine lifting.next (lifting.line _ rfl) fun _ => lifting.next (lifting.event _ rfl) fun _ => ?_
  exact lifting.value _

end

theorem index (lists : R Error (List RegisteredAsset) (perform .list registry.list)
    (perform .list registry'.list)) : R Error Index registry.index registry'.index := by
  refine lifting.next lists fun listing => ?_
  refine lifting.next (lifting.lines _ (Index.duplicatesPlain _ listing)) fun _ => ?_
  exact lifting.next (lifting.line _ rfl) fun _ => lifting.value _

theorem stages
    (chains : R Error (List Chain) (perform (.load .chains) source.chains)
      (perform (.load .chains) source'.chains))
    (assets : R Error (List Asset) (perform (.load .assets) source.assets)
      (perform (.load .assets) source'.assets))
    (deployments : R Error (List Deployment) (perform (.load .deployments) source.deployments)
      (perform (.load .deployments) source'.deployments))
    (submits : ∀ s, R Error Verdict (Stage.judge registry (.ok s)) (Stage.judge registry' (.ok s)))
    (lists : R Error (List RegisteredAsset) (perform .list registry.list)
      (perform .list registry'.list)) :
    R Run.Cut (List Tally) (Run.stages source registry interrupts)
      (Run.stages source' registry' interrupts') := by
  have first : R Abort Tally (Run.chains source registry interrupts)
      (Run.chains source' registry' interrupts') :=
    lifting.next (lifting.atStep _ chains) fun _ => lifting.atStep _ (lifting.seed submits _ _)
  have second : R Abort Tally (Run.assets source registry interrupts)
      (Run.assets source' registry' interrupts') :=
    lifting.next (lifting.atStep _ assets) fun _ => lifting.atStep _ (lifting.seed submits _ _)
  have third : R Abort Tally (Run.deployments source registry interrupts)
      (Run.deployments source' registry' interrupts') :=
    lifting.next (lifting.atStep _ (lifting.index lists)) fun _ =>
      lifting.next (lifting.atStep _ deployments) fun _ =>
        lifting.atStep _ (lifting.seed submits _ _)
  exact lifting.next (lifting.renamed _ first) fun _ => lifting.next (lifting.renamed _ second)
    fun _ => lifting.next (lifting.renamed _ third) fun _ => lifting.value _

end Lifting
end Activity
end RegistrySeeding
