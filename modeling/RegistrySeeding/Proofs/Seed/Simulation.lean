import RegistrySeeding.Proofs.Seed.Lifting

/-! One run in two worlds. Where the registries, the sources and the interrupts answer alike from
related worlds, so do the runs. What a registry answers to a submission matters by its verdict
only: neither identifiers nor the details of a conflict are looked at. -/
namespace RegistrySeeding
variable {σ τ : Type} {R : σ → τ → Prop}

def Reply.map {α β : Type} (f : α → β) : Reply α → Reply β
  | .answered result cancelled => .answered (result.map f) cancelled
  | .abandoned => .abandoned

/-- From related worlds both reply the same as far as `f` tells, and leave related worlds. -/
def Exchange.Similar {α β : Type} (R : σ → τ → Prop) (f : α → β) (left : σ → Exchange σ α)
    (right : τ → Exchange τ α) : Prop :=
  ∀ w v, R w v → (left w).reply.map f = (right v).reply.map f ∧ (left w).lines = (right v).lines ∧
    R (left w).world (right v).world

structure Passage.Similar {ε α : Type} (R : σ → τ → Prop) (left : Passage σ ε α)
    (right : Passage τ ε α) : Prop where
  result : left.result = right.result
  cancelled : left.cancelled = right.cancelled
  journal : left.journal = right.journal
  world : R left.world right.world

namespace Activity
variable {ε α β : Type}

def Similar (R : σ → τ → Prop) (left : Activity σ ε α) (right : Activity τ ε α) : Prop :=
  ∀ cancelled w v, R w v → Passage.Similar R (left cancelled w) (right cancelled v)

theorem similarPure (x : α) : Similar R (pure x : Activity σ ε α) (pure x) :=
  fun _ _ _ related => ⟨rfl, rfl, rfl, related⟩

theorem similarLog (line : Line) : Similar R (log line : Activity σ ε Unit) (log line) :=
  fun _ _ _ related => ⟨rfl, rfl, rfl, related⟩

theorem similarLogAll (lines : List Line) :
    Similar R (logAll lines : Activity σ ε Unit) (logAll lines) :=
  fun _ _ _ related => ⟨rfl, rfl, rfl, related⟩

theorem similarAnnounce (event : Event) :
    Similar R (announce event : Activity σ ε Unit) (announce event) :=
  fun _ _ _ related => ⟨rfl, rfl, rfl, related⟩

theorem similarBind {left : Activity σ ε α} {right : Activity τ ε α} {next : α → Activity σ ε β}
    {next' : α → Activity τ ε β} (first : Similar R left right)
    (second : ∀ x, Similar R (next x) (next' x)) : Similar R (left >>= next) (right >>= next') := by
  intro cancelled w v related
  obtain ⟨result, token, journal, worlds⟩ := first cancelled w v related
  change Passage.Similar R (andThen left next cancelled w) (andThen right next' cancelled v)
  simp only [andThen, result, token, journal]
  cases (right cancelled v).result with
  | error e => exact ⟨rfl, rfl, rfl, worlds⟩
  | ok x =>
    have later := second x (right cancelled v).cancelled _ _ worlds
    exact ⟨later.result, later.cancelled, congrArg _ later.journal, later.world⟩

theorem similarMapFailure {ε' : Type} {left : Activity σ ε α} {right : Activity τ ε α} (f : ε → ε')
    (inner : Similar R left right) : Similar R (mapFailure f left) (mapFailure f right) := by
  intro cancelled w v related
  have same := inner cancelled w v related
  exact ⟨congrArg (Except.mapError f) same.result, same.cancelled, same.journal, same.world⟩

theorem similarPerform (call : Call) (f : α → β) {left : σ → Exchange σ α}
    {right : τ → Exchange τ α} (same : Exchange.Similar R f left right) :
    Similar R (perform call left >>= fun x => pure (f x))
      (perform call right >>= fun x => pure (f x)) := by
  intro cancelled w v related
  obtain ⟨reply, lines, worlds⟩ := same w v related
  change Passage.Similar R (andThen (perform call left) (fun x => done (f x)) cancelled w)
    (andThen (perform call right) (fun x => done (f x)) cancelled v)
  simp only [andThen, perform, lines]
  revert reply
  cases (left w).reply with
  | abandoned =>
    cases (right v).reply with
    | abandoned => exact fun _ => ⟨rfl, rfl, rfl, worlds⟩
    | answered => intro reply; cases reply
  | answered result requested =>
    cases (right v).reply with
    | abandoned => intro reply; cases reply
    | answered result' requested' =>
      intro reply
      simp only [Reply.map, Reply.answered.injEq] at reply
      obtain ⟨results, rfl⟩ := reply
      cases result <;> cases result' <;> simp only [Except.map, reduceCtorEq, Except.error.injEq,
        Except.ok.injEq] at results
      · exact ⟨congrArg _ results, rfl, rfl, worlds⟩
      · exact ⟨congrArg _ results, rfl, rfl, worlds⟩

theorem similarCall (call : Call) {left : σ → Exchange σ α} {right : τ → Exchange τ α}
    (same : Exchange.Similar R id left right) :
    Similar R (perform call left) (perform call right) := by
  have through := similarPerform call id same
  simp only [id_eq, bind_pure] at through
  exact through

end Activity

structure Registry.Similar (R : σ → τ → Prop) (left : Registry σ) (right : Registry τ) : Prop where
  submit (s : Submission) : Exchange.Similar R Answer.verdict (left.submit s) (right.submit s)
  list : Exchange.Similar R id left.list right.list

structure Source.Similar (R : σ → τ → Prop) (left : Source σ) (right : Source τ) : Prop where
  chains : Exchange.Similar R id left.chains right.chains
  assets : Exchange.Similar R id left.assets right.assets
  deployments : Exchange.Similar R id left.deployments right.deployments

def Interrupts.Similar (R : σ → τ → Prop) (left : Interrupts σ) (right : Interrupts τ) : Prop :=
  ∀ w v, R w v → (left.check w).1 = (right.check v).1 ∧ R (left.check w).2 (right.check v).2

section
variable {source : Source σ} {source' : Source τ} {registry : Registry σ} {registry' : Registry τ}
  {interrupts : Interrupts σ} {interrupts' : Interrupts τ}
open Activity

theorem similarUnlessCancelled {α : Type} {left : Activity σ Error α} {right : Activity τ Error α}
    (checks : Interrupts.Similar R interrupts interrupts') (inner : Activity.Similar R left right) :
    Activity.Similar R (unlessCancelled interrupts left) (unlessCancelled interrupts' right) := by
  intro cancelled w v related
  obtain ⟨same, worlds⟩ := checks w v related
  simp only [unlessCancelled, same]
  split
  · exact ⟨rfl, rfl, rfl, worlds⟩
  · exact inner false _ _ worlds

theorem similarLifting (checks : Interrupts.Similar R interrupts interrupts') :
    Activity.Lifting (fun _ _ => Activity.Similar R) interrupts interrupts' where
  value := similarPure
  line l _ := similarLog l
  lines ls _ := similarLogAll ls
  event e _ := similarAnnounce e
  verdict _ _ _ := similarBind (similarLog _) fun _ => similarAnnounce _
  next := similarBind
  renamed f _ _ := similarMapFailure f
  guarded := similarUnlessCancelled checks

end

namespace Run
variable {source : Source σ} {source' : Source τ} {registry : Registry σ} {registry' : Registry τ}
  {interrupts : Interrupts σ} {interrupts' : Interrupts τ}
open Activity

theorem stagesSimilar (sources : Source.Similar R source source')
    (registries : Registry.Similar R registry registry')
    (checks : Interrupts.Similar R interrupts interrupts') :
    Activity.Similar R (stages source registry interrupts)
      (stages source' registry' interrupts') :=
  (similarLifting checks).stages (similarCall _ sources.chains) (similarCall _ sources.assets)
    (similarCall _ sources.deployments)
    (fun s => similarPerform _ Answer.verdict (registries.submit s))
    (similarCall _ registries.list)

theorem runSimilar (stamp : Stamp) (sources : Source.Similar R source source')
    (registries : Registry.Similar R registry registry')
    (checks : Interrupts.Similar R interrupts interrupts') (cancelled : Bool) {w : σ} {v : τ}
    (related : R w v) :
    (seed stamp source registry interrupts cancelled w).outcome =
      (seed stamp source' registry' interrupts' cancelled v).outcome ∧
    (seed stamp source registry interrupts cancelled w).journal =
      (seed stamp source' registry' interrupts' cancelled v).journal ∧
    R (seed stamp source registry interrupts cancelled w).world
      (seed stamp source' registry' interrupts' cancelled v).world := by
  have same := stagesSimilar sources registries checks cancelled w v related
  refine ⟨?_, ?_, same.world⟩
  · simp only [seed, same.result]
  · simp only [seed, same.result, same.journal]

end Run
end RegistrySeeding
