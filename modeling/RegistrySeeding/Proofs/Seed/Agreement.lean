import RegistrySeeding.Proofs.Seed.Transcript

/-! A run depends on the outside through what it was told. A registry that tells it the same, as far
as the run asked, could stand in for the one it had; `good` says of which moments they agree. -/
namespace RegistrySeeding
variable {σ : Type} {fair : σ → Prop} {good : Moment → Prop}

/-- Fair worlds stay fair, and from them the other exchange stands in for each good moment. -/
def Exchange.Agrees {α : Type} (fair : σ → Prop) (good : Moment → Prop) (moment : Reply α → Moment)
    (real other : σ → Exchange σ α) : Prop :=
  ∀ w, fair w → fair (real w).world ∧ (good (moment (real w).reply) → other w = real w)

structure Registry.Agrees (fair : σ → Prop) (good : Moment → Prop) (real other : Registry σ) :
    Prop where
  submit (s : Submission) :
    Exchange.Agrees fair good (.submission s) (real.submit s) (other.submit s)
  list : Exchange.Agrees fair good .listing real.list other.list

structure Source.Keeps (fair : σ → Prop) (source : Source σ) : Prop where
  chains (w : σ) : fair w → fair (source.chains w).world
  assets (w : σ) : fair w → fair (source.assets w).world
  deployments (w : σ) : fair w → fair (source.deployments w).world

namespace Activity
variable {ε α β : Type}

def Agrees (fair : σ → Prop) (good : Moment → Prop) (real other : Activity (Recorded σ) ε α) :
    Prop :=
  ∀ token r, fair r.world → fair (real token r).world.world ∧
    ∃ moments, (real token r).world.transcript = r.transcript ++ moments ∧
      ((∀ m ∈ moments, good m) → other token r = real token r)

theorem agreesStill {work : Activity (Recorded σ) ε α}
    (still : ∀ token r, (work token r).world = r) : Agrees fair good work work := by
  intro token r begins
  rw [still]
  exact ⟨begins, [], (List.append_nil _).symm, fun _ => rfl⟩

theorem agreesBind {real other : Activity (Recorded σ) ε α}
    {next next' : α → Activity (Recorded σ) ε β} (first : Agrees fair good real other)
    (second : ∀ x, Agrees fair good (next x) (next' x)) :
    Agrees fair good (real >>= next) (other >>= next') := by
  intro token r begins
  obtain ⟨middle, before, grown, same⟩ := first token r begins
  change fair (andThen real next token r).world.world ∧
    ∃ moments, (andThen real next token r).world.transcript = r.transcript ++ moments ∧
      ((∀ m ∈ moments, good m) → andThen other next' token r = andThen real next token r)
  cases came : (real token r).result with
  | error e =>
    have whole : andThen real next token r = ⟨.error e, (real token r).cancelled,
        (real token r).journal, (real token r).world⟩ := by
      simp only [andThen, came]
    rw [whole]
    refine ⟨middle, before, grown, fun all => ?_⟩
    simp only [andThen, same all, came]
  | ok x =>
    obtain ⟨ends, after, later, last⟩ := second x (real token r).cancelled _ middle
    have whole : (andThen real next token r).world =
        (next x (real token r).cancelled (real token r).world).world := by
      simp only [andThen, came]
    refine ⟨whole ▸ ends, before ++ after, ?_, fun all => ?_⟩
    · rw [whole, later, grown, List.append_assoc]
    · have early := same fun m inside => all m (List.mem_append_left _ inside)
      have late := last fun m inside => all m (List.mem_append_right _ inside)
      simp only [andThen, early, came, late]

theorem agreesMapFailure {ε' : Type} {real other : Activity (Recorded σ) ε α} (f : ε → ε')
    (inner : Agrees fair good real other) :
    Agrees fair good (mapFailure f real) (mapFailure f other) := by
  intro token r begins
  obtain ⟨ends, moments, grown, same⟩ := inner token r begins
  refine ⟨ends, moments, grown, fun all => ?_⟩
  simp only [mapFailure, same all]

theorem agreesPerform (call : Call) {moment : Reply α → Moment} {real other : σ → Exchange σ α}
    (agree : Exchange.Agrees fair good moment real other) :
    Agrees fair good (perform call (Exchange.recorded moment real))
      (perform call (Exchange.recorded moment other)) := by
  intro token r begins
  obtain ⟨ends, same⟩ := agree r.world begins
  have left : (perform call (Exchange.recorded moment real) token r).world =
      ⟨(real r.world).world, r.transcript ++ [moment (real r.world).reply]⟩ := by
    simp only [perform, Exchange.recorded]
    cases (real r.world).reply <;> rfl
  rw [left]
  refine ⟨ends, [moment (real r.world).reply], rfl, fun all => ?_⟩
  simp only [perform, Exchange.recorded, same (all _ (List.mem_singleton_self _))]

theorem agreesUnlessCancelled {real other : Activity (Recorded σ) Error α}
    (inner : Agrees fair good real other) :
    Agrees fair good (unlessCancelled Interrupts.never.recorded real)
      (unlessCancelled Interrupts.never.recorded other) := by
  intro token r begins
  cases token with
  | true => exact ⟨begins, [], (List.append_nil _).symm, fun _ => rfl⟩
  | false => exact inner false r begins

theorem agreesLifting : Lifting (fun _ _ => Agrees fair good) (Interrupts.never (σ := σ)).recorded
    Interrupts.never.recorded where
  value _ := agreesStill fun _ _ => rfl
  line _ _ := agreesStill fun _ _ => rfl
  lines _ _ := agreesStill fun _ _ => rfl
  event _ _ := agreesStill fun _ _ => rfl
  verdict _ _ _ := agreesStill fun _ _ => rfl
  next := agreesBind
  renamed f _ _ := agreesMapFailure f
  guarded := agreesUnlessCancelled

end Activity

theorem Run.stagesAgree {source : Source σ} {real other : Registry σ} (keeps : source.Keeps fair)
    (agree : Registry.Agrees fair good real other) :
    Activity.Agrees fair good (stages source.recorded real.recorded Interrupts.never.recorded)
      (stages source.recorded other.recorded Interrupts.never.recorded) := by
  have loads {α : Type} {moment : Reply α → Moment} {exchange : σ → Exchange σ α}
      (kept : ∀ w, fair w → fair (exchange w).world) :
      Exchange.Agrees fair good moment exchange exchange :=
    fun w begins => ⟨kept w begins, fun _ => rfl⟩
  refine Activity.agreesLifting.stages (Activity.agreesPerform _ (loads keeps.chains))
    (Activity.agreesPerform _ (loads keeps.assets))
    (Activity.agreesPerform _ (loads keeps.deployments)) (fun s => ?_)
    (Activity.agreesPerform _ agree.list)
  exact Activity.agreesBind (Activity.agreesPerform _ (agree.submit s)) fun _ =>
    Activity.agreesStill fun _ _ => rfl

theorem Run.seedAgrees {source : Source σ} {real other : Registry σ} (keeps : source.Keeps fair)
    (agree : Registry.Agrees fair good real other) (stamp : Stamp) {world : σ}
    (begins : fair world) (all : ∀ m ∈ transcript source real .never false world, good m) :
    (seed stamp source other .never false world).outcome =
      (seed stamp source real .never false world).outcome ∧
    (seed stamp source other .never false world).journal =
      (seed stamp source real .never false world).journal ∧
    (seed stamp source other .never false world).world =
      (seed stamp source real .never false world).world := by
  obtain ⟨_, moments, grown, same⟩ := stagesAgree keeps agree false ⟨world, []⟩ begins
  have taken : transcript source real .never false world = moments := grown
  rw [taken] at all
  obtain ⟨outcome, journal, left, _⟩ := recordedRun stamp source real .never false world
  obtain ⟨outcome', journal', left', _⟩ := recordedRun stamp source other .never false world
  rw [← outcome, ← outcome', ← journal, ← journal', ← left, ← left']
  simp only [seed, same all, and_self]

end RegistrySeeding
