import RegistrySeeding.Registry.Basic
import RegistrySeeding.Seed.Outcome

/-! The steps of a run as values. An activity starts from the state of the cancellation token and
the world; it leaves a result, the token, the world and a journal of what happened in order. The
token never comes back once cancelled by an activity made of those below. -/
namespace RegistrySeeding

inductive Event where
  | runStart (runId : String)
  | stageStart (stage : Stage) (total : Nat)
  | item (stage : Stage) (key : String) (verdict : Verdict)
  | stageComplete (tally : Tally)
  | runComplete (outcome : Outcome)
  deriving DecidableEq, Repr

inductive Entry where
  | line (line : Line)
  | event (event : Event)
  | call (call : Call)
  deriving DecidableEq, Repr

structure Passage (σ ε α : Type) where
  result : Except ε α
  cancelled : Bool
  journal : List Entry
  world : σ

def Activity (σ ε α : Type) : Type := Bool → σ → Passage σ ε α

namespace Activity
variable {σ ε α β γ : Type}

def done (x : α) : Activity σ ε α := fun cancelled world => ⟨.ok x, cancelled, [], world⟩

def andThen (first : Activity σ ε α) (next : α → Activity σ ε β) : Activity σ ε β :=
  fun cancelled world =>
    let p := first cancelled world
    match p.result with
    | .error e => ⟨.error e, p.cancelled, p.journal, p.world⟩
    | .ok x =>
      let q := next x p.cancelled p.world
      ⟨q.result, q.cancelled, p.journal ++ q.journal, q.world⟩

instance : Monad (Activity σ ε) where
  pure := done
  bind := andThen

theorem doneAndThen (x : α) (next : α → Activity σ ε β) : andThen (done x) next = next x := rfl

theorem andThenDone (work : Activity σ ε α) : andThen work done = work := by
  funext cancelled world
  cases h : work cancelled world with
  | mk result after journal left => cases result <;> simp [andThen, done, h]

theorem andThenAssoc (work : Activity σ ε α) (f : α → Activity σ ε β) (g : β → Activity σ ε γ) :
    andThen (andThen work f) g = andThen work fun x => andThen (f x) g := by
  funext cancelled world
  cases h : work cancelled world with
  | mk result after journal left =>
    cases result with
    | error e => simp [andThen, h]
    | ok x =>
      cases h' : f x after left with
      | mk result later more rest => cases result <;> simp [andThen, h, h']

instance : LawfulMonad (Activity σ ε) :=
  LawfulMonad.mk' _ andThenDone doneAndThen andThenAssoc

def mapFailure {ε' : Type} (f : ε → ε') (work : Activity σ ε α) : Activity σ ε' α :=
  fun cancelled world =>
    let p := work cancelled world
    ⟨p.result.mapError f, p.cancelled, p.journal, p.world⟩

def log (line : Line) : Activity σ ε Unit := fun cancelled world =>
  ⟨.ok (), cancelled, [.line line], world⟩

def logAll (lines : List Line) : Activity σ ε Unit := fun cancelled world =>
  ⟨.ok (), cancelled, lines.map .line, world⟩

def announce (event : Event) : Activity σ ε Unit := fun cancelled world =>
  ⟨.ok (), cancelled, [.event event], world⟩

def perform (call : Call) (exchange : σ → Exchange σ α) : Activity σ Error α :=
  fun cancelled world =>
    let x := exchange world
    let journal := .call call :: x.lines.map .line
    match x.reply with
    | .answered result requested => ⟨result, cancelled || requested, journal, x.world⟩
    | .abandoned => ⟨.error .cancelled, true, journal, x.world⟩

def unlessCancelled (interrupts : Interrupts σ) (work : Activity σ Error α) : Activity σ Error α :=
  fun cancelled world =>
    let (interrupted, world) := interrupts.check world
    if cancelled || interrupted then ⟨.error .cancelled, true, [], world⟩ else work false world

def atStep (interrupts : Interrupts σ) (step : Step) (work : Activity σ Error α) :
    Activity σ Abort α :=
  mapFailure (Abort.ofError step) (unlessCancelled interrupts work)

end Activity
end RegistrySeeding
