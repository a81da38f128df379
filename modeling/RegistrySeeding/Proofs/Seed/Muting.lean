import RegistrySeeding.Proofs.Seed.Lifting

/-! The lines that a run writes itself. A muted registry and a muted source say nothing; beside them
a run comes to the same, does the same and writes the rest of its lines. -/
namespace RegistrySeeding
variable {σ : Type}

def Exchange.muted {α : Type} (exchange : σ → Exchange σ α) : σ → Exchange σ α :=
  fun world => { exchange world with lines := [] }

def Source.muted (source : Source σ) : Source σ :=
  ⟨Exchange.muted source.chains, Exchange.muted source.assets, Exchange.muted source.deployments⟩

def Registry.muted (registry : Registry σ) : Registry σ :=
  ⟨fun s => Exchange.muted (registry.submit s), Exchange.muted registry.list⟩

def Entry.warning? : Entry → Option Line
  | line l => if l.failsToCreate then some l else none
  | _ => none

def Report.warning? (r : Report) : Option Line :=
  match r.verdict with
  | .failed _ => some (r.stage.verdictLine r.key r.verdict)
  | _ => none

namespace Journal

def warnings (journal : List Entry) : List Line := journal.filterMap Entry.warning?

def Candid (journal : List Entry) : Prop :=
  warnings journal = (reports journal).filterMap Report.warning?

theorem candidAppend {early late : List Entry} (before : Candid early) (after : Candid late) :
    Candid (early ++ late) := by
  rw [Candid, warnings, List.filterMap_append, reportsAppend, List.filterMap_append, ← before,
    ← after]
  rfl

theorem candidLine {line : Line} (other : line.failsToCreate = false) : Candid [.line line] := by
  simp [Candid, warnings, Entry.warning?, other, reports, Entry.report?]

theorem candidLines {lines : List Line} (others : ∀ l ∈ lines, l.failsToCreate = false) :
    Candid (lines.map .line) := by
  induction lines with
  | nil => rfl
  | cons line rest ih =>
    have one := candidLine (others line List.mem_cons_self)
    exact candidAppend one (ih fun l inside => others l (List.mem_cons_of_mem _ inside))

theorem candidVerdict (stage : Stage) (key : String) (verdict : Verdict) :
    Candid [.line (stage.verdictLine key verdict), .event (.item stage key verdict)] := by
  cases verdict with
  | created => rfl
  | duplicate => rfl
  | failed detail =>
    have warned : (stage.verdictLine key (.failed detail)).failsToCreate = true := by
      simp [Line.failsToCreate, Stage.verdictLine]
    simp [Candid, warnings, List.filterMap_cons, Entry.warning?, warned, reports, Entry.report?,
      Report.warning?]

end Journal

structure Passage.Muted {ε α : Type} (loud quiet : Passage σ ε α) : Prop where
  result : quiet.result = loud.result
  cancelled : quiet.cancelled = loud.cancelled
  world : quiet.world = loud.world
  deeds : Journal.deeds quiet.journal = Journal.deeds loud.journal
  lines : quiet.journal.Sublist loud.journal
  candid : Journal.Candid quiet.journal

namespace Activity
variable {ε α β : Type}
open Journal (Candid candidAppend candidLine candidLines candidVerdict deeds deedsAppend)

def Muted (loud quiet : Activity σ ε α) : Prop :=
  ∀ cancelled world, Passage.Muted (loud cancelled world) (quiet cancelled world)

theorem mutedOwn {work : Activity σ ε α}
    (candid : ∀ cancelled world, Candid (work cancelled world).journal) : Muted work work :=
  fun cancelled world => ⟨rfl, rfl, rfl, rfl, .refl _, candid cancelled world⟩

theorem mutedPure (x : α) : Muted (pure x : Activity σ ε α) (pure x) := mutedOwn fun _ _ => rfl

theorem mutedLog {line : Line} (other : line.failsToCreate = false) :
    Muted (log line : Activity σ ε Unit) (log line) :=
  mutedOwn fun _ _ => candidLine other

theorem mutedLogAll {lines : List Line} (others : ∀ l ∈ lines, l.failsToCreate = false) :
    Muted (logAll lines : Activity σ ε Unit) (logAll lines) :=
  mutedOwn fun _ _ => candidLines others

theorem mutedAnnounce {event : Event} (other : Entry.report? (.event event) = none) :
    Muted (announce event : Activity σ ε Unit) (announce event) := by
  refine mutedOwn fun _ _ => ?_
  change [] = List.filterMap Report.warning? ([Entry.event event].filterMap Entry.report?)
  rw [List.filterMap_cons_none other]
  rfl

theorem mutedBind {loud quiet : Activity σ ε α} {next next' : α → Activity σ ε β}
    (first : Muted loud quiet) (second : ∀ x, Muted (next x) (next' x)) :
    Muted (loud >>= next) (quiet >>= next') := by
  intro cancelled world
  obtain ⟨result, token, left, done, own, candid⟩ := first cancelled world
  change Passage.Muted (andThen loud next cancelled world) (andThen quiet next' cancelled world)
  simp only [andThen, result, token, left]
  cases (loud cancelled world).result with
  | error e => exact ⟨rfl, rfl, rfl, done, own, candid⟩
  | ok x =>
    have later := second x (loud cancelled world).cancelled (loud cancelled world).world
    refine ⟨later.result, later.cancelled, later.world, ?_, own.append later.lines,
      candidAppend candid later.candid⟩
    simp only [deedsAppend, done, later.deeds]

theorem mutedVerdict (stage : Stage) (key : String) (verdict : Verdict) :
    Muted (log (stage.verdictLine key verdict) >>= fun _ =>
        (announce (.item stage key verdict) : Activity σ ε Unit))
      (log (stage.verdictLine key verdict) >>= fun _ => announce (.item stage key verdict)) :=
  mutedOwn fun _ _ => candidVerdict stage key verdict

theorem mutedMapFailure {ε' : Type} {loud quiet : Activity σ ε α} (f : ε → ε')
    (inner : Muted loud quiet) : Muted (mapFailure f loud) (mapFailure f quiet) := by
  intro cancelled world
  obtain ⟨result, token, left, done, own, candid⟩ := inner cancelled world
  exact ⟨congrArg (Except.mapError f) result, token, left, done, own, candid⟩

theorem mutedPerform (call : Call) (exchange : σ → Exchange σ α) :
    Muted (perform call exchange) (perform call (Exchange.muted exchange)) := by
  intro cancelled world
  have done : deeds [.call call] = deeds (.call call :: (exchange world).lines.map .line) :=
    congrArg (_ :: ·) (Journal.deedsLines _).symm
  have own : [Entry.call call].Sublist (.call call :: (exchange world).lines.map .line) :=
    (List.nil_sublist _).cons_cons _
  simp only [perform, Exchange.muted]
  cases (exchange world).reply with
  | abandoned => exact ⟨rfl, rfl, rfl, done, own, rfl⟩
  | answered result requested => exact ⟨rfl, rfl, rfl, done, own, rfl⟩

theorem mutedUnlessCancelled (interrupts : Interrupts σ) {loud quiet : Activity σ Error α}
    (inner : Muted loud quiet) :
    Muted (unlessCancelled interrupts loud) (unlessCancelled interrupts quiet) := by
  intro cancelled world
  simp only [unlessCancelled]
  split
  · exact ⟨rfl, rfl, rfl, rfl, .refl _, rfl⟩
  · exact inner false _

theorem mutedLifting (interrupts : Interrupts σ) :
    Lifting (fun _ _ => Muted) interrupts interrupts where
  value := mutedPure
  line _ plain := mutedLog plain
  lines _ plain := mutedLogAll plain
  event _ plain := mutedAnnounce plain
  verdict := mutedVerdict
  next := mutedBind
  renamed f _ _ := mutedMapFailure f
  guarded := mutedUnlessCancelled interrupts

end Activity

theorem Run.stagesMuted (source : Source σ) (registry : Registry σ) (interrupts : Interrupts σ) :
    Activity.Muted (Run.stages source registry interrupts)
      (Run.stages source.muted registry.muted interrupts) :=
  (Activity.mutedLifting interrupts).stages (Activity.mutedPerform _ _)
    (Activity.mutedPerform _ _) (Activity.mutedPerform _ _)
    (fun _ => Activity.mutedBind (Activity.mutedPerform _ _) fun _ => Activity.mutedPure _)
    (Activity.mutedPerform _ _)

theorem Run.seedMuted (stamp : Stamp) (source : Source σ) (registry : Registry σ)
    (interrupts : Interrupts σ) (cancelled : Bool) (world : σ) :
    let run := seed stamp source registry interrupts cancelled world
    let alone := seed stamp source.muted registry.muted interrupts cancelled world
    alone.outcome = run.outcome ∧ Journal.deeds alone.journal = Journal.deeds run.journal ∧
      alone.journal.Sublist run.journal ∧ Journal.Candid alone.journal := by
  obtain ⟨result, _, _, done, own, candid⟩ :=
    stagesMuted source registry interrupts cancelled world
  have opening : Journal.Candid
      [.line (openingLine stamp.runId), .event (.runStart stamp.runId)] := rfl
  have closing (o : Outcome) :
      Journal.Candid [.line (closingLine o), .event (.runComplete o)] := by
    have other : (closingLine o).failsToCreate = false := by
      unfold closingLine
      split <;> rfl
    simp [Journal.Candid, Journal.warnings, List.filterMap_cons, Entry.warning?, other,
      Journal.reports, Entry.report?]
  refine ⟨?_, ?_, ?_, ?_⟩
  · simp only [seed, result]
  · simp only [seed, result, Journal.deedsAppend, done]
  · simp only [seed, result]
    exact (own.append_left _).append_right _
  · exact Journal.candidAppend (Journal.candidAppend opening candid) (closing _)

end RegistrySeeding
