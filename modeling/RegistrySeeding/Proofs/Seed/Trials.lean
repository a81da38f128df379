import RegistrySeeding.Proofs.Seed.CleanJournal
import RegistrySeeding.Proofs.Seed.Lifting

/-! What a stage makes of its candidates when nothing interrupts it. Each candidate is tried in
turn, in the world that the one before it left; a trial that comes to a verdict is counted under
the candidate's own key, and the first trial that comes to an error ends the stage. -/
namespace RegistrySeeding
open Activity
open Journal (calls reports completions reported)

inductive Trial where
  | rejected (reason : String)
  | replied (reply : Reply Answer)

namespace Trial

def isCreated : Trial → Bool
  | replied (.answered (.ok (.created _)) _) => true
  | _ => false

def isConflict : Trial → Bool
  | replied (.answered (.ok (.conflict _)) _) => true
  | _ => false

def detail? : Trial → Option String
  | rejected reason => some reason
  | replied (.answered (.ok (.failed failure)) _) =>
    some (failure.code.name ++ ": " ++ failure.message)
  | _ => none

def isFailed (t : Trial) : Bool := t.detail?.isSome

def failure? (stage : Stage) (key : String) (t : Trial) : Option ItemFailure :=
  t.detail?.map (⟨stage, key, ·⟩)

def result : Trial → Except Error Verdict
  | rejected reason => .ok (.failed reason)
  | replied (.answered result _) => result.map Answer.verdict
  | replied .abandoned => .error .cancelled

def cancels : Trial → Bool
  | rejected _ => false
  | replied (.answered _ requested) => requested
  | replied .abandoned => true

structure Clean (t : Trial) : Prop where
  came : t.result.isOk = true
  on : t.cancels = false

instance (t : Trial) : Decidable t.Clean :=
  decidable_of_iff (t.result.isOk = true ∧ t.cancels = false)
    ⟨fun ⟨came, on⟩ => ⟨came, on⟩, fun clean => ⟨clean.came, clean.on⟩⟩

def verdict? (t : Trial) : Option Verdict := t.result.toOption

theorem resultOfClean {t : Trial} (clean : t.Clean) : ∃ verdict, t.result = .ok verdict := by
  have came := clean.came
  cases result : t.result with
  | error e => rw [result] at came; nomatch came
  | ok verdict => exact ⟨verdict, rfl⟩

theorem kindOfVerdict {t : Trial} {verdict : Verdict} (came : t.result = .ok verdict) :
    verdict.isCreated = t.isCreated ∧ verdict.isDuplicate = t.isConflict ∧
    verdict.isFailed = t.isFailed ∧
    ∀ stage key, verdict.failure? stage key = t.failure? stage key := by
  cases t with
  | rejected reason => cases came; exact ⟨rfl, rfl, rfl, fun _ _ => rfl⟩
  | replied reply =>
    cases reply with
    | abandoned => nomatch came
    | answered result requested =>
      cases result with
      | error e => nomatch came
      | ok answer => cases came; cases answer <;> exact ⟨rfl, rfl, rfl, fun _ _ => rfl⟩

end Trial

section
variable {σ : Type} (registry : Registry σ)

def Item.trial (world : σ) (item : Item) : Trial × σ :=
  match item.work with
  | .error reason => (.rejected reason, world)
  | .ok s => (.replied (registry.submit s world).reply, (registry.submit s world).world)

def Registry.trials : σ → List Item → List Trial
  | _, [] => []
  | world, item :: rest =>
    (item.trial registry world).1 :: trials (item.trial registry world).2 rest

theorem trialsLength (world : σ) (items : List Item) :
    (registry.trials world items).length = items.length := by
  induction items generalizing world with
  | nil => rfl
  | cons item rest ih => exact congrArg (· + 1) (ih _)

end

def counted (items : List Item) (trials : List Trial) : List (String × Verdict) :=
  (items.zip trials).filterMap fun n => n.2.verdict?.map (n.1.key, ·)

theorem countedCons {item : Item} {rest : List Item} {trial : Trial} {later : List Trial}
    {verdict : Verdict} (came : trial.result = .ok verdict) :
    counted (item :: rest) (trial :: later) = (item.key, verdict) :: counted rest later := by
  simp [counted, Trial.verdict?, came, Except.toOption]

section
variable {items : List Item} {trials : List Trial} (paired : trials.length = items.length)
  (clean : ∀ t ∈ trials, t.Clean)
include paired clean

theorem countedKeys : (counted items trials).map (·.1) = items.map (·.key) := by
  induction items generalizing trials with
  | nil => rfl
  | cons item rest ih =>
    cases trials with
    | nil => nomatch paired
    | cons trial later =>
      obtain ⟨verdict, came⟩ := Trial.resultOfClean (clean trial List.mem_cons_self)
      rw [countedCons came, List.map_cons, List.map_cons,
        ih (Nat.succ.inj paired) fun t inside => clean t (List.mem_cons_of_mem _ inside)]

theorem countedKinds (kind : Verdict → Bool) (kind' : Trial → Bool)
    (same : ∀ t verdict, t.result = .ok verdict → kind verdict = kind' t) :
    (counted items trials).countP (fun n => kind n.2) = trials.countP kind' := by
  induction items generalizing trials with
  | nil =>
    rw [List.length_eq_zero_iff.mp paired]
    rfl
  | cons item rest ih =>
    cases trials with
    | nil => nomatch paired
    | cons trial later =>
      obtain ⟨verdict, came⟩ := Trial.resultOfClean (clean trial List.mem_cons_self)
      rw [countedCons came, List.countP_cons, List.countP_cons, same trial verdict came,
        ih (Nat.succ.inj paired) fun t inside => clean t (List.mem_cons_of_mem _ inside)]

theorem countedFailures (stage : Stage) :
    ((counted items trials).filterMap fun n => n.2.failure? stage n.1) =
      (items.zip trials).filterMap fun n => n.2.failure? stage n.1.key := by
  induction items generalizing trials with
  | nil => rfl
  | cons item rest ih =>
    cases trials with
    | nil => nomatch paired
    | cons trial later =>
      obtain ⟨verdict, came⟩ := Trial.resultOfClean (clean trial List.mem_cons_self)
      rw [countedCons came, List.filterMap_cons, List.zip_cons_cons, List.filterMap_cons,
        (Trial.kindOfVerdict came).2.2.2,
        ih (Nat.succ.inj paired) fun t inside => clean t (List.mem_cons_of_mem _ inside)]

end

section
variable {σ : Type} {registry : Registry σ} {item : Item} {rest : List Item} {tally : Tally} {w : σ}

theorem judgeSubmitted (s : Submission) :
    let x := registry.submit s w
    Stage.judge registry (.ok s) false w = ⟨(Trial.replied x.reply).result,
      (Trial.replied x.reply).cancels, .call (.submit s) :: x.lines.map .line, x.world⟩ := by
  change andThen (perform (.submit s) (registry.submit s)) (fun answer => done answer.verdict)
    false w = _
  simp only [andThen, perform]
  cases (registry.submit s w).reply with
  | abandoned => rfl
  | answered result requested =>
    cases result with
    | error e => rfl
    | ok answer => simp [Trial.result, Trial.cancels, Except.map, done]

theorem judgeTried (registry : Registry σ) (item : Item) (w : σ) :
    let p := Stage.judge registry item.work false w
    let trial := item.trial registry w
    p.result = trial.1.result ∧ p.cancelled = trial.1.cancels ∧ p.world = trial.2 ∧
      calls p.journal = item.call?.toList ∧ reports p.journal = [] ∧
      completions p.journal = [] := by
  unfold Item.trial Item.call?
  cases work : item.work with
  | error reason => exact ⟨rfl, rfl, rfl, rfl, rfl, rfl⟩
  | ok s =>
    obtain ⟨silent, untold, unended⟩ := Journal.silentLines (registry.submit s w).lines
    rw [judgeSubmitted]
    exact ⟨rfl, rfl, rfl, congrArg (_ :: ·) silent, untold, unended⟩

theorem submitAllCut {e : Error}
    (failed : (Stage.judge registry item.work false w).result = .error e) :
    let p := Stage.judge registry item.work false w
    Stage.submitAll registry .never (item :: rest) tally false w =
      ⟨.error e, p.cancelled, .line (tally.stage.submitLine item.key) :: p.journal, p.world⟩ := by
  have met : (unlessCancelled .never (Stage.judge registry item.work) false w).result = .error e :=
    failed
  refine (andThenCame (x := ()) rfl).trans ?_
  simp only [log, andThenFailed met]
  rfl

theorem submitAllOn {verdict : Verdict}
    (came : (Stage.judge registry item.work false w).result = .ok verdict) :
    let p := Stage.judge registry item.work false w
    let later := Stage.submitAll registry .never rest (tally.note item.key verdict) p.cancelled
      p.world
    Stage.submitAll registry .never (item :: rest) tally false w =
      ⟨later.result, later.cancelled, .line (tally.stage.submitLine item.key) :: (p.journal ++
        (Course.told tally.stage item.key verdict ++ later.journal)), later.world⟩ := by
  have met : (unlessCancelled .never (Stage.judge registry item.work) false w).result =
      .ok verdict := came
  refine (andThenCame (x := ()) rfl).trans ?_
  simp only [log, andThenCame met]
  rfl

end

section
variable (stage : Stage) (key : String) (verdict : Verdict) (line : Line) (early late : List Entry)

theorem callsCandidate :
    calls (.line line :: (early ++ (Course.told stage key verdict ++ late))) =
      calls early ++ calls late := by
  rw [← List.cons_append]
  simp [Course.told]

theorem reportsCandidate :
    reports (.line line :: (early ++ (Course.told stage key verdict ++ late))) =
      reports early ++ ⟨stage, key, verdict⟩ :: reports late := by
  rw [← List.cons_append, Journal.reportsAppend]
  rfl

theorem completionsCandidate :
    completions (.line line :: (early ++ (Course.told stage key verdict ++ late))) =
      completions early ++ completions late := by
  rw [← List.cons_append, Journal.completionsAppend]
  rfl

end

section
variable {σ : Type} {registry : Registry σ}

theorem submitAllClean (items : List Item) (tally : Tally) (w : σ)
    (clean : ∀ t ∈ registry.trials w items, t.Clean) :
    let p := Stage.submitAll registry .never items tally false w
    let noted := counted items (registry.trials w items)
    p.result = .ok (tally.noteAll noted) ∧ reports p.journal = reported tally.stage noted := by
  induction items generalizing tally w with
  | nil => exact ⟨rfl, rfl⟩
  | cons item rest ih =>
    obtain ⟨own, others⟩ := List.forall_mem_cons.mp clean
    obtain ⟨verdict, came⟩ := Trial.resultOfClean own
    obtain ⟨result, token, left, -, untold, -⟩ := judgeTried registry item w
    have later := ih (tally.note item.key verdict) _ others
    rw [submitAllOn (result.trans came), token, own.on, left, Registry.trials, countedCons came]
    rw [tally.noteStage] at later
    refine ⟨later.1, ?_⟩
    rw [reportsCandidate, untold]
    exact congrArg (_ :: ·) later.2

theorem submitAllFailed (items : List Item) (tally : Tally) (w : σ) {i : Nat} {trial : Trial}
    {e : Error} (here : (registry.trials w items)[i]? = some trial)
    (failed : trial.result = .error e)
    (clean : ∀ t ∈ (registry.trials w items).take i, t.Clean) :
    let p := Stage.submitAll registry .never items tally false w
    p.result = .error e ∧
    reports p.journal =
      reported tally.stage (counted (items.take i) ((registry.trials w items).take i)) ∧
    calls p.journal = Item.word (items.take (i + 1)) ∧ completions p.journal = [] := by
  -- The batch and the place of the error shrink together, while the tally and the world go on.
  induction items generalizing tally w i with
  | nil => nomatch here
  | cons item rest ih =>
    obtain ⟨result, token, left, asked, untold, unended⟩ := judgeTried registry item w
    cases i with
    | zero =>
      cases here
      rw [submitAllCut (result.trans failed)]
      refine ⟨rfl, untold, ?_, unended⟩
      simpa [Item.word] using asked
    | succ i =>
      obtain ⟨own, others⟩ := List.forall_mem_cons.mp clean
      obtain ⟨verdict, came⟩ := Trial.resultOfClean own
      obtain ⟨result', told, asked', unended'⟩ := ih (tally.note item.key verdict) _ here others
      rw [tally.noteStage] at told
      rw [submitAllOn (result.trans came), token, own.on, left, Registry.trials,
        List.take_succ_cons, List.take_succ_cons, countedCons came]
      refine ⟨result', ?_, ?_, ?_⟩
      · rw [reportsCandidate, untold]
        exact congrArg (_ :: ·) told
      · rw [callsCandidate, asked, asked']
        rfl
      · rw [completionsCandidate, unended]
        exact unended'

theorem seedOpens (stage : Stage) (items : List Item) (w : σ) :
    let work := Stage.submitAll registry .never items (.empty stage) >>= fun tally => do
      log (Stage.completeLine tally)
      announce (.stageComplete tally)
      return tally
    let p := work false w
    Stage.seed registry .never stage items false w =
      ⟨p.result, p.cancelled, Course.opened stage items.length ++ p.journal, p.world⟩ := rfl

theorem seedFailed {stage : Stage} {items : List Item} {w : σ} {e : Error}
    (failed : (Stage.submitAll registry .never items (.empty stage) false w).result = .error e) :
    let p := Stage.submitAll registry .never items (.empty stage) false w
    Stage.seed registry .never stage items false w =
      ⟨.error e, p.cancelled, Course.opened stage items.length ++ p.journal, p.world⟩ := by
  rw [seedOpens, andThenFailed failed]

theorem seedCame {stage : Stage} {items : List Item} {w : σ} {t : Tally}
    (came : (Stage.submitAll registry .never items (.empty stage) false w).result = .ok t) :
    let p := Stage.submitAll registry .never items (.empty stage) false w
    Stage.seed registry .never stage items false w = ⟨.ok t, p.cancelled,
      Course.opened stage items.length ++ (p.journal ++ Course.closed t), p.world⟩ := by
  rw [seedOpens, andThenCame came]
  rfl

end

/-- The counters are words; they are the numbers themselves if the candidates can be counted by a
word. -/
structure Tally.Totals (t : Tally) (of : Stage) (items : List Item) (trials : List Trial) :
    Prop where
  stage : t.stage = of
  attempted : t.attempted = .ofNat items.length
  created : t.created = .ofNat (trials.countP Trial.isCreated)
  skipped : t.skipped = .ofNat (trials.countP Trial.isConflict)
  failed : t.failed = .ofNat (trials.countP Trial.isFailed)
  numbers : items.length < 2 ^ 64 → t.attempted.toNat = items.length ∧
    t.created.toNat = trials.countP Trial.isCreated ∧
    t.skipped.toNat = trials.countP Trial.isConflict ∧
    t.failed.toNat = trials.countP Trial.isFailed
  failures : t.failures = (items.zip trials).filterMap fun n => n.2.failure? of n.1.key

theorem countedTotals (stage : Stage) {items : List Item} {trials : List Trial}
    (paired : trials.length = items.length) (clean : ∀ t ∈ trials, t.Clean) :
    (Tally.ofVerdicts stage (counted items trials)).Totals stage items trials := by
  have length : (counted items trials).length = items.length := by
    rw [← List.length_map (·.1), countedKeys paired clean, List.length_map]
  have attempted := Tally.ofVerdictsAttempted stage (counted items trials)
  have created := Tally.ofVerdictsCreated stage (counted items trials)
  have skipped := Tally.ofVerdictsSkipped stage (counted items trials)
  have failed := Tally.ofVerdictsFailed stage (counted items trials)
  rw [length] at attempted
  rw [countedKinds paired clean _ _ fun _ _ came => (Trial.kindOfVerdict came).1] at created
  rw [countedKinds paired clean _ _ fun _ _ came => (Trial.kindOfVerdict came).2.1] at skipped
  rw [countedKinds paired clean _ _ fun _ _ came => (Trial.kindOfVerdict came).2.2.1] at failed
  refine ⟨Tally.ofVerdictsStage _ _, attempted, created, skipped, failed, fun small => ?_, ?_⟩
  · have number (n : Nat) (least : n ≤ items.length) : (UInt64.ofNat n).toNat = n :=
      UInt64.toNat_ofNat_of_lt' (Nat.lt_of_le_of_lt least small)
    have own (kind : Trial → Bool) : trials.countP kind ≤ items.length :=
      paired ▸ List.countP_le_length
    rw [attempted, created, skipped, failed]
    exact ⟨number _ (Nat.le_refl _), number _ (own _), number _ (own _), number _ (own _)⟩
  · rw [Tally.ofVerdictsFailures]
    exact countedFailures paired clean stage

section
variable {σ : Type}

/-- Either every trial is counted, or the stage ends with the first error, after the candidates
before it were reported and without a call for those behind it. -/
theorem stageCountsTrials (registry : Registry σ) (stage : Stage) (items : List Item) (world : σ) :
    let run := Stage.seed registry .never stage items false world
    let trials := registry.trials world items
    ((∀ t ∈ trials, t.Clean) → ∃ t, run.result = .ok t ∧ t.Totals stage items trials) ∧
    ∀ i trial e, trials[i]? = some trial → trial.result = .error e →
      (∀ t ∈ trials.take i, t.Clean) →
      run.result = .error e ∧ (reports run.journal).length = i ∧
      (reports run.journal).map (·.key) = (items.take i).map (·.key) ∧
      calls run.journal = Item.word (items.take (i + 1)) ∧ completions run.journal = [] := by
  have paired := trialsLength registry world items
  refine ⟨fun clean => ?_, fun i trial e here failed clean => ?_⟩
  · have came := (submitAllClean items (.empty stage) world clean).1
    rw [seedCame came]
    exact ⟨_, rfl, countedTotals stage paired clean⟩
  · obtain ⟨result, told, asked, unended⟩ :=
      submitAllFailed items (.empty stage) world here failed clean
    have early : ((registry.trials world items).take i).length = (items.take i).length := by
      rw [List.length_take, List.length_take, paired]
    have keys := countedKeys early clean
    have inside : i < items.length := paired ▸ (List.getElem?_eq_some_iff.mp here).1
    have opened (journal : List Entry) :
        reports (Course.opened stage items.length ++ journal) = reports journal ∧
        calls (Course.opened stage items.length ++ journal) = calls journal ∧
        completions (Course.opened stage items.length ++ journal) = completions journal :=
      ⟨rfl, rfl, rfl⟩
    rw [seedFailed result]
    obtain ⟨told', asked', unended'⟩ := opened
      (Stage.submitAll registry .never items (.empty stage) false world).journal
    have reported : (reports (Stage.submitAll registry .never items (.empty stage) false
        world).journal).map (·.key) = (items.take i).map (·.key) := by
      rw [told, ← keys, Journal.reported, List.map_map]
      rfl
    refine ⟨rfl, ?_, ?_, asked'.trans asked, unended'.trans unended⟩
    · rw [told', ← List.length_map (·.key), reported, List.length_map, List.length_take]
      omega
    · rw [told', reported]

def turnsRegistry : Registry Nat where
  submit _ turn := .plain (match turn with
    | 0 => .ok (.created none)
    | 1 => .ok (.conflict "known")
    | 2 => .ok (.failed ⟨.internal, "broken"⟩)
    | _ => .error (.registry "closed")) (turn + 1)
  list := .plain (.ok [])

def turnsItem (symbol : String) : Item :=
  ⟨symbol, .ok (.asset ⟨symbol, symbol, .native, none, none, none⟩)⟩

theorem turnsCounted :
    let items := [turnsItem "ETH", turnsItem "ETH", ⟨"", .error "no symbol"⟩, turnsItem "ETH",
      turnsItem "USDC", turnsItem "WBTC"]
    let run (taken : Nat) := Stage.seed turnsRegistry .never .assets (items.take taken) false 0
    (∃ t, (run 4).result = .ok t ∧
      (t.attempted, t.created, t.skipped, t.failed) = (4, 1, 1, 2) ∧
      t.failures = [⟨.assets, "", "no symbol"⟩, ⟨.assets, "ETH", "internal: broken"⟩]) ∧
    (run 6).result = .error (.registry "closed") ∧ (reports (run 6).journal).length = 4 ∧
    calls (run 6).journal = Item.word (items.take 5) := by
  intro items run
  obtain ⟨t, came, totals⟩ := (stageCountsTrials turnsRegistry .assets (items.take 4) 0).1
    (by decide)
  obtain ⟨refused, reported, -, asked, -⟩ :=
    (stageCountsTrials turnsRegistry .assets (items.take 6) 0).2 4 _ _ rfl rfl
      (by decide)
  refine ⟨⟨t, came, ?_, totals.failures.trans rfl⟩, refused, reported, asked⟩
  rw [totals.attempted, totals.created, totals.skipped, totals.failed]
  rfl

end
end RegistrySeeding
