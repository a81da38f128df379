import Mathlib.Algebra.Group.Nat.Defs
import RegistrySeeding.Proofs.Seed.CleanRun

/-! Counters as counts. A tally is folded from keys and verdicts; each counter is the number of
verdicts of its kind, taken as a 64-bit word, and the failures are the failed keys in order. -/
namespace RegistrySeeding

namespace Verdict

def isCreated : Verdict → Bool
  | created => true
  | _ => false

def isDuplicate : Verdict → Bool
  | duplicate => true
  | _ => false

def isFailed : Verdict → Bool
  | failed _ => true
  | _ => false

def failure? (stage : Stage) (key : String) : Verdict → Option ItemFailure
  | failed detail => some ⟨stage, key, detail⟩
  | _ => none

end Verdict

namespace Tally

theorem noteAllNil (t : Tally) : t.noteAll [] = t := rfl

theorem noteAllCons (t : Tally) (key : String) (verdict : Verdict) (rest) :
    t.noteAll ((key, verdict) :: rest) = (t.note key verdict).noteAll rest := rfl

theorem noteAllStage (t : Tally) (noted) : (t.noteAll noted).stage = t.stage := by
  induction noted generalizing t with
  | nil => rfl
  | cons n rest ih => exact (ih _).trans (t.noteStage n.1 n.2)

theorem ofVerdictsStage (stage : Stage) (noted) : (ofVerdicts stage noted).stage = stage :=
  noteAllStage (empty stage) noted

theorem noteAllConserved (t : Tally) (noted) : (t.noteAll noted).conserved = t.conserved := by
  induction noted generalizing t with
  | nil => rfl
  | cons n rest ih => exact (ih _).trans (t.noteConserved n.1 n.2)

theorem ofVerdictsConserved (stage : Stage) (noted) : (ofVerdicts stage noted).conserved = true :=
  noteAllConserved (empty stage) noted

theorem noteAllAttempted (t : Tally) (noted) :
    (t.noteAll noted).attempted = t.attempted + UInt64.ofNat noted.length := by
  induction noted generalizing t with
  | nil => simp [noteAllNil]
  | cons n rest ih =>
    rw [noteAllCons, ih, noteAttempted, List.length_cons, UInt64.ofNat_add]
    grind

theorem noteAllCounts (counter : Tally → UInt64) (counted : Verdict → Bool)
    (one : ∀ t key verdict,
      counter (note t key verdict) = counter t + if counted verdict then 1 else 0)
    (t : Tally) (noted : List (String × Verdict)) :
    counter (t.noteAll noted) = counter t + UInt64.ofNat (noted.countP fun n => counted n.2) := by
  induction noted generalizing t with
  | nil => simp [noteAllNil]
  | cons n rest ih =>
    rw [noteAllCons, ih, one, List.countP_cons, UInt64.ofNat_add]
    split
    · rw [UInt64.add_assoc, UInt64.add_comm 1]
      rfl
    · simp

theorem noteAllCreated (t : Tally) (noted) : (t.noteAll noted).created =
    t.created + UInt64.ofNat (noted.countP fun n => n.2.isCreated) :=
  noteAllCounts created Verdict.isCreated
    (by intro t key verdict; cases verdict <;> simp [note, Verdict.isCreated]) t noted

theorem noteAllSkipped (t : Tally) (noted) : (t.noteAll noted).skipped =
    t.skipped + UInt64.ofNat (noted.countP fun n => n.2.isDuplicate) :=
  noteAllCounts skipped Verdict.isDuplicate
    (by intro t key verdict; cases verdict <;> simp [note, Verdict.isDuplicate]) t noted

theorem noteAllFailed (t : Tally) (noted) : (t.noteAll noted).failed =
    t.failed + UInt64.ofNat (noted.countP fun n => n.2.isFailed) :=
  noteAllCounts failed Verdict.isFailed
    (by intro t key verdict; cases verdict <;> simp [note, Verdict.isFailed]) t noted

theorem noteAllFailures (t : Tally) (noted) : (t.noteAll noted).failures =
    t.failures ++ noted.filterMap fun n => n.2.failure? t.stage n.1 := by
  induction noted generalizing t with
  | nil => simp [noteAllNil]
  | cons n rest ih =>
    obtain ⟨key, verdict⟩ := n
    rw [noteAllCons, ih, noteFailures, noteStage, List.append_assoc]
    cases verdict <;> simp [Verdict.failure?]

section
variable (stage : Stage) (noted : List (String × Verdict))

theorem ofVerdictsAttempted : (ofVerdicts stage noted).attempted = .ofNat noted.length := by
  rw [ofVerdicts, noteAllAttempted]
  exact UInt64.zero_add _

theorem ofVerdictsCreated : (ofVerdicts stage noted).created =
    .ofNat (noted.countP fun n => n.2.isCreated) := by
  rw [ofVerdicts, noteAllCreated]
  exact UInt64.zero_add _

theorem ofVerdictsSkipped : (ofVerdicts stage noted).skipped =
    .ofNat (noted.countP fun n => n.2.isDuplicate) := by
  rw [ofVerdicts, noteAllSkipped]
  exact UInt64.zero_add _

theorem ofVerdictsFailed : (ofVerdicts stage noted).failed =
    .ofNat (noted.countP fun n => n.2.isFailed) := by
  rw [ofVerdicts, noteAllFailed]
  exact UInt64.zero_add _

theorem ofVerdictsFailures : (ofVerdicts stage noted).failures =
    noted.filterMap fun n => n.2.failure? stage n.1 := by
  rw [ofVerdicts, noteAllFailures]
  rfl

end

theorem skippedOfNoneCreated {t : Tally} (conserved : t.conserved = true) (none : t.created = 0) :
    t.skipped = t.attempted - t.failed := by
  simp only [Tally.conserved, beq_iff_eq, none] at conserved
  rw [← conserved]
  grind

theorem kindsPartition (noted : List (String × Verdict)) :
    noted.countP (fun n => n.2.isCreated) + noted.countP (fun n => n.2.isDuplicate) +
      noted.countP (fun n => n.2.isFailed) = noted.length := by
  have one (v : Verdict) : (if v.isCreated then 1 else 0) + (if v.isDuplicate then 1 else 0) +
      (if v.isFailed then 1 else 0) = 1 := by
    cases v <;> rfl
  induction noted with
  | nil => rfl
  | cons n rest ih =>
    have head := one n.2
    simp only [List.countP_cons, List.length_cons]
    omega

theorem failuresCount (stage : Stage) (noted : List (String × Verdict)) :
    (noted.filterMap fun n => n.2.failure? stage n.1).length =
      noted.countP fun n => n.2.isFailed := by
  induction noted with
  | nil => rfl
  | cons n rest ih =>
    rw [List.filterMap_cons, List.countP_cons, ← ih]
    cases n.2 <;> rfl

/-- The counters account for so many candidates, and the failures are the failed ones. The counters
are words; they are the numbers themselves if the candidates can be counted by a word. -/
structure Balanced (t : Tally) (total : Nat) : Prop where
  attempted : t.attempted = .ofNat total
  conserved : t.conserved = true
  failed : t.failed = .ofNat t.failures.length
  own : ∀ f ∈ t.failures, f.stage = t.stage
  numbers : total < 2 ^ 64 → t.attempted.toNat = total ∧
    t.created.toNat + t.skipped.toNat + t.failed.toNat = total ∧
    t.failures.length = t.failed.toNat

theorem ofVerdictsBalanced (stage : Stage) (noted : List (String × Verdict)) :
    (ofVerdicts stage noted).Balanced noted.length := by
  have listed : (ofVerdicts stage noted).failures.length =
      noted.countP fun n => n.2.isFailed := by
    rw [ofVerdictsFailures, failuresCount]
  refine ⟨ofVerdictsAttempted stage noted, ofVerdictsConserved stage noted,
    by rw [ofVerdictsFailed, listed], ?_, ?_⟩
  · intro f member
    rw [ofVerdictsFailures] at member
    obtain ⟨n, _, same⟩ := List.mem_filterMap.mp member
    rw [ofVerdictsStage]
    cases verdict : n.2 with
    | failed detail =>
      rw [verdict] at same
      exact Option.some.inj same ▸ rfl
    | created => rw [verdict] at same; nomatch same
    | duplicate => rw [verdict] at same; nomatch same
  · intro small
    have parts := kindsPartition noted
    rw [ofVerdictsAttempted, ofVerdictsCreated, ofVerdictsSkipped, ofVerdictsFailed, listed]
    simp only [UInt64.toNat_ofNat']
    omega

theorem totalOfBalanced (tallies : List Tally) (start : UInt64)
    (failed : ∀ t ∈ tallies, t.failed = .ofNat t.failures.length) :
    (tallies.map (·.failed)).foldl (· + ·) start =
      start + .ofNat (tallies.flatMap (·.failures)).length := by
  induction tallies generalizing start with
  | nil => exact (UInt64.add_zero _).symm
  | cons t rest ih =>
    rw [List.map_cons, List.foldl_cons, ih _ fun u inside => failed u (List.mem_cons_of_mem _ inside),
      failed t List.mem_cons_self, List.flatMap_cons, List.length_append, UInt64.ofNat_add,
      UInt64.add_assoc]

end Tally
end RegistrySeeding
