import Mathlib.Algebra.GroupWithZero.Nat
import RegistrySeeding.Proofs.Record.RoundTrip

/-! Sums of counters. Any word may stand in a document as a counter. A build that wraps adds them to
what the sum of their numbers leaves when it is divided by the range of a word, so a check or a total
made of such a sum is right exactly for numbers whose sum the wrapping leaves as it is. A build that
panics has no answer for the others. -/
namespace RegistrySeeding

theorem wordsAdded (words : List UInt64) (start : UInt64) :
    (words.foldl (· + ·) start).toNat =
      (start.toNat + (words.map UInt64.toNat).sum) % 2 ^ 64 := by
  induction words generalizing start with
  | nil =>
    have within := start.toNat_lt
    simp only [List.foldl_nil, List.map_nil, List.sum_nil]
    omega
  | cons w rest ih =>
    rw [List.foldl_cons, ih, UInt64.toNat_add, List.map_cons, List.sum_cons]
    omega

-- A sum only grows, so it stays inside a word to the end or is out of it from some word on.
theorem sumPanics (words : List UInt64) (start : UInt64) :
    (Overflow.panics.sum words start).map UInt64.toNat =
      let total := start.toNat + (words.map UInt64.toNat).sum
      if total < 2 ^ 64 then some total else none := by
  induction words generalizing start with
  | nil =>
    have within := start.toNat_lt
    simp [Overflow.sum, within]
  | cons w rest ih =>
    rw [Overflow.sum, List.foldlM_cons, List.map_cons, List.sum_cons, ← Nat.add_assoc]
    by_cases fits : start.toNat + w.toNat < 2 ^ 64
    · have added : (start + w).toNat = start.toNat + w.toNat := by
        rw [UInt64.toNat_add, Nat.mod_eq_of_lt fits]
      have one : Overflow.panics.add start w = some (start + w) := if_pos fits
      rw [one, ← added]
      exact ih (start + w)
    · have one : Overflow.panics.add start w = none := if_neg fits
      rw [one]
      exact (if_neg (by omega)).symm

namespace Tally

def judged (t : Tally) : Nat := t.created.toNat + t.skipped.toNat + t.failed.toNat

theorem judgedBelow (t : Tally) : t.judged < 3 * 2 ^ 64 := by
  have created := t.created.toNat_lt
  have skipped := t.skipped.toNat_lt
  have failed := t.failed.toNat_lt
  unfold judged
  omega

theorem conservedRemainder (t : Tally) :
    t.conserved = true ↔ t.judged % 2 ^ 64 = t.attempted.toNat := by
  have sum : (t.created + t.skipped + t.failed).toNat = t.judged % 2 ^ 64 := by
    rw [UInt64.toNat_add, UInt64.toNat_add, judged]
    omega
  rw [conserved, beq_iff_eq, ← UInt64.toNat_inj, sum]

-- A sum of three words wraps twice at most.
theorem conservedRounds (t : Tally) : t.conserved = true ↔
    ∃ rounds ≤ 2, t.judged = t.attempted.toNat + rounds * 2 ^ 64 := by
  have below := t.judgedBelow
  have word := t.attempted.toNat_lt
  rw [conservedRemainder]
  constructor
  · intro same
    exact ⟨t.judged / 2 ^ 64, by omega, by omega⟩
  · rintro ⟨rounds, -, same⟩
    omega

theorem conservedRight (t : Tally) : (t.conserved = true ↔ t.judged = t.attempted.toNat) ↔
    t.judged ≠ t.attempted.toNat + 2 ^ 64 ∧ t.judged ≠ t.attempted.toNat + 2 * 2 ^ 64 := by
  have below := t.judgedBelow
  have word := t.attempted.toNat_lt
  rw [conservedRemainder]
  omega

theorem conservedPanics (t : Tally) : t.conservedIn .panics =
    if t.judged < 2 ^ 64 then some (decide (t.judged = t.attempted.toNat)) else none := by
  have total := sumPanics [t.skipped, t.failed] t.created
  have numbers : t.created.toNat + ([t.skipped, t.failed].map UInt64.toNat).sum = t.judged := by
    simp only [List.map_cons, List.map_nil, List.sum_cons, List.sum_nil, judged]
    omega
  rw [numbers] at total
  rw [conservedIn]
  by_cases fits : t.judged < 2 ^ 64
  · obtain ⟨sum, came, same⟩ := Option.map_eq_some_iff.mp (total.trans (if_pos fits))
    rw [came, if_pos fits, Option.map_some, ← same]
    simp only [UInt64.toNat_inj]
    rfl
  · rw [Option.map_eq_none_iff.mp (total.trans (if_neg fits)), if_neg fits, Option.map_none]

theorem written (t : Tally) : codec.decode (codec.encode t) = .ok t :=
  fitsIn.encoded (by decide) trivial trivial

end Tally

namespace Outcome

def failedCount (o : Outcome) : Nat := (o.stages.map fun t => t.failed.toNat).sum

theorem totalRemainder (o : Outcome) : o.totalFailed.toNat = o.failedCount % 2 ^ 64 := by
  have numbers : (o.stages.map (·.failed)).map UInt64.toNat =
      o.stages.map fun t => t.failed.toNat := List.map_map
  rw [totalFailed, wordsAdded, numbers, failedCount, UInt64.toNat_zero, Nat.zero_add]

theorem totalRight (o : Outcome) :
    o.totalFailed.toNat = o.failedCount ↔ o.failedCount < 2 ^ 64 := by
  rw [totalRemainder]
  omega

theorem totalPanics (o : Outcome) : (o.totalFailedIn .panics).map UInt64.toNat =
    if o.failedCount < 2 ^ 64 then some o.failedCount else none := by
  have numbers : (o.stages.map (·.failed)).map UInt64.toNat =
      o.stages.map fun t => t.failed.toNat := List.map_map
  rw [totalFailedIn, sumPanics, numbers, UInt64.toNat_zero, Nat.zero_add, failedCount]

theorem written {o : Outcome} (proper : o.ProperTimes) (years : o.FourDigitYears) :
    codec.decode (codec.encode o) = .ok o :=
  fitsIn.encoded (by decide) proper years

theorem stagesWritten (stages : List Tally) :
    ∃ text o, codec.decode text = .ok o ∧ o.stages = stages := by
  let epoch := Time.Instant.ofUnix 0 0
  have proper : epoch.Proper := ⟨by decide, by decide, by decide⟩
  have years : epoch.FourDigitYear := by
    unfold Time.Instant.FourDigitYear
    decide
  exact ⟨_, { begun "" epoch with stages }, written ⟨proper, nofun⟩ ⟨years, nofun⟩, rfl⟩

end Outcome

/-- No counters are refused, so no sum of them is out of reach. -/
theorem countersSummedAsWords (t : Tally) (o : Outcome) :
    ((∃ text, Tally.codec.decode text = .ok t) ∧
      (t.conservedIn .wraps = some true ↔
        ∃ rounds ≤ 2, t.judged = t.attempted.toNat + rounds * 2 ^ 64) ∧
      ((t.conservedIn .wraps = some true ↔ t.judged = t.attempted.toNat) ↔
        t.judged ≠ t.attempted.toNat + 2 ^ 64 ∧ t.judged ≠ t.attempted.toNat + 2 * 2 ^ 64) ∧
      t.conservedIn .panics =
        if t.judged < 2 ^ 64 then some (decide (t.judged = t.attempted.toNat)) else none) ∧
    (∃ text given, Outcome.codec.decode text = .ok given ∧ given.stages = o.stages) ∧
    (o.totalFailedIn .wraps).map UInt64.toNat = some (o.failedCount % 2 ^ 64) ∧
    ((o.totalFailedIn .wraps).map UInt64.toNat = some o.failedCount ↔ o.failedCount < 2 ^ 64) ∧
    (o.totalFailedIn .panics).map UInt64.toNat =
      if o.failedCount < 2 ^ 64 then some o.failedCount else none := by
  have check : t.conservedIn .wraps = some true ↔ t.conserved = true := by
    rw [t.conservedWraps, Option.some_inj]
  have total : (o.totalFailedIn .wraps).map UInt64.toNat = some o.totalFailed.toNat := by
    rw [o.totalFailedWraps, Option.map_some]
  rw [check, total, Option.some_inj, Option.some_inj]
  refine ⟨⟨⟨_, t.written⟩, t.conservedRounds, t.conservedRight, t.conservedPanics⟩, ?_⟩
  exact ⟨Outcome.stagesWritten o.stages, o.totalRemainder, o.totalRight, o.totalPanics⟩

def halvesTally : String :=
  "\x7b\"stage\":\"chains\",\"attempted\":0,\"created\":9223372036854775808," ++
  "\"skippedDuplicate\":9223372036854775808,\"failed\":0,\"failures\":[]\x7d"

def halvesOutcome : String :=
  "\x7b\"runId\":\"r\",\"startedAt\":\"2024-01-01T00:00:00Z\",\"finishedAt\":null,\"stages\":[" ++
  "[\"chains\",9223372036854775808,0,0,9223372036854775808,[]]," ++
  "[\"assets\",9223372036854775808,0,0,9223372036854775808,[]]],\"fatal\":null\x7d"

theorem halvesUnseen :
    (∃ t, Tally.codec.decode halvesTally = .ok t ∧ t.judged = 2 ^ 64 ∧ t.attempted.toNat = 0 ∧
      t.conservedIn .wraps = some true ∧ t.conservedIn .panics = none) ∧
    (∃ o, Outcome.codec.decode halvesOutcome = .ok o ∧ o.failedCount = 2 ^ 64 ∧
      o.totalFailedIn .wraps = some 0 ∧ o.totalFailedIn .panics = none) ∧
    ∀ overflow : Overflow,
      (¬∀ text t, Tally.codec.decode text = .ok t →
        t.conservedIn overflow = some (decide (t.judged = t.attempted.toNat))) ∧
      ¬∀ text o, Outcome.codec.decode text = .ok o →
        (o.totalFailedIn overflow).map UInt64.toNat = some o.failedCount := by
  have tally : Tally.codec.decode halvesTally =
      .ok ⟨.chains, 0, 9223372036854775808, 9223372036854775808, 0, []⟩ := by decide +kernel
  have outcome : Outcome.codec.decode halvesOutcome = .ok ⟨"r", ⟨⟨2024, 1, 1⟩, 0, 0⟩, none,
      [⟨.chains, 9223372036854775808, 0, 0, 9223372036854775808, []⟩,
        ⟨.assets, 9223372036854775808, 0, 0, 9223372036854775808, []⟩], none⟩ := by
    decide +kernel
  refine ⟨⟨_, tally, by decide, by decide, by decide, by decide⟩,
    ⟨_, outcome, by decide, by decide, by decide⟩, fun overflow =>
    ⟨fun right => ?_, fun right => ?_⟩⟩
  · have unseen := right _ _ tally
    cases overflow <;> exact absurd unseen (by decide)
  · have unseen := right _ _ outcome
    cases overflow <;> exact absurd unseen (by decide)

end RegistrySeeding
