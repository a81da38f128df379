import Mathlib.Data.Nat.Digits.Defs
import RegistrySeeding.Proofs.Seed.Attribution
import RegistrySeeding.Proofs.Text.Columns
import RegistrySeeding.Summary

/-! What a reader gets back from the table of a run. Five lines tell the run and its stages, whatever
the texts of the failures are; the failures follow line by line, and what ended the run comes last. -/
namespace RegistrySeeding.Summary
open Text (Word columns ends padStart padEnd)

theorem decimalWord (n : Nat) : Word (toString n).toList := by
  rw [Nat.toString_eq_ofList_toDigits, String.toList_ofList]
  refine ⟨Nat.toDigits_ne_nil, fun c inside => ?_⟩
  have digit := Nat.isDigit_of_mem_toDigits (by omega) (by omega) inside
  rw [Char.isDigit_iff_toNat] at digit
  have low : '0'.toNat = 48 := rfl
  have high : '9'.toNat = 57 := rfl
  rw [Bool.eq_false_iff, ne_eq, Text.isBlankIff]
  simp only [Text.whiteSpace, List.mem_cons, List.not_mem_nil, or_false]
  omega

theorem decimalLength {n width : Nat} (positive : 0 < width) (small : n < 10 ^ width) :
    (toString n).toList.length ≤ width := by
  rw [Nat.toString_eq_ofList_toDigits, String.toList_ofList]
  exact (Nat.length_toDigits_le_iff (by omega) positive).mpr small

theorem rowParts (stage attempted created skipped failed : String) :
    (row stage attempted created skipped failed).toList =
      (padEnd 12 stage).toList ++ ' ' :: ((padStart 9 attempted).toList ++ ' ' ::
        ((padStart 8 created).toList ++ ' ' :: ((padStart 8 skipped).toList ++ ' ' ::
          (padStart 7 failed).toList))) := by
  simp [row]

theorem rowColumns {stage attempted created skipped failed : String} (kind : Word stage.toList)
    (first : Word attempted.toList) (second : Word created.toList) (third : Word skipped.toList)
    (fourth : Word failed.toList) : columns (row stage attempted created skipped failed).toList =
      [stage, attempted, created, skipped, failed].map String.toList := by
  rw [rowParts, Text.columnsAppend _ rfl, Text.columnsAppend _ rfl, Text.columnsAppend _ rfl,
    Text.columnsAppend _ rfl, Text.columnsPadEnd 12 kind, Text.columnsPadStart 9 first,
    Text.columnsPadStart 8 second, Text.columnsPadStart 8 third, Text.columnsPadStart 7 fourth]
  rfl

structure Aligned (stage : String) (line : List Char) : Prop where
  length : line.length = 48
  first : line.take 13 = stage.toList ++ List.replicate (13 - stage.toList.length) ' '
  ends : ends 13 (line.drop 13) = [22, 31, 40, 48]

theorem rowAligned {stage attempted created skipped failed : String}
    (first : Word attempted.toList) (second : Word created.toList) (third : Word skipped.toList)
    (fourth : Word failed.toList) (kindFits : stage.toList.length ≤ 12)
    (firstFits : attempted.toList.length ≤ 9) (secondFits : created.toList.length ≤ 8)
    (thirdFits : skipped.toList.length ≤ 8) (fourthFits : failed.toList.length ≤ 7) :
    Aligned stage (row stage attempted created skipped failed).toList := by
  have front : ((padEnd 12 stage).toList ++ [' ']).length = 13 := by
    rw [List.length_append, Text.padEndLength 12 kindFits]
    rfl
  rw [rowParts, List.append_cons]
  refine ⟨?_, ?_, ?_⟩
  · rw [List.length_append, front]
    simp only [List.length_append, List.length_cons, Text.padStartLength 9 firstFits,
      Text.padStartLength 8 secondFits, Text.padStartLength 8 thirdFits,
      Text.padStartLength 7 fourthFits]
  · rw [List.take_left' front, Text.padEndSpaces, List.append_assoc, ← List.replicate_succ',
      show 12 - stage.toList.length + 1 = 13 - stage.toList.length by omega]
  · have gap (n : Nat) (rest : List Char) : ends n (' ' :: rest) = ends (n + 1) rest := rfl
    rw [List.drop_left' front, Text.endsPadStart 9 first firstFits rfl, gap,
      Text.endsPadStart 8 second secondFits rfl, gap, Text.endsPadStart 8 third thirdFits rfl, gap,
      ← List.append_nil (padStart 7 failed).toList, Text.endsPadStart 7 fourth fourthFits rfl]
    rfl

def FirstTally (o : Outcome) (stage : Stage) (t : Tally) : Prop :=
  ∃ before after, o.stages = before ++ t :: after ∧ (∀ u ∈ before, u.stage ≠ stage) ∧
    t.stage = stage

theorem firstTally {o : Outcome} {stage : Stage} {t : Tally} :
    o.stage? stage = some t ↔ FirstTally o stage t := by
  rw [Outcome.stage?, List.find?_eq_some_iff_append]
  constructor
  · rintro ⟨own, before, after, split, others⟩
    exact ⟨before, after, split, by simpa using others, by simpa using own⟩
  · rintro ⟨before, after, split, others, own⟩
    exact ⟨by simpa using own, before, after, split, by simpa using others⟩

theorem noTally {o : Outcome} {stage : Stage} :
    o.stage? stage = none ↔ ∀ t ∈ o.stages, t.stage ≠ stage := by
  rw [Outcome.stage?, List.find?_eq_none]
  simp

structure Row (o : Outcome) (stage : Stage) (line : List Char) : Prop where
  counted : ∀ t, FirstTally o stage t → columns line =
    [stage.name, toString t.attempted.toNat, toString t.created.toNat, toString t.skipped.toNat,
      toString t.failed.toNat].map String.toList
  missing : columns line = [stage.name, "not", "run"].map String.toList ↔
    ∀ t ∈ o.stages, t.stage ≠ stage
  aligned : ∀ t, FirstTally o stage t → t.attempted.toNat < 10 ^ 9 → t.created.toNat < 10 ^ 8 →
    t.skipped.toNat < 10 ^ 8 → t.failed.toNat < 10 ^ 7 → Aligned stage.name line

theorem kindWord (stage : Stage) : Word stage.name.toList := by
  cases stage <;> decide

theorem missingColumns (stage : Stage) : columns (padEnd 12 stage.name ++ " " ++
    padStart 9 "not run").toList = [stage.name, "not", "run"].map String.toList := by
  cases stage <;> decide +kernel

theorem stageRow (o : Outcome) (stage : Stage) : Row o stage (stageLine o stage).toList := by
  unfold stageLine
  cases found : o.stage? stage with
  | none =>
    have none := noTally.mp found
    have absent (t : Tally) (first : FirstTally o stage t) : False := by
      rw [firstTally.mpr first] at found
      contradiction
    exact ⟨fun t first => (absent t first).elim, ⟨fun _ => none, fun _ => missingColumns stage⟩,
      fun t first => (absent t first).elim⟩
  | some t =>
    have only (u : Tally) (first : FirstTally o stage u) : u = t :=
      Option.some.inj ((firstTally.mpr first).symm.trans found)
    have counted := rowColumns (kindWord stage) (decimalWord t.attempted.toNat)
      (decimalWord t.created.toNat) (decimalWord t.skipped.toNat) (decimalWord t.failed.toNat)
    refine ⟨fun u first => ?_, ⟨fun same => ?_, fun none => ?_⟩,
      fun u first attempted created skipped failed => ?_⟩
    · rw [only u first]
      exact counted
    · have lengths := congrArg List.length (counted.symm.trans same)
      simp at lengths
    · rw [noTally.mpr none] at found
      contradiction
    · obtain rfl := only u first
      exact rowAligned (decimalWord _) (decimalWord _) (decimalWord _) (decimalWord _)
        (by cases stage <;> decide) (decimalLength (by omega) attempted)
        (decimalLength (by omega) created) (decimalLength (by omega) skipped)
        (decimalLength (by omega) failed)

def base (o : Outcome) : List String :=
  ("Seeding run " ++ o.runId) :: header :: Stage.all.map (stageLine o)

def shown (o : Outcome) : List (List Char) := (table o).toList.splitOn '\n'

theorem baseLength {o : Outcome} : ((base o).map String.toList).length = 5 := rfl

theorem linesBase (o : Outcome) :
    lines o = base o ++ (failureLines o.failures ++ abortLines o.fatal) := by
  simp [lines, base]

theorem padPlain (width : Nat) {s : String} (plain : '\n' ∉ s.toList) :
    '\n' ∉ (padEnd width s).toList ∧ '\n' ∉ (padStart width s).toList := by
  have space (n : Nat) : '\n' ∉ List.replicate n ' ' := fun inside =>
    absurd (List.eq_of_mem_replicate inside) (by decide)
  rw [Text.padEndSpaces, Text.padStartSpaces, List.mem_append, List.mem_append]
  exact ⟨not_or.mpr ⟨plain, space _⟩, not_or.mpr ⟨space _, plain⟩⟩

theorem stageLinePlain (o : Outcome) (stage : Stage) : '\n' ∉ (stageLine o stage).toList := by
  have decimal (width n : Nat) := (padPlain width ((decimalWord n).plain rfl)).2
  have kind := (padPlain 12 ((kindWord stage).plain rfl)).1
  unfold stageLine
  split
  · simp only [rowParts, List.mem_append, List.mem_cons, kind, decimal, Char.reduceEq, or_false,
      not_false_eq_true]
  · have missing : '\n' ∉ (padStart 9 "not run").toList := (padPlain 9 (by decide)).2
    simp [kind, missing]

theorem basePlain {o : Outcome} (plain : '\n' ∉ o.runId.toList) :
    ∀ line ∈ (base o).map String.toList, '\n' ∉ line := by
  intro line inside
  obtain ⟨s, listed, rfl⟩ := List.mem_map.mp inside
  simp only [base, Stage.all, List.map_cons, List.map_nil, List.mem_cons, List.not_mem_nil,
    or_false] at listed
  rcases listed with rfl | rfl | rfl | rfl | rfl
  · simp [plain]
  · decide
  · exact stageLinePlain o .chains
  · exact stageLinePlain o .assets
  · exact stageLinePlain o .deployments

theorem rowSuffix (stage attempted created skipped failed : String) :
    failed.toList <:+ (row stage attempted created skipped failed).toList := by
  unfold row
  rw [String.toList_append, Text.padStartSpaces, ← List.append_assoc]
  exact List.suffix_append _ _

theorem stageLineSuffix (o : Outcome) (stage : Stage) :
    ∃ word, Word word ∧ word <:+ (stageLine o stage).toList := by
  unfold stageLine
  split
  · exact ⟨_, decimalWord _, rowSuffix _ _ _ _ _⟩
  · refine ⟨"run".toList, by decide, ?_⟩
    rw [String.toList_append, Text.padStartSpaces]
    exact ⟨(padEnd 12 stage.name ++ " " ++ "  not ").toList, by simp⟩

theorem tableText (o : Outcome) :
    (table o).toList = Text.dropBlankEnd (['\n'].intercalate ((lines o).map String.toList)) := by
  simp [table, Text.trimEnd]

theorem shownAlone {o : Outcome} (plain : '\n' ∉ o.runId.toList)
    (alone : failureLines o.failures ++ abortLines o.fatal = []) :
    shown o = (base o).map String.toList := by
  have whole := basePlain plain
  obtain ⟨word, solid, before, split⟩ := stageLineSuffix o .deployments
  have four : (base o).map String.toList = [("Seeding run " ++ o.runId).toList, header.toList,
      (stageLine o .chains).toList, (stageLine o .assets).toList] ++
        [(stageLine o .deployments).toList] := rfl
  rw [shown, tableText, linesBase, alone, List.append_nil]
  rw [four] at whole ⊢
  -- The last row ends in a word, so nothing is cut off.
  rw [Text.intercalateAppend _ (List.cons_ne_nil _ _), List.intercalate_singleton, ← split,
    ← List.append_assoc, Text.dropBlankEndWord _ solid, List.append_assoc, split,
    Text.splitOnLines fun line inside => whole line (List.mem_append_left _ inside),
    Text.splitOnLast (stageLinePlain o .deployments)]

theorem shownBefore {o : Outcome} (plain : '\n' ∉ o.runId.toList) {front : List String}
    {last : String} (split : failureLines o.failures ++ abortLines o.fatal = front ++ [last])
    {c : Char} (inside : c ∈ last.toList) (solid : Text.isBlank c = false) :
    ∃ tail, shown o = (base o).map String.toList ++ tail ∧
      ((∀ line ∈ front, '\n' ∉ line.toList) → tail = front.map String.toList ++
        (Text.dropBlankEnd last.toList).splitOn '\n') := by
  have joined : ['\n'].intercalate ((lines o).map String.toList) =
      ((base o).map String.toList).flatMap (· ++ ['\n']) ++
        ((front.map String.toList).flatMap (· ++ ['\n']) ++ last.toList) := by
    rw [linesBase, split, List.map_append, List.map_append,
      Text.intercalateAppend _ (by simp), Text.intercalateAppend _ (by simp)]
    simp
  refine ⟨(Text.dropBlankEnd ((front.map String.toList).flatMap (· ++ ['\n']) ++
    last.toList)).splitOn '\n', ?_, fun whole => ?_⟩
  · rw [shown, tableText, joined,
      Text.splitOnTrimmed (basePlain plain) (List.mem_append_right _ inside) solid]
  · refine Text.splitOnTrimmed (fun line member => ?_) inside solid
    obtain ⟨s, listed, rfl⟩ := List.mem_map.mp member
    exact whole s listed

theorem lastSolid {o : Outcome} {last : String}
    (ending : (failureLines o.failures ++ abortLines o.fatal).getLast? = some last) :
    ∃ c ∈ last.toList, Text.isBlank c = false := by
  cases fatal : o.fatal with
  | some a =>
    have own : "Aborted: " ++ a.text = last := by simpa [fatal, abortLines] using ending
    exact ⟨'A', by simp [← own], rfl⟩
  | none =>
    rw [fatal, abortLines, List.append_nil] at ending
    rcases List.eq_nil_or_concat' o.failures with quiet | ⟨front, f, split⟩
    · simp [failureLines, quiet] at ending
    · have parts : failureLines o.failures =
          ("" :: "Failures:" :: front.map failureLine) ++ [failureLine f] := by
        simp [failureLines, split]
      rw [parts, List.getLast?_concat] at ending
      exact ⟨'[', by simp [← Option.some.inj ending, failureLine], rfl⟩

theorem shownBase {o : Outcome} (plain : '\n' ∉ o.runId.toList) :
    ∃ tail, shown o = (base o).map String.toList ++ tail := by
  rcases List.eq_nil_or_concat' (failureLines o.failures ++ abortLines o.fatal) with
    alone | ⟨front, last, split⟩
  · exact ⟨[], by rw [shownAlone plain alone, List.append_nil]⟩
  · have ending : (failureLines o.failures ++ abortLines o.fatal).getLast? = some last := by
      rw [split, List.getLast?_concat]
    obtain ⟨c, inside, solid⟩ := lastSolid ending
    obtain ⟨tail, same, -⟩ := shownBefore plain split inside solid
    exact ⟨tail, same⟩

def told (f : ItemFailure) : List Char :=
  ("  [" ++ f.stage.name ++ "] " ++ f.key ++ ": " ++ f.detail).toList

/-- Lines as they were, but for white space at the end of the last one. -/
inductive Cut : List (List Char) → List (List Char) → Prop where
  | whole (lines : List (List Char)) : Cut lines lines
  | last (lines : List (List Char)) {line gap : List Char} (cut : Text.Gap gap) :
      Cut (lines ++ [line ++ gap]) (lines ++ [line])

inductive Below (o : Outcome) : List (List Char) → Prop where
  | clean (quiet : o.failures = []) (completed : o.fatal = none) : Below o []
  | failures {failed : List (List Char)} (loud : o.failures ≠ []) (completed : o.fatal = none)
      (cut : Cut (o.failures.map told) failed) : Below o ([] :: "Failures:".toList :: failed)
  | aborted {fatal : Abort} {line : List Char} {more : List (List Char)} (quiet : o.failures = [])
      (ended : o.fatal = some fatal) (named : "Aborted: ".toList <+: line) :
      Below o ([] :: line :: more)
  | both {fatal : Abort} {line : List Char} {more : List (List Char)} (loud : o.failures ≠ [])
      (ended : o.fatal = some fatal) (named : "Aborted: ".toList <+: line) :
      Below o ([] :: "Failures:".toList :: o.failures.map told ++ [] :: line :: more)

theorem failureLineTold (f : ItemFailure) : (failureLine f).toList = told f := rfl

theorem failureLinePlain {f : ItemFailure}
    (own : '\n' ∉ f.key.toList ∧ '\n' ∉ f.detail.toList) : '\n' ∉ (failureLine f).toList := by
  have kind : '\n' ∉ f.stage.name.toList := (kindWord f.stage).plain rfl
  simp [failureLine, own, kind]

theorem failureLinesPlain {failures : List ItemFailure}
    (own : ∀ f ∈ failures, '\n' ∉ f.key.toList ∧ '\n' ∉ f.detail.toList) :
    ∀ line ∈ failureLines failures, '\n' ∉ line.toList := by
  unfold failureLines
  split
  · exact nofun
  · intro line inside
    rcases List.mem_cons.mp inside with rfl | inside
    · decide
    · rcases List.mem_cons.mp inside with rfl | inside
      · decide
      · obtain ⟨f, listed, rfl⟩ := List.mem_map.mp inside
        exact failureLinePlain (own f listed)

section
variable {o : Outcome} (plain : '\n' ∉ o.runId.toList)
  (own : ∀ f ∈ o.failures, '\n' ∉ f.key.toList ∧ '\n' ∉ f.detail.toList)
include plain own

theorem failuresShown (completed : o.fatal = none) {front : List ItemFailure} {last : ItemFailure}
    (split : o.failures = front ++ [last]) : (shown o).drop 5 =
      [] :: "Failures:".toList :: front.map told ++ [Text.dropBlankEnd (told last)] := by
  have listed : failureLines o.failures ++ abortLines o.fatal =
      ("" :: "Failures:" :: front.map failureLine) ++ [failureLine last] := by
    simp [completed, abortLines, failureLines, split]
  have plainLast : '\n' ∉ Text.dropBlankEnd (told last) := by
    obtain ⟨gap, cut, -⟩ := Text.dropBlankEndCut (told last)
    have whole := failureLinePlain (own last (by simp [split]))
    rw [failureLineTold, cut, List.mem_append, not_or] at whole
    exact whole.1
  have inside : '[' ∈ (failureLine last).toList := by simp [failureLine]
  obtain ⟨tail, same, rest⟩ := shownBefore plain listed inside rfl
  rw [same, List.drop_left' baseLength, rest]
  · rw [failureLineTold, Text.splitOnLast plainLast, List.map_cons, List.map_cons, List.map_map]
    rfl
  · intro line member
    refine failureLinesPlain own line ?_
    have whole : line ∈ failureLines o.failures ++ abortLines o.fatal := by
      rw [listed]
      exact List.mem_append_left _ member
    rwa [completed, abortLines, List.append_nil] at whole

theorem abortedShown {fatal : Abort} (ended : o.fatal = some fatal) : ∃ line more,
    (shown o).drop 5 = (failureLines o.failures).map String.toList ++ [] :: line :: more ∧
      "Aborted: ".toList <+: line := by
  have listed : failureLines o.failures ++ abortLines o.fatal =
      (failureLines o.failures ++ [""]) ++ ["Aborted: " ++ fatal.text] := by
    simp [ended, abortLines]
  have inside : 'f' ∈ fatal.text.toList := by
    simp only [Abort.text, String.toList_append, List.mem_append]
    exact .inl (.inr (by decide))
  have begun := Text.dropBlankEndAppend "Aborted: ".toList inside rfl
  have heading : '\n' ∉ "Aborted: ".toList := by decide
  obtain ⟨line, more, cut⟩ := Text.splitOnPrefix heading (Text.dropBlankEnd fatal.text.toList)
  have within : 'f' ∈ ("Aborted: " ++ fatal.text).toList := by
    rw [String.toList_append]
    exact List.mem_append_right _ inside
  obtain ⟨tail, same, rest⟩ := shownBefore plain listed within rfl
  refine ⟨"Aborted: ".toList ++ line, more, ?_, List.prefix_append _ _⟩
  rw [same, List.drop_left' baseLength, rest, String.toList_append, begun, cut, List.map_append,
    List.append_assoc]
  · rfl
  · intro other member
    rcases List.mem_append.mp member with listed | blank
    · exact failureLinesPlain own other listed
    · rw [List.mem_singleton.mp blank]
      exact List.not_mem_nil

theorem belowShown : Below o ((shown o).drop 5) := by
  cases fatal : o.fatal with
  | none =>
    rcases List.eq_nil_or_concat' o.failures with quiet | ⟨front, last, split⟩
    · have alone : failureLines o.failures ++ abortLines o.fatal = [] := by
        rw [quiet, fatal]
        rfl
      rw [shownAlone plain alone, ← baseLength (o := o), List.drop_length]
      exact .clean quiet fatal
    · obtain ⟨gap, cut, blank⟩ := Text.dropBlankEndCut (told last)
      rw [failuresShown plain own fatal split]
      refine .failures (by simp [split]) fatal ?_
      have ending : Cut (front.map told ++ [Text.dropBlankEnd (told last) ++ gap])
          (front.map told ++ [Text.dropBlankEnd (told last)]) := .last _ blank
      rw [← cut] at ending
      rwa [split, List.map_append]
  | some why =>
    obtain ⟨line, more, same, named⟩ := abortedShown plain own fatal
    rw [same]
    by_cases quiet : o.failures = []
    · rw [quiet]
      exact .aborted quiet fatal named
    · have listed : (failureLines o.failures).map String.toList =
          [] :: "Failures:".toList :: o.failures.map told := by
        rw [failureLines, if_neg (by simpa using quiet), List.map_cons, List.map_cons, List.map_map]
        rfl
      rw [listed]
      exact .both quiet fatal named

end

theorem seedRows {σ : Type} (stamp : Run.Stamp) (source : Source σ) (registry : Registry σ)
    (interrupts : Interrupts σ) (cancelled : Bool) (world : σ) :
    let o := (Run.seed stamp source registry interrupts cancelled world).outcome
    (∀ t ∈ o.stages, ∃ total, t.Balanced total) ∧
    ((∃ stage, ∀ t ∈ o.stages, t.stage ≠ stage) ↔ o.fatal ≠ none) := by
  intro o
  obtain ⟨_, _, told⟩ := Run.seedTold stamp source registry interrupts cancelled world
  refine ⟨fun t inside => ⟨_, told.balanced t inside⟩, ?_⟩
  cases fatal : o.fatal with
  | none =>
    have whole := (Run.stagesReported stamp source registry interrupts cancelled world).2 fatal
    refine ⟨fun missing => ?_, fun aborted => absurd rfl aborted⟩
    obtain ⟨stage, missing⟩ := missing
    have listed : stage ∈ o.stages.map (·.stage) := by
      rw [whole]
      cases stage <;> decide
    obtain ⟨t, inside, own⟩ := List.mem_map.mp listed
    exact absurd own (missing t inside)
  | some why =>
    have kept := (Run.seedKept stamp source registry interrupts cancelled world fatal).2
    have cut : Stage.deployments ∉ why.step.completed := by cases why.step <;> decide
    refine ⟨fun _ => Option.some_ne_none why, fun _ => ⟨.deployments, fun t inside own => cut ?_⟩⟩
    rw [← kept, ← own]
    exact List.mem_map_of_mem inside

/-- What a table tells is what the outcome holds: the run, a row a stage in their order, and below
them the failures and the end. -/
theorem tableReadBack (o : Outcome) (plain : '\n' ∉ o.runId.toList) :
    let shown := (table o).toList.splitOn '\n'
    shown[0]? = some ("Seeding run " ++ o.runId).toList ∧
    (∃ heading, shown[1]? = some heading ∧ Aligned "STAGE" heading ∧ columns heading =
      ["STAGE", "ATTEMPTED", "CREATED", "SKIPPED", "FAILED"].map String.toList) ∧
    (∀ place stage, [Stage.chains, .assets, .deployments][place]? = some stage →
      ∃ line, shown[2 + place]? = some line ∧ Row o stage line) ∧
    ((∀ f ∈ o.failures, '\n' ∉ f.key.toList ∧ '\n' ∉ f.detail.toList) →
      Below o (shown.drop 5)) ∧
    ∀ {σ : Type} (stamp : Run.Stamp) (source : Source σ) (registry : Registry σ)
      (interrupts : Interrupts σ) (cancelled : Bool) (world : σ),
      o = (Run.seed stamp source registry interrupts cancelled world).outcome →
      (∀ t ∈ o.stages, ∃ total, t.Balanced total) ∧
      ((∃ stage, ∀ t ∈ o.stages, t.stage ≠ stage) ↔ o.fatal ≠ none) := by
  intro shown
  obtain ⟨tail, same⟩ := shownBase plain
  have first : shown = (base o).map String.toList ++ tail := same
  have headed : Aligned "STAGE" header.toList :=
    ⟨by decide, by decide, by decide⟩
  refine ⟨by rw [first]; rfl, ⟨header.toList, by rw [first]; rfl, headed, by decide⟩,
    fun place stage listed => ⟨(stageLine o stage).toList, ?_, stageRow o stage⟩,
    belowShown plain, ?_⟩
  · rw [first]
    rcases place with _ | _ | _ | place
    · cases listed
      rfl
    · cases listed
      rfl
    · cases listed
      rfl
    · simp at listed
  · rintro σ stamp source registry interrupts cancelled world rfl
    exact seedRows stamp source registry interrupts cancelled world

def wideOutcome : Outcome where
  runId := "r-1 "
  startedAt := ⟨⟨2026, 1, 2⟩, 0, 0⟩
  finishedAt := none
  stages := [⟨.assets, 18446744073709551615, 0, 1, 1, [⟨.assets, " B", "x: y\t"⟩]⟩,
    ⟨.chains, 1, 1, 0, 0, []⟩, ⟨.assets, 0, 0, 0, 0, []⟩]
  fatal := none

theorem wideOutcomeReadBack :
    let shown := (table wideOutcome).toList.splitOn '\n'
    '\n' ∉ wideOutcome.runId.toList ∧
    (∀ f ∈ wideOutcome.failures, '\n' ∉ f.key.toList ∧ '\n' ∉ f.detail.toList) ∧
    Below wideOutcome (shown.drop 5) ∧
    shown.drop 5 = ["", "Failures:", "  [assets]  B: x: y"].map String.toList ∧
    (∃ line, shown[2]? = some line ∧ Aligned "chains" line) ∧
    ∃ line, shown[3]? = some line ∧
      columns line = ["assets", "18446744073709551615", "0", "1", "1"].map String.toList := by
  intro shown
  have plain : '\n' ∉ wideOutcome.runId.toList := by decide
  have own : ∀ f ∈ wideOutcome.failures, '\n' ∉ f.key.toList ∧ '\n' ∉ f.detail.toList := by decide
  obtain ⟨-, -, rows, below, -⟩ := tableReadBack wideOutcome plain
  obtain ⟨second, secondPlace, chains⟩ := rows 0 .chains rfl
  obtain ⟨third, thirdPlace, assets⟩ := rows 1 .assets rfl
  have chainsFirst : FirstTally wideOutcome .chains ⟨.chains, 1, 1, 0, 0, []⟩ :=
    ⟨[_], _, rfl, by decide, rfl⟩
  have assetsFirst : FirstTally wideOutcome .assets
      ⟨.assets, 18446744073709551615, 0, 1, 1, [⟨.assets, " B", "x: y\t"⟩]⟩ :=
    ⟨[], _, rfl, nofun, rfl⟩
  have aligned : Aligned "chains" second :=
    chains.aligned _ chainsFirst (by decide) (by decide) (by decide) (by decide)
  have counted := (assets.counted _ assetsFirst).trans
    (show _ = ["assets", "18446744073709551615", "0", "1", "1"].map String.toList by decide +kernel)
  have single : wideOutcome.failures = [] ++ [⟨.assets, " B", "x: y\t"⟩] := rfl
  have cut := failuresShown plain own rfl single
  exact ⟨plain, own, below own, cut.trans (by decide +kernel), ⟨second, secondPlace, aligned⟩, third,
    thirdPlace, counted⟩

end RegistrySeeding.Summary
