import RegistrySeeding.Proofs.Text.WhiteSpace
import RegistrySeeding.Text.Align

/-! Lines of a text and columns of a line. Cutting the end of a text off touches its last line
only, and a padded word ends where its column does. -/
namespace RegistrySeeding.Text

section
variable {mark : Char} {lines : List (List Char)}

theorem splitOnLine {line : List Char} (whole : mark ∉ line) (rest : List Char) :
    (line ++ mark :: rest).splitOn mark = line :: rest.splitOn mark := by
  have plain : ∀ c ∈ line, (c == mark) = false := fun c inside =>
    beq_false_of_ne fun same => whole (same ▸ inside)
  have cut : (mark == mark) = true := beq_self_eq_true mark
  rw [List.splitOn_eq_splitOnP, List.splitOnP_append_cons (p := (· == mark)) line rest cut,
    List.splitOnP_eq_singleton plain]
  rfl

theorem splitOnLast {line : List Char} (whole : mark ∉ line) : line.splitOn mark = [line] := by
  rw [List.splitOn_eq_splitOnP]
  exact List.splitOnP_eq_singleton fun c inside =>
    beq_false_of_ne fun same => whole (same ▸ inside)

theorem splitOnLines (whole : ∀ line ∈ lines, mark ∉ line) (rest : List Char) :
    (lines.flatMap (· ++ [mark]) ++ rest).splitOn mark = lines ++ rest.splitOn mark := by
  induction lines with
  | nil => rfl
  | cons line lines ih =>
    rw [List.flatMap_cons, List.append_assoc, List.append_assoc, List.singleton_append,
      splitOnLine (whole line List.mem_cons_self),
      ih fun other inside => whole other (List.mem_cons_of_mem _ inside)]
    rfl

theorem splitOnPrefix {front : List Char} (whole : mark ∉ front) (rest : List Char) :
    ∃ line more, (front ++ rest).splitOn mark = (front ++ line) :: more := by
  induction front with
  | nil => exact List.exists_cons_of_ne_nil (List.splitOn_ne_nil mark rest)
  | cons c front ih =>
    rw [List.mem_cons, not_or] at whole
    obtain ⟨line, more, split⟩ := ih whole.2
    refine ⟨line, more, ?_⟩
    rw [List.cons_append, List.splitOn_eq_splitOnP, List.splitOnP_cons_eq_if_modifyHead,
      ← List.splitOn_eq_splitOnP, split]
    simp [Ne.symm whole.1]

theorem intercalateAppend (lines : List (List Char)) {more : List (List Char)}
    (filled : more ≠ []) : [mark].intercalate (lines ++ more) =
      lines.flatMap (· ++ [mark]) ++ [mark].intercalate more := by
  induction lines with
  | nil => rfl
  | cons line lines ih =>
    obtain ⟨next, later, same⟩ := List.exists_cons_of_ne_nil
      (show lines ++ more ≠ [] from fun empty => filled (List.append_eq_nil_iff.mp empty).2)
    rw [List.cons_append, same, List.intercalate_cons_cons, ← same, ih, List.flatMap_cons,
      List.append_assoc (line ++ [mark])]

theorem splitOnTrimmed (whole : ∀ line ∈ lines, mark ∉ line) {rest : List Char} {c : Char}
    (inside : c ∈ rest) (solid : isBlank c = false) :
    (dropBlankEnd (lines.flatMap (· ++ [mark]) ++ rest)).splitOn mark =
      lines ++ (dropBlankEnd rest).splitOn mark := by
  rw [dropBlankEndAppend _ inside solid, splitOnLines whole]

end

structure Word (cs : List Char) : Prop where
  filled : cs ≠ []
  solid : ∀ c ∈ cs, isBlank c = false

instance (cs : List Char) : Decidable (Word cs) :=
  decidable_of_iff (cs ≠ [] ∧ cs.any isBlank = false) (by
    simp only [List.any_eq_false, Bool.not_eq_true]
    exact ⟨fun both => ⟨both.1, both.2⟩, fun plain => ⟨plain.filled, plain.solid⟩⟩)

theorem Word.plain {word : List Char} {c : Char} (plain : Word word) (gap : isBlank c = true) :
    c ∉ word := by
  intro inside
  rw [plain.solid c inside] at gap
  contradiction

theorem dropBlankEndWord (before : List Char) {word : List Char} (plain : Word word) :
    dropBlankEnd (before ++ word) = before ++ word := by
  obtain ⟨word, c, rfl⟩ := (List.eq_nil_or_concat' word).resolve_left plain.filled
  have solid := plain.solid c (by simp)
  rw [← List.append_assoc]
  exact List.rdropWhile_concat_neg isBlank _ c (by simp [solid])

def columns (cs : List Char) : List (List Char) := (cs.splitOnP isBlank).filter (· ≠ [])

theorem columnsAppend (before : List Char) {c : Char} (gap : isBlank c = true) (after : List Char) :
    columns (before ++ c :: after) = columns before ++ columns after := by
  rw [columns, List.splitOnP_append_cons before after gap, List.filter_append]
  rfl

theorem columnsWord {word : List Char} (plain : Word word) : columns word = [word] := by
  rw [columns, List.splitOnP_eq_singleton plain.solid]
  simp [plain.filled]

theorem columnsGapStart {gap : List Char} (blank : ∀ c ∈ gap, isBlank c = true)
    (after : List Char) : columns (gap ++ after) = columns after := by
  induction gap with
  | nil => rfl
  | cons c gap ih =>
    have first : isBlank c = true := blank c List.mem_cons_self
    have rest := columnsAppend [] first (gap ++ after)
    exact rest.trans (ih fun d inside => blank d (List.mem_cons_of_mem c inside))

theorem columnsGapEnd (before : List Char) {gap : List Char}
    (blank : ∀ c ∈ gap, isBlank c = true) : columns (before ++ gap) = columns before := by
  cases gap with
  | nil => rw [List.append_nil]
  | cons c gap =>
    have rest := columnsGapStart (fun d inside => blank d (List.mem_cons_of_mem c inside)) []
    rw [List.append_nil] at rest
    rw [columnsAppend before (blank c List.mem_cons_self), rest]
    exact List.append_nil _

def ends : Nat → List Char → List Nat
  | _, [] => []
  | n, c :: rest =>
    if !isBlank c && rest.head?.all isBlank then (n + 1) :: ends (n + 1) rest else ends (n + 1) rest

theorem endsGap {gap : List Char} (blank : ∀ c ∈ gap, isBlank c = true) (rest : List Char)
    (n : Nat) : ends n (gap ++ rest) = ends (n + gap.length) rest := by
  induction gap generalizing n with
  | nil => rfl
  | cons c gap ih =>
    have later := ih (fun d inside => blank d (List.mem_cons_of_mem c inside)) (n + 1)
    rw [List.length_cons, Nat.add_comm gap.length, ← Nat.add_assoc, ← later]
    simp [ends, blank c List.mem_cons_self]

theorem endsWord {word rest : List Char} (plain : Word word) (parted : rest.head?.all isBlank)
    (n : Nat) : ends n (word ++ rest) = (n + word.length) :: ends (n + word.length) rest := by
  obtain ⟨filled, solid⟩ := plain
  induction word generalizing n with
  | nil => contradiction
  | cons c word ih =>
    have here : isBlank c = false := solid c List.mem_cons_self
    rw [List.length_cons, Nat.add_comm word.length, ← Nat.add_assoc]
    cases word with
    | nil => simp [ends, here, parted]
    | cons d word =>
      have next : isBlank d = false := solid d (by simp)
      rw [← ih (n + 1) (List.cons_ne_nil d word) fun e inside =>
        solid e (List.mem_cons_of_mem c inside)]
      simp [ends, here, next]

section
variable (width : Nat) {s : String}

theorem blankSpaces (n : Nat) : ∀ c ∈ List.replicate n ' ', isBlank c = true := by
  intro c inside
  rw [List.eq_of_mem_replicate inside]
  rfl

theorem padEndSpaces (s : String) :
    (padEnd width s).toList = s.toList ++ List.replicate (width - s.toList.length) ' ' := by
  simp [padEnd, Column.fit, Side.before]

theorem padStartSpaces (s : String) :
    (padStart width s).toList = List.replicate (width - s.toList.length) ' ' ++ s.toList := by
  simp [padStart, Column.fit, Side.before]

theorem padEndLength (fits : s.toList.length ≤ width) : (padEnd width s).toList.length = width :=
  (fitLength _ _ rfl).trans (Nat.max_eq_left fits)

theorem padStartLength (fits : s.toList.length ≤ width) :
    (padStart width s).toList.length = width :=
  (fitLength _ _ rfl).trans (Nat.max_eq_left fits)

theorem columnsPadEnd (plain : Word s.toList) : columns (padEnd width s).toList = [s.toList] := by
  rw [padEndSpaces, columnsGapEnd _ (blankSpaces _), columnsWord plain]

theorem columnsPadStart (plain : Word s.toList) :
    columns (padStart width s).toList = [s.toList] := by
  rw [padStartSpaces, columnsGapStart (blankSpaces _), columnsWord plain]

theorem endsPadStart (plain : Word s.toList) (fits : s.toList.length ≤ width) {rest : List Char}
    (parted : rest.head?.all isBlank) (n : Nat) :
    ends n ((padStart width s).toList ++ rest) = (n + width) :: ends (n + width) rest := by
  rw [padStartSpaces, List.append_assoc, endsGap (blankSpaces _), endsWord plain parted,
    List.length_replicate, show n + (width - s.toList.length) + s.toList.length = n + width by omega]

end

end RegistrySeeding.Text
