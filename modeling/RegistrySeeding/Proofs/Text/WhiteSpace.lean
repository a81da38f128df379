import Mathlib.Data.List.DropRight
import RegistrySeeding.Text.Blank

/-! White space at the ends of a text. What is trimmed is white space and none is left; nothing
before a solid character is touched. -/
namespace RegistrySeeding.Text

def whiteSpace : List Nat :=
  [0x0009, 0x000A, 0x000B, 0x000C, 0x000D, 0x0020, 0x0085, 0x00A0, 0x1680, 0x2000, 0x2001, 0x2002,
   0x2003, 0x2004, 0x2005, 0x2006, 0x2007, 0x2008, 0x2009, 0x200A, 0x2028, 0x2029, 0x202F, 0x205F,
   0x3000]

def Gap (cs : List Char) : Prop := ∀ c ∈ cs, c.toNat ∈ whiteSpace

def Blank (s : String) : Prop := Gap s.toList

theorem isBlankIff (c : Char) : isBlank c = true ↔ c.toNat ∈ whiteSpace := by
  simp only [isBlank, blankRanges, whiteSpace, List.any_cons, List.any_nil, Bool.or_eq_true,
    Bool.and_eq_true, decide_eq_true_eq, Bool.false_eq_true, List.mem_cons, List.not_mem_nil,
    or_false]
  omega

theorem gapIff (cs : List Char) : Gap cs ↔ ∀ c ∈ cs, isBlank c = true := by
  simp only [Gap, isBlankIff]

theorem blankIff (s : String) : blank s = true ↔ Blank s := by
  rw [blank, List.all_eq_true, Blank, gapIff]

theorem shownIff {s t : String} : nonBlank s = some t ↔ ¬Blank s ∧ s = t := by
  rw [← blankIff]
  unfold nonBlank
  split <;> simp_all

structure Trims (whole kept : List Char) : Prop where
  parts : ∃ before after, whole = before ++ kept ++ after ∧ Gap before ∧ Gap after
  first : ∀ c ∈ kept.head?, c.toNat ∉ whiteSpace
  last : ∀ c ∈ kept.getLast?, c.toNat ∉ whiteSpace

theorem dropBlankEndCut (cs : List Char) : ∃ cut, cs = dropBlankEnd cs ++ cut ∧ Gap cut := by
  refine ⟨cs.rtakeWhile isBlank, List.rdropWhile_append_rtakeWhile.symm, ?_⟩
  rw [gapIff]
  exact fun c inside => List.mem_rtakeWhile_imp inside

theorem dropBlankEndLast (cs : List Char) :
    ∀ c ∈ (dropBlankEnd cs).getLast?, c.toNat ∉ whiteSpace := by
  intro c last
  obtain ⟨filled, rfl⟩ := List.mem_getLast?_eq_getLast last
  rw [← isBlankIff]
  exact List.rdropWhile_last_not isBlank cs filled

theorem trimTrims (s : String) : Trims s.toList (trim s).toList := by
  rw [trim, String.toList_ofList]
  obtain ⟨after, split, gap⟩ := dropBlankEndCut (dropBlankStart s.toList)
  have front : Gap (s.toList.takeWhile isBlank) := by
    rw [gapIff]
    exact fun c inside => List.mem_takeWhile_imp inside
  refine ⟨⟨s.toList.takeWhile isBlank, after, ?_, front, gap⟩, fun c head => ?_,
    dropBlankEndLast _⟩
  · rw [List.append_assoc, ← split]
    exact List.takeWhile_append_dropWhile.symm
  · -- What ends in a solid character begins as the text did before its end was cut.
    have start : (dropBlankStart s.toList).head? = some c := by
      rw [split, List.head?_append, head]
      rfl
    have solid := List.head?_dropWhile_not isBlank s.toList
    rw [dropBlankStart] at start
    rw [start] at solid
    rw [← isBlankIff, solid]
    exact Bool.false_ne_true

theorem dropBlankEndAppend (before : List Char) {cs : List Char} {c : Char} (inside : c ∈ cs)
    (solid : isBlank c = false) : dropBlankEnd (before ++ cs) = before ++ dropBlankEnd cs := by
  have stays : (cs.reverse.dropWhile isBlank).isEmpty = false := by
    rw [Bool.eq_false_iff, ne_eq, List.isEmpty_iff, List.dropWhile_eq_nil_iff]
    intro gone
    rw [gone c (List.mem_reverse.mpr inside)] at solid
    contradiction
  simp [dropBlankEnd, List.dropWhile_append, stays]

theorem dropWhileSolid {cs : List Char} (solid : ∀ c ∈ cs.head?, c.toNat ∉ whiteSpace) :
    cs.dropWhile isBlank = cs := by
  cases cs with
  | nil => rfl
  | cons c cs => exact List.dropWhile_cons_of_neg (mt (isBlankIff c).mp (solid c rfl))

theorem trimsUnique {s : String} {kept : List Char} (trims : Trims s.toList kept)
    (filled : ¬Blank s) : kept = (trim s).toList := by
  obtain ⟨⟨before, after, split, front, back⟩, first, last⟩ := trims
  rw [gapIff] at front back
  have some : kept ≠ [] := by
    rintro rfl
    refine filled ?_
    rw [Blank, gapIff, split]
    simpa [or_imp, forall_and] using ⟨front, back⟩
  have start : dropBlankStart s.toList = kept ++ after := by
    rw [split, List.append_assoc, dropBlankStart, List.dropWhile_append_of_pos front]
    refine dropWhileSolid fun c head => first c ?_
    rwa [List.head?_append_of_ne_nil kept some] at head
  have ending : (kept ++ after).reverse.dropWhile isBlank = kept.reverse := by
    rw [List.reverse_append, List.dropWhile_append_of_pos fun c inside =>
      back c (List.mem_reverse.mp inside)]
    refine dropWhileSolid fun c head => last c ?_
    rwa [List.head?_reverse] at head
  rw [trim, String.toList_ofList, start, dropBlankEnd, ending, List.reverse_reverse]

end RegistrySeeding.Text
