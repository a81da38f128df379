import Mathlib.Data.List.DropRight
import RegistrySeeding.Json.Reader

/-! Where a fault is reported: on the line told by the line ends before the place, at the bytes since
the last of them. Whatever stopped the reading, the place is one of the document. -/
namespace RegistrySeeding

namespace Text.Utf8

theorem sizeFrom (cs : List Char) (n : Nat) :
    cs.foldl (fun n c => n + size c) n = n + length cs := by
  induction cs generalizing n with
  | nil => rfl
  | cons c rest ih => rw [length, List.foldl_cons, List.foldl_cons, ih, ih, Nat.zero_add, Nat.add_assoc]

theorem lengthAppend (cs ds : List Char) : length (cs ++ ds) = length cs + length ds := by
  rw [length, List.foldl_append, sizeFrom, ← length]

theorem lengthSingle (c : Char) : length [c] = size c := Nat.zero_add _

theorem lengthConcat (cs : List Char) (c : Char) : length (cs ++ [c]) = length cs + size c := by
  rw [lengthAppend, lengthSingle]

theorem lengthCons (c : Char) (cs : List Char) : length (c :: cs) = size c + length cs := by
  rw [← List.singleton_append, lengthAppend, lengthSingle]

end Text.Utf8

namespace Json
open Text.Utf8 (length size)

def lastLine (cs : List Char) : List Char := cs.rtakeWhile (· ≠ '\n')

theorem advanceStays (line column : Nat) (cs : List Char) :
    advance 0 line column cs = (line, column) := by
  cases cs with
  | nil => rfl
  | cons c rest =>
    rw [advance, if_pos (Text.Utf8.sizePos c), Nat.add_zero]

-- The place moves from the front, the last line grows at the back: the induction takes the text
-- from its end, and what is left to go stands for what was taken.
theorem advancePast (before after : List Char) (n : Nat) :
    advance (length before + n) 1 0 (before ++ after) =
      advance n (before.count '\n' + 1) (length (lastLine before)) after := by
  induction before using List.reverseRecOn generalizing after n with
  | nil => rw [List.nil_append]; exact congrArg (advance · 1 0 after) (Nat.zero_add n)
  | append_singleton before c ih =>
    rw [Text.Utf8.lengthConcat, Nat.add_assoc, List.append_assoc, List.singleton_append, ih, advance,
      if_neg (by omega), List.count_append]
    by_cases newline : c = '\n'
    · subst newline
      have none : lastLine (before ++ ['\n']) = [] := List.rtakeWhile_concat_neg _ _ _ (by decide)
      rw [if_pos rfl, none]
      exact congrArg (advance · _ 0 after) (Nat.add_sub_cancel_left 1 n)
    · have more : lastLine (before ++ [c]) = lastLine before ++ [c] :=
        List.rtakeWhile_concat_pos _ _ _ (by simpa using newline)
      have same : [c].count '\n' = 0 := by simp [newline]
      rw [if_neg newline, more, same, Text.Utf8.lengthConcat, Nat.add_sub_cancel_left, Nat.add_zero]

/-- The line and column are those of a place in the document, or of a byte of the character there. -/
def Fault.Inside (fault : Fault) (document : List Char) : Prop :=
  ∃ before after, document = before ++ after ∧ fault.line = before.count '\n' + 1 ∧
    length (lastLine before) ≤ fault.column ∧ fault.column < length (lastLine before) + 4

theorem placeReached (cs : List Char) {n : Nat} (within : n ≤ length cs) :
    ∃ before after k, cs = before ++ after ∧ n = length before + k ∧
      (k = 0 ∨ ∃ c rest, after = c :: rest ∧ k < size c) := by
  induction cs generalizing n with
  | nil => exact ⟨[], [], 0, rfl, Nat.le_zero.mp within, .inl rfl⟩
  | cons c rest ih =>
    rw [Text.Utf8.lengthCons] at within
    by_cases short : n < size c
    · exact ⟨[], c :: rest, n, rfl, (Nat.zero_add n).symm, .inr ⟨c, rest, rfl, short⟩⟩
    · obtain ⟨before, after, k, parts, reached, place⟩ := ih (n := n - size c) (by omega)
      refine ⟨c :: before, after, k, congrArg (c :: ·) parts, ?_, place⟩
      rw [Text.Utf8.lengthCons, Nat.add_assoc, ← reached]
      exact (Nat.add_sub_of_le (Nat.le_of_not_lt short)).symm

theorem stopInside (document : List Char) (stop : Stop) : (stop.fault document).Inside document := by
  obtain ⟨before, after, k, parts, reached, place⟩ :=
    placeReached document (Nat.sub_le (length document) stop.left)
  have advanced := advancePast before after k
  rw [← parts, ← reached] at advanced
  refine ⟨before, after, parts, ?_⟩
  simp only [Stop.fault, advanced]
  rcases place with rfl | ⟨c, rest, rfl, short⟩
  · rw [advanceStays]
    exact ⟨rfl, Nat.le_refl _, Nat.lt_add_of_pos_right (by decide)⟩
  · have four := Text.Utf8.sizeLe c
    rw [advance, if_pos short]
    exact ⟨rfl, Nat.le_add_right _ _, by omega⟩

theorem documentInside {α : Type} {reader : Reader α} {text : String} {fault : Fault}
    (refused : reader.document text = .error fault) : fault.Inside text.toList := by
  unfold Reader.document at refused
  cases read : reader.whole text.toList with
  | ok x =>
    rw [read] at refused
    cases refused
  | error stop =>
    rw [read] at refused
    cases refused
    exact stopInside text.toList stop

end Json
end RegistrySeeding
