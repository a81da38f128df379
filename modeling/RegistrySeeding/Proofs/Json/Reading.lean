import RegistrySeeding.Proofs.Json.Faithful
import RegistrySeeding.Proofs.Json.Skipping

/-! Objects that another side wrote, compactly. A record finds its members in any order, and those
that it does not know leave what was read as it was; read as a value of any shape, an object holds
the members it was written of. -/
namespace RegistrySeeding.Json
variable {α τ : Type}

theorem Takes.written {reader : Reader α} {v : Json} {x : α}
    (one : Takes (reader ⟨depthLimit, (Layout.compact.value 0 v).length + 1⟩)
      (Layout.compact.value 0 v) x) : reader.document v.text = .ok x := by
  rw [← Layout.textCompact] at one
  exact one.document

namespace Fields

def known : {τ : Type} → Fields τ → String → Bool
  | _, .nil, _ => false
  | _, .cons field rest, name => knows field name || rest.known name

theorem unknownTaken {l : Layout} (fields : Fields τ) (slots : fields.Slots) {name : String}
    (unknown : fields.known name = false) {v : Json} {depth : Nat} {budget : Budget}
    (covers : (l.value depth v).length ≤ budget.span) :
    Takes (fun cs => fields.readMember slots name budget (':' :: cs)) (l.space ++ l.value depth v)
      slots := by
  induction fields with
  | nil =>
    intro rest stops
    obtain ⟨p, spelled⟩ := l.valueSpelled depth v
    have skipped := Skip.valueSpelled l.spaceGap spelled covers stops
    simp [readMember, colonPast, skipped, bind, Except.bind, pure, Except.pure]
  | cons field fields ih =>
    obtain ⟨other, unknown⟩ := Bool.or_eq_false_iff.mp unknown
    exact laterTaken other slots.1 (ih slots.2 unknown)

theorem gatheredAmong (fields : Fields τ) {slots last : fields.Slots}
    {members : List (String × Json)} {depth : Nat} {budget : Budget}
    (covers : ∀ m ∈ members, (Layout.compact.value (depth + 1) m.2).length ≤ budget.span)
    (gathered : Layout.Gathered .compact depth
      (fun slots name cs => fields.readMember slots name budget cs) slots
      (members.filter fun m => fields.known m.1) last) :
    Layout.Gathered .compact depth
      (fun slots name cs => fields.readMember slots name budget cs) slots members last := by
  induction members generalizing slots with
  | nil => exact gathered
  | cons member members ih =>
    obtain ⟨name, v⟩ := member
    obtain ⟨own, later⟩ := List.forall_mem_cons.mp covers
    cases known : fields.known name with
    | false =>
      rw [List.filter_cons_of_neg (by simp [known])] at gathered
      exact .member _ (fields.unknownTaken slots known own) (ih later gathered)
    | true =>
      rw [List.filter_cons_of_pos (by simp [known])] at gathered
      cases gathered with
      | member mid one more => exact .member mid one (ih later more)

end Fields

theorem insertedPerm {key : String} (v : Json) {members : List (String × Json)}
    (absent : key ∉ members.map (·.1)) :
    (insertSorted key v members).Perm ((key, v) :: members) := by
  induction members with
  | nil => exact .refl _
  | cons head rest ih =>
    rw [List.map_cons, List.mem_cons, not_or] at absent
    unfold insertSorted
    rw [if_neg absent.1]
    split
    · exact .refl _
    · exact ((ih absent.2).cons head).trans (.swap _ _ _)

theorem insertAllPerm {found members : List (String × Json)}
    (distinct : ((found ++ members).map (·.1)).Nodup) :
    (insertAll found members).Perm (found ++ members) := by
  induction members generalizing found with
  | nil => rw [List.append_nil]; exact .refl _
  | cons member members ih =>
    obtain ⟨name, v⟩ := member
    have apart := List.nodup_append.mp (List.map_append ▸ distinct)
    have absent : name ∉ found.map (·.1) := fun inside =>
      apart.2.2 name inside name List.mem_cons_self rfl
    have inserted : (insertSorted name v found ++ members).Perm (found ++ (name, v) :: members) :=
      ((insertedPerm v absent).append_right members).trans List.perm_middle.symm
    exact (ih ((inserted.map (·.1)).nodup_iff.mpr distinct)).trans inserted

theorem objectDocument {members : List (String × Json)}
    (sound : ∀ m ∈ members, Sound (depthLimit - 1) m.2) (whole : ∀ m ∈ members, Whole m.2) :
    Reader.document Reader.value (Json.object members).text =
      .ok (.object (insertAll [] members)) := by
  refine Takes.written (objectTaken ?_ fun m inside => ?_)
  · exact Nat.lt_succ_of_lt (Layout.compact.objectCounted 0 members)
  · exact valueTaken (sound m inside) (whole m inside)
      (Nat.le_succ_of_le (Nat.le_of_lt (Layout.compact.objectCovers 0 inside)))

theorem objectWritten {members : List (String × Json)} (distinct : (members.map (·.1)).Nodup)
    (sound : ∀ m ∈ members, Sound (depthLimit - 1) m.2) (whole : ∀ m ∈ members, Whole m.2) :
    ∃ found, Reader.document Reader.value (Json.object members).text = .ok (.object found) ∧
      found.Perm members :=
  ⟨_, objectDocument sound whole, insertAllPerm distinct⟩

end RegistrySeeding.Json
