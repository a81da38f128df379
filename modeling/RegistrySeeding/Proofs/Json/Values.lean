import Mathlib.Data.String.Basic
import RegistrySeeding.Proofs.Json.Entries
import RegistrySeeding.Proofs.Json.Layout

/-! Values of any shape. One that was read is sound: its numbers fit, the members of its objects are
in key order, and it nests no deeper than it may. A sound value without a binary64 number is read
back from its text in every layout. -/
namespace RegistrySeeding.Json
open Scan (skipGaps)
open Reader (Scalar)
variable {σ : Type}

def keepItem {α : Type} (one : List Char → Except Stop (α × List Char)) (held : List α)
    (cs : List Char) : Except Stop (List α × List Char) := do
  let (item, cs) ← one cs
  return (item :: held, cs)

def keepMember (one : List Char → Except Stop (Json × List Char)) (found : List (String × Json))
    (name : String) (cs : List Char) : Except Stop (List (String × Json) × List Char) := do
  let cs ← Reader.colon cs
  let (item, cs) ← one cs
  return (insertSorted name item found, cs)

theorem valueArray (span levels : Nat) {cs inside : List Char} (here : skipGaps cs = '[' :: inside) :
    Reader.valueAt span (levels + 1) cs = do
      let (items, rest) ←
        Reader.elements (keepItem (Reader.value ⟨levels, span⟩)) span true [] inside
      return (.array items.reverse, rest) := by
  rw [Reader.valueAt, here]
  rfl

theorem valueObject (span levels : Nat) {cs inside : List Char}
    (here : skipGaps cs = '\x7b' :: inside) :
    Reader.valueAt span (levels + 1) cs = do
      let (found, rest) ←
        Reader.members (keepMember (Reader.value ⟨levels, span⟩)) span true [] inside
      return (.object found, rest) := by
  rw [Reader.valueAt, here]
  rfl

def InKeyOrder (members : List (String × Json)) : Prop := members.Pairwise fun a b => a.1 < b.1

inductive Sound : Nat → Json → Prop where
  | null {levels} : Sound levels .null
  | bool {levels} (b : Bool) : Sound levels (.bool b)
  | number {levels n} (fits : Numeral.Fits n) : Sound levels (.number n)
  | string {levels} (s : String) : Sound levels (.string s)
  | array {levels items} (each : ∀ v ∈ items, Sound levels v) : Sound (levels + 1) (.array items)
  | object {levels members} (order : InKeyOrder members) (each : ∀ m ∈ members, Sound levels m.2) :
      Sound (levels + 1) (.object members)

inductive Whole : Json → Prop where
  | null : Whole .null
  | bool (b : Bool) : Whole (.bool b)
  | int (n : Int) : Whole (.number (.int n))
  | string (s : String) : Whole (.string s)
  | array {items} (each : ∀ v ∈ items, Whole v) : Whole (.array items)
  | object {members} (each : ∀ m ∈ members, Whole m.2) : Whole (.object members)

theorem insertedAmong {key : String} {v : Json} {members : List (String × Json)}
    {m : String × Json} (inside : m ∈ insertSorted key v members) : m = (key, v) ∨ m ∈ members := by
  induction members with
  | nil => exact .inl (List.mem_singleton.mp inside)
  | cons head rest ih =>
    unfold insertSorted at inside
    split at inside
    · exact (List.mem_cons.mp inside).imp id (List.mem_cons_of_mem _)
    · split at inside
      · exact List.mem_cons.mp inside
      · rcases List.mem_cons.mp inside with rfl | later
        · exact .inr List.mem_cons_self
        · exact (ih later).imp id (List.mem_cons_of_mem _)

theorem insertedInOrder (key : String) (v : Json) {members : List (String × Json)}
    (order : InKeyOrder members) : InKeyOrder (insertSorted key v members) := by
  induction members with
  | nil => exact List.pairwise_singleton _ _
  | cons head rest ih =>
    obtain ⟨first, order⟩ := List.pairwise_cons.mp order
    unfold insertSorted
    split
    · rename_i same
      exact List.pairwise_cons.mpr ⟨fun m inside => same ▸ first m inside, order⟩
    · rename_i other
      split
      · rename_i before
        refine List.pairwise_cons.mpr ⟨fun m inside => ?_, List.pairwise_cons.mpr ⟨first, order⟩⟩
        rcases List.mem_cons.mp inside with rfl | later
        · exact before
        · exact lt_trans before (first m later)
      · rename_i after
        refine List.pairwise_cons.mpr ⟨fun m inside => ?_, ih order⟩
        rcases insertedAmong inside with rfl | later
        · exact lt_of_le_of_ne (not_lt.mp after) (Ne.symm other)
        · exact first m later

theorem insertedLast {key : String} (v : Json) {members : List (String × Json)}
    (after : ∀ m ∈ members, m.1 < key) :
    insertSorted key v members = members ++ [(key, v)] := by
  induction members with
  | nil => rfl
  | cons head rest ih =>
    have before := after head List.mem_cons_self
    unfold insertSorted
    rw [if_neg (ne_of_gt before), if_neg (lt_asymm before),
      ih fun m inside => after m (List.mem_cons_of_mem _ inside)]
    rfl

section
variable {P : σ → Prop}

theorem elementsKeep {step : σ → List Char → Except Stop (σ × List Char)}
    (kept : ∀ state cs next rest, P state → step state cs = .ok (next, rest) → P next) {n : Nat}
    {first : Bool} {state last : σ} {cs rest : List Char} (begins : P state)
    (read : Reader.elements step n first state cs = .ok (last, rest)) : P last := by
  induction n generalizing first state cs with
  | zero => cases read
  | succ n ih =>
    unfold Reader.elements at read
    obtain ⟨found, _, read⟩ := bindOk read
    cases found with
    | none =>
      obtain ⟨_, _, read⟩ := bindOk read
      cases read
      exact begins
    | some start =>
      obtain ⟨⟨next, mid⟩, one, read⟩ := bindOk read
      exact ih (kept _ _ _ _ begins one) read

theorem membersKeep {step : σ → String → List Char → Except Stop (σ × List Char)}
    (kept : ∀ state name cs next rest, P state → step state name cs = .ok (next, rest) → P next)
    {n : Nat} {first : Bool} {state last : σ} {cs rest : List Char} (begins : P state)
    (read : Reader.members step n first state cs = .ok (last, rest)) : P last := by
  induction n generalizing first state cs with
  | zero => cases read
  | succ n ih =>
    unfold Reader.members at read
    obtain ⟨found, _, read⟩ := bindOk read
    cases found with
    | none =>
      obtain ⟨_, _, read⟩ := bindOk read
      cases read
      exact begins
    | some start =>
      obtain ⟨⟨name, mid⟩, _, read⟩ := bindOk read
      obtain ⟨⟨next, mid⟩, one, read⟩ := bindOk read
      exact ih (kept _ _ _ _ _ begins one) read

end

theorem scalarSound {levels : Nat} {cs rest : List Char} {literal : Scalar}
    (read : Reader.scalar cs = .ok (literal, rest)) : Sound levels literal.json := by
  unfold Reader.scalar at read
  split at read
  · cases read
  · obtain ⟨_, _, read⟩ := bindOk read
    cases read
    exact .null
  · obtain ⟨_, _, read⟩ := bindOk read
    cases read
    exact .bool true
  · obtain ⟨_, _, read⟩ := bindOk read
    cases read
    exact .bool false
  · split at read
    · obtain ⟨⟨n, mid⟩, number, read⟩ := bindOk read
      cases read
      exact .number (Numeral.readFits number)
    · cases read

def SoundMembers (levels : Nat) (found : List (String × Json)) : Prop :=
  InKeyOrder found ∧ ∀ m ∈ found, Sound levels m.2

theorem soundInserted {levels : Nat} {name : String} {item : Json}
    {found : List (String × Json)} (sound : Sound levels item) (before : SoundMembers levels found) :
    SoundMembers levels (insertSorted name item found) := by
  refine ⟨insertedInOrder name item before.1, fun m inside => ?_⟩
  rcases insertedAmong inside with rfl | held
  · exact sound
  · exact before.2 m held

section
variable {one : List Char → Except Stop (Json × List Char)} {levels : Nat}
  (sound : ∀ {cs rest : List Char} {v : Json}, one cs = .ok (v, rest) → Sound levels v)
include sound

theorem elementsSound {n : Nat} {cs rest : List Char} {items : List Json}
    (read : Reader.elements (keepItem one) n true [] cs = .ok (items, rest)) :
    ∀ item ∈ items, Sound levels item := by
  refine elementsKeep (P := fun items => ∀ item ∈ items, Sound levels item)
    (fun held cs next rest before came => ?_) (List.forall_mem_nil _) read
  obtain ⟨⟨item, mid⟩, came, same⟩ := bindOk came
  cases same
  exact List.forall_mem_cons.mpr ⟨sound came, before⟩

theorem membersSound {n : Nat} {cs rest : List Char} {found : List (String × Json)}
    (read : Reader.members (keepMember one) n true [] cs = .ok (found, rest)) :
    SoundMembers levels found := by
  refine membersKeep (P := SoundMembers levels) (fun held name cs next rest before came => ?_)
    ⟨.nil, nofun⟩ read
  obtain ⟨_, _, came⟩ := bindOk came
  obtain ⟨⟨item, mid⟩, came, same⟩ := bindOk came
  cases same
  exact soundInserted (sound came) before

end

theorem valueSound {span levels : Nat} {cs rest : List Char} {v : Json}
    (read : Reader.valueAt span levels cs = .ok (v, rest)) : Sound levels v := by
  induction levels generalizing cs rest v with
  | zero =>
    unfold Reader.valueAt at read
    split at read
    · obtain ⟨⟨s, mid⟩, _, read⟩ := bindOk read
      cases read
      exact .string s
    · cases read
    · cases read
    · obtain ⟨⟨literal, mid⟩, one, read⟩ := bindOk read
      cases read
      exact scalarSound one
  | succ levels ih =>
    unfold Reader.valueAt at read
    split at read
    · obtain ⟨⟨s, mid⟩, _, read⟩ := bindOk read
      cases read
      exact .string s
    · obtain ⟨⟨items, mid⟩, all, read⟩ := bindOk read
      cases read
      exact .array fun item inside => elementsSound ih all item (List.mem_reverse.mp inside)
    · obtain ⟨⟨found, mid⟩, all, read⟩ := bindOk read
      cases read
      have sound : SoundMembers levels found := membersSound ih all
      exact .object sound.1 sound.2
    · obtain ⟨⟨literal, mid⟩, one, read⟩ := bindOk read
      cases read
      exact scalarSound one

section
variable {α : Type} {l : Layout} {depth : Nat}

theorem itemsTaken {one : List Char → Except Stop (α × List Char)} {pairs : List (Json × α)}
    (each : ∀ p ∈ pairs, Takes one (l.value (depth + 1) p.1) p.2) (held : List α) :
    Layout.Listed l depth (keepItem one) held (pairs.map (·.1)) ((pairs.map (·.2)).reverse ++ held) := by
  induction pairs generalizing held with
  | nil => exact .done held
  | cons p pairs ih =>
    have later := ih (fun q inside => each q (List.mem_cons_of_mem p inside)) (p.2 :: held)
    refine .item (p.2 :: held) (fun rest stops => ?_) (by simpa using later)
    simp [keepItem, each p List.mem_cons_self rest stops, bind, Except.bind, pure, Except.pure]

def insertAll (found members : List (String × Json)) : List (String × Json) :=
  members.foldl (fun found m => insertSorted m.1 m.2 found) found

theorem insertAllInOrder {found members : List (String × Json)}
    (order : InKeyOrder (found ++ members)) : insertAll found members = found ++ members := by
  induction members generalizing found with
  | nil => exact (List.append_nil found).symm
  | cons member members ih =>
    have before (m : String × Json) (inside : m ∈ found) : m.1 < member.1 :=
      (List.pairwise_append.mp order).2.2 m inside member List.mem_cons_self
    rw [List.append_cons] at order ⊢
    rw [insertAll, List.foldl_cons, insertedLast member.2 before]
    exact ih order

theorem insertAllNil {members : List (String × Json)} (order : InKeyOrder members) :
    insertAll [] members = members :=
  insertAllInOrder ((List.nil_append members).symm ▸ order)

theorem membersTaken {one : List Char → Except Stop (Json × List Char)}
    (skips : ∀ gap cs, Gap gap → one (gap ++ cs) = one cs)
    (found : List (String × Json)) {members : List (String × Json)}
    (each : ∀ m ∈ members, Takes one (l.value (depth + 1) m.2) m.2) :
    Layout.Gathered l depth (keepMember one) found members (insertAll found members) := by
  induction members generalizing found with
  | nil => exact .done found
  | cons member members ih =>
    obtain ⟨name, v⟩ := member
    have later := ih (insertSorted name v found) fun m inside =>
      each m (List.mem_cons_of_mem _ inside)
    refine .member (insertSorted name v found) (fun rest stops => ?_) later
    have read := each (name, v) List.mem_cons_self rest stops
    simp [keepMember, colonPast, skips _ _ l.spaceGap, read, bind, Except.bind, pure, Except.pure]

end

theorem valueSkips {gap : List Char} (blank : Gap gap) (span levels : Nat) (cs : List Char) :
    Reader.valueAt span levels (gap ++ cs) = Reader.valueAt span levels cs := by
  unfold Reader.valueAt
  rw [blank.past]

theorem scalarNumber {n : Int} (fits : Numeral.Fits (.int n)) {rest : List Char}
    (stops : Numeral.Stops rest) :
    Reader.scalar (Number.text (.int n) ++ rest) = .ok (.number (.int n), rest) := by
  have read := Numeral.intWritten fits stops
  obtain ⟨c, cs, same, sort⟩ := Number.textHead (.int n)
  have apart := Numeral.headNot sort
  rw [same, List.cons_append] at read ⊢
  simp [Reader.scalar, apart 'n' (by decide) rfl, apart 't' (by decide) rfl,
    apart 'f' (by decide) rfl, sort, read, bind, Except.bind, pure, Except.pure]

theorem numberTaken {n : Int} (fits : Numeral.Fits (.int n)) (span levels : Nat) :
    Takes (Reader.valueAt span levels) (Number.text (.int n)) (.number (.int n)) := by
  intro rest stops
  have past := (Spells.number (Number.textForm (.int n))).begins.past rest
  have read := scalarNumber fits stops
  obtain ⟨c, cs, same, sort⟩ := Number.textHead (.int n)
  have apart := Numeral.headNot sort
  rw [same] at past
  rw [same] at read ⊢
  unfold Reader.valueAt
  rw [past, List.cons_append]
  rw [List.cons_append] at read
  simp [apart '"' (by decide) rfl, apart '[' (by decide) rfl, apart '\x7b' (by decide) rfl, read,
    Functor.map, Except.map, Scalar.json]

theorem stringTaken (s : String) (span levels : Nat) :
    Takes (Reader.valueAt span levels) (Writer.quote s) (.string s) := by
  intro rest _
  obtain ⟨text, form, quoted⟩ := Scan.quoteSpelled s
  have mark (tail : List Char) : skipGaps ('"' :: tail) = '"' :: tail := rfl
  unfold Reader.valueAt
  simp only [form, List.cons_append, mark, Scan.stringQuoted quoted, bind, Except.bind, pure,
    Except.pure]

section
variable {l : Layout} {depth levels span : Nat}

theorem arrayTaken {items : List Json} (rounds : items.length < span)
    (each : ∀ v ∈ items, Takes (Reader.valueAt span levels) (l.value (depth + 1) v) v) :
    Takes (Reader.valueAt span (levels + 1)) (l.value depth (.array items)) (.array items) := by
  intro rest _
  have pairs (p : Json × Json) (inside : p ∈ items.map fun v => (v, v)) :
      Takes (Reader.valueAt span levels) (l.value (depth + 1) p.1) p.2 := by
    obtain ⟨v, listed, rfl⟩ := List.mem_map.mp inside
    exact each v listed
  have listed := itemsTaken pairs []
  simp only [List.map_map, Function.comp_def, List.map_id', List.append_nil] at listed
  obtain ⟨body, text, read⟩ := Layout.arrayListed listed rounds rest
  have mark (tail : List Char) : skipGaps ('[' :: tail) = '[' :: tail := rfl
  have whole : Reader.elements (keepItem (Reader.value ⟨levels, span⟩)) span true []
    (body ++ rest) = .ok (items.reverse, rest) := read
  rw [text, List.cons_append, valueArray span levels (mark _), whole]
  exact congrArg (fun items => Except.ok (Json.array items, rest)) items.reverse_reverse

theorem objectTaken {members : List (String × Json)} (rounds : members.length < span)
    (each : ∀ m ∈ members, Takes (Reader.valueAt span levels) (l.value (depth + 1) m.2) m.2) :
    Takes (Reader.valueAt span (levels + 1)) (l.value depth (.object members))
      (.object (insertAll [] members)) := by
  intro rest _
  have gathered := membersTaken (fun _ cs blank => valueSkips blank span levels cs) [] each
  obtain ⟨body, text, read⟩ := Layout.objectGathered gathered rounds rest
  have mark (tail : List Char) : skipGaps ('\x7b' :: tail) = '\x7b' :: tail := rfl
  have whole : Reader.members (keepMember (Reader.value ⟨levels, span⟩)) span true []
    (body ++ rest) = .ok (insertAll [] members, rest) := read
  rw [text, List.cons_append, valueObject span levels (mark _), whole]
  rfl

end

theorem valueTaken {levels span depth : Nat} {v : Json} {l : Layout} (sound : Sound levels v)
    (whole : Whole v) (covers : (l.value depth v).length ≤ span) :
    Takes (Reader.valueAt span levels) (l.value depth v) v := by
  induction sound generalizing depth with
  | null =>
    intro rest _
    unfold Reader.valueAt
    rfl
  | bool b =>
    intro rest _
    unfold Reader.valueAt
    cases b <;> rfl
  | number fits =>
    cases whole
    exact numberTaken fits span _
  | string s => exact stringTaken s span _
  | @array levels items each ih =>
    cases whole with
    | array pure =>
      refine arrayTaken (Nat.lt_of_lt_of_le (l.arrayCounted depth items) covers) fun v inside => ?_
      exact ih v inside (pure v inside)
        (Nat.le_trans (Nat.le_of_lt (l.arrayCovers depth inside)) covers)
  | @object levels members order each ih =>
    cases whole with
    | object pure =>
      have rounds := Nat.lt_of_lt_of_le (l.objectCounted depth members) covers
      have taken := objectTaken rounds fun m inside => ih m inside (pure m inside)
        (Nat.le_trans (Nat.le_of_lt (l.objectCovers depth inside)) covers)
      rwa [insertAllNil order] at taken

end RegistrySeeding.Json
