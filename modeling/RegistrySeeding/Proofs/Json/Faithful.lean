import RegistrySeeding.Json.Choice
import RegistrySeeding.Json.Record
import RegistrySeeding.Proofs.Json.Values

/-! Codecs that read back what they write. What a faithful codec reads is good, and what is good and
plain besides is read back from its text in every layout. Each way to build a codec keeps this. -/
namespace RegistrySeeding.Json
open Scan (skipGaps)
variable {α β : Type}

/-- `good` is said of values and the brackets that may open around their text. -/
structure Codec.Faithful (codec : Codec α) (good : Nat → α → Prop) (plain : α → Prop) : Prop where
  sound {levels span : Nat} {cs rest : List Char} {x : α} :
    codec.read ⟨levels, span⟩ cs = .ok (x, rest) → good levels x
  skips {gap : List Char} (blank : Gap gap) (budget : Budget) (cs : List Char) :
    codec.read budget (gap ++ cs) = codec.read budget cs
  taken {levels span depth : Nat} {l : Layout} (x : α) : good levels x → plain x →
    (l.value depth (codec.write x)).length ≤ span →
    Takes (codec.read ⟨levels, span⟩) (l.value depth (codec.write x)) x

abbrev Codec.Lossless (codec : Codec α) : Prop := codec.Faithful (fun _ _ => True) fun _ => True

namespace Codec

theorem readStringSkips {gap : List Char} (blank : Gap gap) (expected : String) (cs : List Char) :
    readString expected (gap ++ cs) = readString expected cs := by
  unfold readString
  rw [blank.past]

theorem readStringTaken (expected s : String) :
    Takes (readString expected) (Writer.quote s) s := by
  intro rest _
  obtain ⟨text, form, quoted⟩ := Scan.quoteSpelled s
  have mark (tail : List Char) : skipGaps ('"' :: tail) = '"' :: tail := rfl
  simp only [readString, form, List.cons_append, mark, Scan.stringQuoted quoted]

theorem stringLossless : string.Lossless where
  sound _ := trivial
  skips blank _ cs := readStringSkips blank _ cs
  taken s _ _ _ := readStringTaken _ s

theorem boolLossless : bool.Lossless where
  sound _ := trivial
  skips blank _ cs := by
    simp only [bool, readBool, blank.past]
  taken b _ _ _ := by
    cases b <;> exact fun _ _ => rfl

theorem naturalTaken {limit n : Nat} (expected : String) (within : n ≤ limit)
    (small : limit ≤ Numeral.significandLimit) :
    Takes (readNatural limit expected) (Number.text (.int n)) n := by
  intro rest stops
  have fits : Numeral.Fits (.int n) := by
    constructor
    · omega
    · omega
  have past := (Spells.number (Number.textForm (.int n))).begins.past rest
  have read := Numeral.intWritten fits stops
  obtain ⟨c, cs, same, sort⟩ := Number.textHead (.int n)
  rw [same] at past
  rw [same, List.cons_append] at read
  rw [same, readNatural, past, List.cons_append]
  simp [sort, read, natural, within, bind, Except.bind, pure, Except.pure]

theorem readNaturalSkips {gap : List Char} (blank : Gap gap) (limit : Nat) (expected : String)
    (cs : List Char) : readNatural limit expected (gap ++ cs) = readNatural limit expected cs := by
  unfold readNatural
  rw [blank.past]

theorem uint32Lossless : uint32.Lossless where
  sound _ := trivial
  skips blank _ cs := by
    simp only [uint32, readNaturalSkips blank]
  taken n _ _ _ rest stops := by
    have within : n.toNat ≤ UInt32.size - 1 := Nat.le_pred_of_lt n.toNat_lt
    have read := naturalTaken "u32" within (by decide) rest stops
    refine (congrArg (· >>= _) read).trans ?_
    exact congrArg (fun n => Except.ok (n, rest)) UInt32.ofNat_toNat

theorem uint64Lossless : uint64.Lossless where
  sound _ := trivial
  skips blank _ cs := by
    simp only [uint64, readNaturalSkips blank]
  taken n _ _ _ rest stops := by
    have within : n.toNat ≤ UInt64.size - 1 := Nat.le_pred_of_lt n.toNat_lt
    have read := naturalTaken "usize" within (Nat.le_refl _) rest stops
    refine (congrArg (· >>= _) read).trans ?_
    exact congrArg (fun n => Except.ok (n, rest)) UInt64.ofNat_toNat

section
variable {codec : Codec α} {good : Nat → α → Prop} {plain : α → Prop}

theorem Faithful.mono (one : codec.Faithful good plain) {simple : α → Prop}
    (enough : ∀ x, simple x → plain x) : codec.Faithful good simple where
  sound := one.sound
  skips := one.skips
  taken x sound plain covers := one.taken x sound (enough x plain) covers

theorem nullHead (l : Layout) (depth : Nat) {v : Json} (other : v ≠ .null) :
    ∃ c cs, l.value depth v = c :: cs ∧ c ≠ 'n' := by
  cases v with
  | null => exact absurd rfl other
  | bool b =>
    cases b with
    | true => exact ⟨'t', _, rfl, by decide⟩
    | false => exact ⟨'f', _, rfl, by decide⟩
  | number n =>
    obtain ⟨c, cs, same, sort⟩ := n.textHead
    exact ⟨c, cs, same, Numeral.headNot sort 'n' (by decide) rfl⟩
  | string s => exact ⟨'"', _, rfl, by decide⟩
  | array items => cases items <;> exact ⟨'[', _, rfl, by decide⟩
  | object members => cases members <;> exact ⟨'\x7b', _, rfl, by decide⟩

theorem Faithful.option (one : codec.Faithful good plain) (solid : ∀ x, codec.write x ≠ .null) :
    codec.option.Faithful (fun levels o => ∀ x ∈ o, good levels x) fun o => ∀ x ∈ o, plain x where
  sound read := by
    simp only [Codec.option] at read
    split at read
    · obtain ⟨_, _, read⟩ := bindOk read
      cases read
      exact nofun
    · obtain ⟨⟨x, mid⟩, came, read⟩ := bindOk read
      cases read
      rintro _ ⟨⟩
      exact one.sound came
  skips blank budget cs := by
    simp only [Codec.option, blank.past]
  taken {levels span depth l} o sound simple covers rest stops := by
    cases o with
    | none => rfl
    | some x =>
      have read := one.taken x (sound x rfl) (simple x rfl) covers rest stops
      have past := (l.valueBegins depth (codec.write x)).past rest
      obtain ⟨c, cs, same, other⟩ := nullHead l depth (solid x)
      change codec.option.read _ (l.value depth (codec.write x) ++ rest) = _
      rw [same, List.cons_append] at read past ⊢
      simp [Codec.option, past, other, read, bind, Except.bind, pure, Except.pure]

theorem readListSound {one : Reader α} (sound : ∀ {levels span : Nat} {cs rest : List Char} {x : α},
      one ⟨levels, span⟩ cs = .ok (x, rest) → good levels x) {levels span : Nat}
    {cs rest : List Char} {xs : List α} (read : readList one ⟨levels, span⟩ cs = .ok (xs, rest)) :
    ∃ inner, levels = inner + 1 ∧ ∀ x ∈ xs, good inner x := by
  cases levels with
  | zero =>
    unfold readList at read
    split at read
    · cases read
    · cases read
    · obtain ⟨_, _, refused⟩ := bindOk read
      cases refused
  | succ levels =>
    obtain ⟨inside, -, entries⟩ := readListEntries read
    refine ⟨levels, rfl, ?_⟩
    clear read
    generalize true = first at entries
    induction entries with
    | closed _ => exact nofun
    | entry _ came _ ih => exact List.forall_mem_cons.mpr ⟨sound came, ih⟩

theorem listTaken {one : Reader α} {l : Layout} {depth levels span : Nat} {pairs : List (Json × α)}
    (each : ∀ p ∈ pairs, Takes (one ⟨levels, span⟩) (l.value (depth + 1) p.1) p.2)
    (rounds : pairs.length < span) :
    Takes (readList one ⟨levels + 1, span⟩) (l.value depth (.array (pairs.map (·.1))))
      (pairs.map (·.2)) := by
  intro rest _
  obtain ⟨body, text, read⟩ := Layout.arrayListed (itemsTaken each [])
    (by rwa [List.length_map]) rest
  have mark (tail : List Char) : skipGaps ('[' :: tail) = '[' :: tail := rfl
  unfold keepItem at read
  simp only [bind, Except.bind, pure, Except.pure, List.append_nil] at read
  rw [text]
  simp [readList, mark, Reader.nested, read, bind, Except.bind, pure, Except.pure]

theorem Faithful.list (one : codec.Faithful good plain) : codec.list.Faithful
    (fun levels xs => ∃ inner, levels = inner + 1 ∧ ∀ x ∈ xs, good inner x)
    (fun xs => ∀ x ∈ xs, plain x) where
  sound := readListSound one.sound
  skips blank budget cs := by
    simp only [Codec.list, readList, blank.past]
  taken {levels span depth l} xs sound simple covers := by
    obtain ⟨inner, rfl, sound⟩ := sound
    have rounds : xs.length < span := by
      have counted := l.arrayCounted depth (xs.map codec.write)
      rw [List.length_map] at counted
      exact Nat.lt_of_lt_of_le counted covers
    have each (p : Json × α) (paired : p ∈ xs.map fun x => (codec.write x, x)) :
        Takes (codec.read ⟨inner, span⟩) (l.value (depth + 1) p.1) p.2 := by
      obtain ⟨x, inside, rfl⟩ := List.mem_map.mp paired
      refine one.taken x (sound x inside) (simple x inside) ?_
      have shorter := l.arrayCovers depth (List.mem_map_of_mem (f := codec.write) inside)
      exact Nat.le_trans (Nat.le_of_lt shorter) covers
    have taken := listTaken (l := l) each (by rwa [List.length_map])
    simp only [List.map_map, Function.comp_def, List.map_id'] at taken
    exact taken

end

theorem objectMembersSound {levels span : Nat} {cs rest : List Char}
    {members : List (String × Json)}
    (read : Reader.objectMembers ⟨levels, span⟩ cs = .ok (members, rest)) :
    ∃ inner, levels = inner + 1 ∧ SoundMembers inner members := by
  unfold Reader.objectMembers at read
  split at read
  · cases read
  · cases levels with
    | zero => cases read
    | succ levels => exact ⟨levels, rfl, membersSound valueSound read⟩
  · obtain ⟨_, _, refused⟩ := bindOk read
    cases refused

theorem objectFaithful : object.Faithful
    (fun levels members => ∃ inner, levels = inner + 1 ∧ SoundMembers inner members)
    (fun members => ∀ m ∈ members, Whole m.2) where
  sound := objectMembersSound
  skips blank budget cs := by
    simp only [object, Reader.objectMembers, blank.past]
  taken {levels span depth l} members sound simple covers rest stops := by
    obtain ⟨inner, rfl, order, sound⟩ := sound
    have each (m : String × Json) (inside : m ∈ members) :
        Takes (Reader.valueAt span inner) (l.value (depth + 1) m.2) m.2 := by
      refine valueTaken (sound m inside) (simple m inside) ?_
      exact Nat.le_trans (Nat.le_of_lt (l.objectCovers depth inside)) covers
    have gathered := membersTaken (fun _ cs blank => valueSkips blank span inner cs) [] each
    rw [insertAllNil order] at gathered
    have rounds : members.length < span :=
      Nat.lt_of_lt_of_le (l.objectCounted depth members) covers
    obtain ⟨body, text, read⟩ := Layout.objectGathered gathered rounds rest
    have mark (tail : List Char) : skipGaps ('\x7b' :: tail) = '\x7b' :: tail := rfl
    change Reader.objectMembers _ (l.value depth (.object members) ++ rest) = _
    rw [text, List.cons_append]
    simp only [Reader.objectMembers, mark, Reader.nested]
    exact read

end Codec

namespace Choice
variable {choice : Choice α}

theorem lossless (apart : (choice.all.map choice.name).Nodup) (all : ∀ x, x ∈ choice.all) :
    choice.codec.Lossless where
  sound _ := trivial
  skips blank _ cs := by
    simp only [codec, read, blank.past]
  taken {levels span depth l} x _ _ _ rest stops := by
    have name := Codec.readStringTaken "variant identifier" (choice.name x) rest stops
    obtain ⟨text, form, -⟩ := Scan.quoteSpelled (choice.name x)
    have mark (tail : List Char) : skipGaps ('"' :: tail) = '"' :: tail := rfl
    change choice.read ⟨levels, span⟩ (Writer.quote (choice.name x) ++ rest) = _
    rw [form, List.cons_append] at name ⊢
    simp [read, mark, readName, name, ofNameName apart (all x), bind, Except.bind, pure, Except.pure]

end Choice

structure Field.Faithful (field : Field α) (good : Nat → α → Prop) (plain : α → Prop) : Prop where
  codec : field.codec.Faithful good plain
  absent {x : α} : field.absent = some x → ∀ levels, good levels x
  absentLast {x : α} : field.absentLast = some x → ∀ levels, good levels x
  leftOut {x : α} : field.leftOut x = true → field.absent = some x

namespace Field
variable {codec : Codec α} {good : Nat → α → Prop} {plain : α → Prop}

theorem Faithful.required (name : String) (one : codec.Faithful good plain) :
    Field.Faithful { name, codec } good plain :=
  ⟨one, nofun, nofun, nofun⟩

theorem Faithful.withDefault (name : String) (one : codec.Faithful good plain) {default : α}
    (always : ∀ levels, good levels default) :
    (Field.withDefault name codec default).Faithful good plain := by
  refine ⟨one, ?_, ?_, nofun⟩
  · rintro x ⟨⟩
    exact always
  · rintro x ⟨⟩
    exact always

variable (name : String) (one : codec.Faithful good plain) (solid : ∀ x, codec.write x ≠ .null)
include one solid

theorem Faithful.optional : (Field.optional name codec).Faithful
    (fun levels o => ∀ x ∈ o, good levels x) fun o => ∀ x ∈ o, plain x := by
  refine ⟨one.option solid, ?_, ?_, ?_⟩
  · rintro o ⟨⟩
    exact fun _ => nofun
  · rintro o ⟨⟩
    exact fun _ => nofun
  · intro o out
    cases o with
    | none => rfl
    | some x => cases out

theorem Faithful.nullable : (Field.nullable name codec).Faithful
    (fun levels o => ∀ x ∈ o, good levels x) fun o => ∀ x ∈ o, plain x := by
  refine ⟨one.option solid, ?_, nofun, nofun⟩
  rintro o ⟨⟩
  exact fun _ => nofun

end Field

namespace Fields
variable {τ : Type}

def names : {τ : Type} → Fields τ → List String
  | _, .nil => []
  | _, .cons field rest => field.name :: rest.names

def distinct : {τ : Type} → Fields τ → Bool
  | _, .nil => true
  | _, .cons field rest =>
    knows field field.name && rest.names.all (fun name => !knows field name) && rest.distinct

theorem distinctCons {field : Field α} {rest : Fields τ}
    (distinct : (Fields.cons field rest).distinct = true) : knows field field.name = true ∧
      (∀ name ∈ rest.names, knows field name = false) ∧ rest.distinct = true := by
  simpa [Fields.distinct, and_assoc] using distinct

theorem writeNames (fields : Fields τ) (x : τ) : ∀ m ∈ fields.write x, m.1 ∈ fields.names := by
  induction fields with
  | nil => exact nofun
  | cons field rest ih =>
    intro m inside
    unfold write at inside
    split at inside
    · exact List.mem_cons_of_mem _ (ih x.2 m inside)
    · rcases List.mem_cons.mp inside with rfl | later
      · exact List.mem_cons_self
      · exact List.mem_cons_of_mem _ (ih x.2 m later)

theorem writeDistinct {fields : Fields τ} (distinct : fields.distinct = true) (x : τ) :
    ((fields.write x).map (·.1)).Nodup := by
  induction fields with
  | nil => exact List.nodup_nil
  | cons field rest ih =>
    obtain ⟨own, apart, distinct⟩ := distinctCons distinct
    unfold write
    split
    · exact ih distinct x.2
    · refine List.nodup_cons.mpr ⟨fun inside => ?_, ih distinct x.2⟩
      obtain ⟨m, inside, same⟩ := List.mem_map.mp inside
      have other := apart m.1 (writeNames rest x.2 m inside)
      rw [show m.1 = field.name from same, own] at other
      contradiction

def Gathers (fields : Fields τ) (levels : Nat) (good : τ → Prop) : Prop :=
  ∃ held : fields.Slots → Prop, held fields.unread ∧
    (∀ slots name span cs next rest, held slots →
      fields.readMember slots name ⟨levels, span⟩ cs = .ok (next, rest) → held next) ∧
    ∀ slots x, held slots → fields.complete slots = .ok x → good x

structure Faithful (fields : Fields τ) (good : Nat → τ → Prop) (plain : τ → Prop) : Prop where
  ordered {expected : String} {index levels span : Nat} {cs rest : List Char} {x : τ} :
    fields.readInOrder expected index ⟨levels, span⟩ cs = .ok (x, rest) → good levels x
  named (levels : Nat) : fields.Gathers levels (good levels)
  written {levels span depth : Nat} {l : Layout} (x : τ) : fields.distinct = true →
    good levels x → plain x →
    (∀ m ∈ fields.write x, (l.value (depth + 1) m.2).length ≤ span) →
    ∃ slots, Layout.Gathered l depth
      (fun slots name cs => fields.readMember slots name ⟨levels, span⟩ cs) fields.unread
      (fields.write x) slots ∧ fields.complete slots = .ok x

theorem Faithful.nil : Fields.nil.Faithful (fun _ _ => True) fun _ => True where
  ordered _ := trivial
  named _ := ⟨fun _ => True, trivial, fun _ _ _ _ _ _ _ _ => trivial, fun _ _ _ _ => trivial⟩
  written _ _ _ _ _ := ⟨(), .done _, rfl⟩

section
variable {field : Field α} {rest : Fields τ} {good : Nat → α → Prop} {plain : α → Prop}
  {goods : Nat → τ → Prop} {plains : τ → Prop}

theorem orderedCons (one : field.Faithful good plain) (more : rest.Faithful goods plains)
    {expected : String} {index levels span : Nat} {cs after : List Char} {x : α × τ}
    (read : (Fields.cons field rest).readInOrder expected index ⟨levels, span⟩ cs =
      .ok (x, after)) : good levels x.1 ∧ goods levels x.2 := by
  unfold readInOrder at read
  obtain ⟨next, _, read⟩ := bindOk read
  cases next with
  | some start =>
    obtain ⟨⟨y, mid⟩, came, read⟩ := bindOk read
    obtain ⟨⟨ys, mid⟩, others, read⟩ := bindOk read
    cases read
    exact ⟨one.codec.sound came, more.ordered others⟩
  | none =>
    cases default : field.absentLast with
    | none =>
      simp only [default] at read
      cases read
    | some y =>
      simp only [default] at read
      obtain ⟨⟨ys, mid⟩, others, read⟩ := bindOk read
      cases read
      exact ⟨one.absentLast default levels, more.ordered others⟩

theorem namedCons (one : field.Faithful good plain) (levels : Nat)
    (more : rest.Gathers levels (goods levels)) :
    (Fields.cons field rest).Gathers levels fun x => good levels x.1 ∧ goods levels x.2 := by
  obtain ⟨held, begins, kept, ends⟩ := more
  refine ⟨fun slots => (∀ x ∈ slots.1, good levels x) ∧ held slots.2, ⟨nofun, begins⟩, ?_, ?_⟩
  · rintro ⟨slot, slots⟩ name span cs next after ⟨first, others⟩ read
    unfold readMember at read
    dsimp only at read
    split at read
    · cases slot with
      | some _ => cases read
      | none =>
        obtain ⟨_, _, read⟩ := bindOk read
        obtain ⟨⟨x, mid⟩, came, read⟩ := bindOk read
        cases read
        refine ⟨?_, others⟩
        rintro _ ⟨⟩
        exact one.codec.sound came
    · obtain ⟨⟨later, mid⟩, came, read⟩ := bindOk read
      cases read
      exact ⟨first, kept _ _ _ _ _ _ others came⟩
  · rintro ⟨slot, slots⟩ x ⟨first, others⟩ complete
    unfold Fields.complete at complete
    split at complete
    · cases complete
    · rename_i y found
      obtain ⟨ys, later, same⟩ := bindOk complete
      cases same
      refine ⟨?_, ends _ _ others later⟩
      cases slot with
      | some z =>
        cases found
        exact first y rfl
      | none => exact one.absent found levels

theorem headTaken {name : String} (own : knows field name = true) {budget : Budget}
    {text : List Char} {x : α} (one : Takes (field.codec.read budget) text x)
    (slots : rest.Slots) :
    Takes (fun cs => (Fields.cons field rest).readMember (none, slots) name budget (':' :: cs)) text
      (some x, slots) := by
  intro tail stops
  simp [readMember, own, colonPast, one tail stops, bind, Except.bind, pure, Except.pure]

theorem laterTaken {name : String} (other : knows field name = false) {budget : Budget}
    {text : List Char} (slot : Option α) {slots next : rest.Slots}
    (one : Takes (fun cs => rest.readMember slots name budget (':' :: cs)) text next) :
    Takes (fun cs => (Fields.cons field rest).readMember (slot, slots) name budget (':' :: cs)) text
      (slot, next) := by
  intro tail stops
  simp [readMember, other, one tail stops, bind, Except.bind, pure, Except.pure]

theorem gatheredLater {l : Layout} {depth : Nat} {budget : Budget} (slot : Option α)
    {slots last : rest.Slots} {members : List (String × Json)}
    (unknown : ∀ m ∈ members, knows field m.1 = false)
    (gathered : Layout.Gathered l depth
      (fun slots name cs => rest.readMember slots name budget cs) slots members last) :
    Layout.Gathered l depth
      (fun slots name cs => (Fields.cons field rest).readMember slots name budget cs)
      (slot, slots) members (slot, last) := by
  induction gathered with
  | done slots => exact .done _
  | member mid one more ih =>
    exact .member (slot, mid) (laterTaken (unknown _ List.mem_cons_self) slot one)
      (ih fun m inside => unknown m (List.mem_cons_of_mem _ inside))

theorem memberTaken (one : field.Faithful good plain) (own : knows field field.name = true)
    {levels span depth : Nat} {l : Layout} {x : α} (sound : good levels x) (simple : plain x)
    (covers : (l.value (depth + 1) (field.codec.write x)).length ≤ span) (slots : rest.Slots) :
    Takes (fun cs => (Fields.cons field rest).readMember (none, slots) field.name ⟨levels, span⟩
      (':' :: cs)) (l.space ++ l.value (depth + 1) (field.codec.write x)) (some x, slots) := by
  refine headTaken own (fun tail stops => ?_) slots
  rw [List.append_assoc, one.codec.skips l.spaceGap]
  exact one.codec.taken x sound simple covers tail stops

theorem Faithful.cons (one : field.Faithful good plain) (more : rest.Faithful goods plains) :
    (Fields.cons field rest).Faithful (fun levels x => good levels x.1 ∧ goods levels x.2)
      fun x => plain x.1 ∧ plains x.2 where
  ordered := orderedCons one more
  named levels := namedCons one levels (more.named levels)
  written := by
    rintro levels span depth l ⟨x, xs⟩ distinct ⟨first, others⟩ ⟨simple, simples⟩ covers
    obtain ⟨own, apart, distinct⟩ := distinctCons distinct
    have foreign (m : String × Json) (inside : m ∈ rest.write xs) : knows field m.1 = false :=
      apart m.1 (rest.writeNames xs m inside)
    unfold Fields.write at covers ⊢
    split
    · rename_i out
      rw [if_pos out] at covers
      obtain ⟨slots, gathered, complete⟩ := more.written xs distinct others simples covers
      refine ⟨(none, slots), gatheredLater none foreign gathered, ?_⟩
      simp [Fields.complete, one.leftOut out, complete, bind, Except.bind, pure, Except.pure]
    · rename_i kept
      rw [if_neg kept] at covers
      obtain ⟨covered, covers⟩ := List.forall_mem_cons.mp covers
      obtain ⟨slots, gathered, complete⟩ := more.written xs distinct others simples covers
      refine ⟨(some x, slots), .member (some x, rest.unread)
        (memberTaken one own first simple covered rest.unread)
        (gatheredLater (some x) foreign gathered), ?_⟩
      simp [Fields.complete, complete, bind, Except.bind, pure, Except.pure]

end

end Fields

theorem Record.readSound {record : Record α} {good : Nat → record.τ → Prop}
    {plain : record.τ → Prop} (fields : record.fields.Faithful good plain)
    (made : ∀ p, record.parts (record.make p) = p) {levels span : Nat} {cs rest : List Char} {x : α}
    (read : record.read ⟨levels, span⟩ cs = .ok (x, rest)) :
    ∃ inner, levels = inner + 1 ∧ good inner (record.parts x) := by
  unfold Record.read at read
  cases levels with
  | zero =>
    split at read
    · cases read
    · cases read
    · cases read
    · obtain ⟨_, _, refused⟩ := bindOk read
      cases refused
  | succ levels =>
    refine ⟨levels, rfl, ?_⟩
    split at read
    · cases read
    · obtain ⟨⟨p, mid⟩, inOrder, read⟩ := bindOk read
      obtain ⟨_, _, read⟩ := bindOk read
      cases read
      rw [made]
      exact fields.ordered inOrder
    · obtain ⟨⟨slots, mid⟩, byName, read⟩ := bindOk read
      obtain ⟨p, complete, read⟩ := bindOk read
      cases read
      rw [made]
      obtain ⟨held, begins, kept, ends⟩ := fields.named levels
      refine ends slots p (membersKeep (P := held) ?_ begins byName) (mapErrorOk.mp complete)
      exact fun slots name cs next rest before one => kept slots name span cs next rest before one
    · obtain ⟨_, _, refused⟩ := bindOk read
      cases refused

theorem Record.taken {record : Record α} {l : Layout} {depth levels span : Nat}
    {members : List (String × Json)} {slots : record.fields.Slots} {parts : record.τ}
    (gathered : Layout.Gathered l depth
      (fun slots name cs => record.fields.readMember slots name ⟨levels, span⟩ cs)
      record.fields.unread members slots)
    (complete : record.fields.complete slots = .ok parts) (rounds : members.length < span) :
    Takes (record.codec.read ⟨levels + 1, span⟩) (l.value depth (.object members))
      (record.make parts) := by
  intro rest _
  obtain ⟨body, text, read⟩ := Layout.objectGathered gathered rounds rest
  have mark (tail : List Char) : skipGaps ('\x7b' :: tail) = '\x7b' :: tail := rfl
  rw [text]
  simp [Record.codec, Record.read, Record.readObject, mark, Reader.nested, read, complete, bind,
    Except.bind, pure, Except.pure]

theorem Record.faithful {record : Record α} {good : Nat → record.τ → Prop}
    {plain : record.τ → Prop} (fields : record.fields.Faithful good plain)
    (distinct : record.fields.distinct = true)
    (made : ∀ p, record.parts (record.make p) = p) (whole : ∀ x, record.make (record.parts x) = x) :
    record.codec.Faithful
      (fun levels x => ∃ inner, levels = inner + 1 ∧ good inner (record.parts x))
      (fun x => plain (record.parts x)) where
  sound := Record.readSound fields made
  skips blank budget cs := by
    simp only [Record.codec, Record.read, blank.past]
  taken {levels span depth l} x sound simple covers := by
    obtain ⟨inner, rfl, sound⟩ := sound
    have each (m : String × Json) (inside : m ∈ record.fields.write (record.parts x)) :
        (l.value (depth + 1) m.2).length ≤ span :=
      Nat.le_trans (Nat.le_of_lt (l.objectCovers depth inside)) covers
    obtain ⟨slots, gathered, complete⟩ := fields.written (record.parts x) distinct sound simple each
    have taken := Record.taken gathered complete
      (Nat.lt_of_lt_of_le (l.objectCounted depth _) covers)
    rwa [whole] at taken

def Codec.Reversible (codec : Codec α) (plain : α → Prop) : Prop :=
  ∃ good, codec.Faithful good plain

theorem Record.reversible {record : Record α} {good : Nat → record.τ → Prop}
    {plain : record.τ → Prop} (fields : record.fields.Faithful good plain)
    (distinct : record.fields.distinct = true)
    (made : ∀ p, record.parts (record.make p) = p) (whole : ∀ x, record.make (record.parts x) = x)
    {simple : α → Prop} (enough : ∀ x, simple x → plain (record.parts x)) :
    record.codec.Reversible simple :=
  ⟨_, (Record.faithful fields distinct made whole).mono enough⟩

def Codec.Total (codec : Codec α) : Prop :=
  ∃ good, codec.Faithful good (fun _ => True) ∧ ∀ x, good depthLimit x

theorem Record.total {record : Record α} {good : Nat → record.τ → Prop}
    {plain : record.τ → Prop} (fields : record.fields.Faithful good plain)
    (distinct : record.fields.distinct = true)
    (made : ∀ p, record.parts (record.make p) = p) (whole : ∀ x, record.make (record.parts x) = x)
    (always : ∀ p, good (depthLimit - 1) p ∧ plain p) : record.codec.Total :=
  ⟨_, (Record.faithful fields distinct made whole).mono fun x _ => (always (record.parts x)).2,
    fun x => ⟨depthLimit - 1, rfl, (always (record.parts x)).1⟩⟩

def Codec.FitsIn (codec : Codec α) (depth : Nat) (sort plain : α → Prop) : Prop :=
  ∃ good, codec.Faithful good plain ∧ ∀ levels x, sort x → good (levels + depth) x

theorem Record.fitsIn {record : Record α} {good : Nat → record.τ → Prop}
    {plain : record.τ → Prop} (fields : record.fields.Faithful good plain)
    (distinct : record.fields.distinct = true)
    (made : ∀ p, record.parts (record.make p) = p) (whole : ∀ x, record.make (record.parts x) = x)
    {depth : Nat} {sort simple : α → Prop} (enough : ∀ x, simple x → plain (record.parts x))
    (sound : ∀ levels x, sort x → good (levels + depth) (record.parts x)) :
    record.codec.FitsIn (depth + 1) sort simple :=
  ⟨_, (Record.faithful fields distinct made whole).mono enough,
    fun levels x ofSort => ⟨levels + depth, rfl, sound levels x ofSort⟩⟩

structure Codec.Restores (codec : Codec α) (print : α → String) (x : α) : Prop where
  again : codec.decode (print x) = .ok x
  same : (codec.decode (print x)).map print = .ok (print x)

namespace Codec
variable {codec : Codec α} {good : Nat → α → Prop} {plain : α → Prop} {text : String} {x : α}

theorem Faithful.accepted (one : codec.Faithful good plain) (came : codec.decode text = .ok x) :
    good depthLimit x := by
  obtain ⟨⟨y, rest⟩, read, ended⟩ := bindOk (Reader.documentOk.mp came)
  dsimp only at ended
  split at ended
  · cases ended
    exact one.sound read
  · cases ended

theorem Faithful.printed (one : codec.Faithful good plain) (l : Layout) {print : α → String}
    (form : ∀ x, (print x).toList = l.value 0 (codec.write x)) (sound : good depthLimit x)
    (simple : plain x) : codec.decode (print x) = .ok x := by
  refine Takes.document ?_
  rw [form]
  exact one.taken x sound simple (Nat.le_succ _)

theorem Reversible.restores (one : codec.Reversible plain) (l : Layout) {print : α → String}
    (form : ∀ x, (print x).toList = l.value 0 (codec.write x)) (came : codec.decode text = .ok x)
    (simple : plain x) : codec.Restores print x := by
  obtain ⟨good, one⟩ := one
  have again := one.printed l form (one.accepted came) simple
  exact ⟨again, by rw [again]; rfl⟩

theorem encodeForm (x : α) : (codec.encode x).toList = Layout.compact.value 0 (codec.write x) :=
  Layout.textCompact (codec.write x)

theorem Total.reversible (total : codec.Total) : codec.Reversible fun _ => True :=
  ⟨total.choose, total.choose_spec.1⟩

theorem Total.encoded (total : codec.Total) (x : α) : codec.decode (codec.encode x) = .ok x := by
  obtain ⟨good, one, always⟩ := total
  exact one.printed .compact encodeForm (always x) trivial

theorem FitsIn.reversible {depth : Nat} {sort : α → Prop} (fits : codec.FitsIn depth sort plain) :
    codec.Reversible plain :=
  ⟨fits.choose, fits.choose_spec.1⟩

theorem FitsIn.encoded {depth : Nat} {sort : α → Prop} (fits : codec.FitsIn depth sort plain)
    (room : depth ≤ depthLimit) (ofSort : sort x) (simple : plain x) :
    codec.decode (codec.encode x) = .ok x := by
  obtain ⟨good, one, sound⟩ := fits
  have inside : good depthLimit x := by
    rw [← Nat.sub_add_cancel room]
    exact sound (depthLimit - depth) x ofSort
  exact one.printed .compact encodeForm inside simple

theorem Reversible.encoded (one : codec.Reversible plain) (came : codec.decode text = .ok x)
    (simple : plain x) : codec.Restores codec.encode x :=
  one.restores .compact encodeForm came simple

end Codec

end RegistrySeeding.Json
