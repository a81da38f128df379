import RegistrySeeding.Proofs.Json.Faithful
import RegistrySeeding.Proofs.Json.Senses

/-! Fields gathered from members in any spelling and any order. What the fields come to is said
field by field of the members under its name, so nothing else about the object matters. -/
namespace RegistrySeeding.Json
variable {α β τ : Type}

def under (default : Option α) (sense : Phrase → Option α) (name : String)
    (ms : List (String × Phrase)) : Option α :=
  match ms.filter (·.1 == name) with
  | [] => default
  | [m] => sense m.2
  | _ => none

theorem underFiltered (default : Option α) (sense : Phrase → Option α) {name : String}
    {keep : String × Phrase → Bool} (ms : List (String × Phrase))
    (kept : ∀ m : String × Phrase, m.1 = name → keep m = true) :
    under default sense name (ms.filter keep) = under default sense name ms := by
  have same : (ms.filter keep).filter (·.1 == name) = ms.filter (·.1 == name) := by
    rw [List.filter_filter]
    refine List.filter_congr fun m _ => ?_
    by_cases own : m.1 = name
    · simp [own, kept m own]
    · simp [own]
  rw [under, same, under]

theorem underPerm (default : Option α) (sense : Phrase → Option α) (name : String)
    {ms ms' : List (String × Phrase)} (same : ms.Perm ms') :
    under default sense name ms = under default sense name ms' := by
  have own := same.filter (·.1 == name)
  rw [under, under]
  generalize ms.filter (·.1 == name) = mine at own ⊢
  generalize ms'.filter (·.1 == name) = mine' at own ⊢
  match mine, mine' with
  | [], mine' => rw [List.nil_perm.mp own]
  | [m], mine' => rw [List.singleton_perm.mp own]
  | _ :: _ :: _, [] => cases own.length_eq
  | _ :: _ :: _, [m] => cases own.length_eq
  | _ :: _ :: _, _ :: _ :: _ => rfl

structure Entry where
  name : String
  kind : Kind
  required : Bool
  deriving DecidableEq, Repr

/-- The field is there if it must be, at most once, and each value under its name has its type. -/
structure Entry.Met (levels : Nat) (e : Entry) (ms : List (String × Phrase)) : Prop where
  occurs : e.required = true → ∃ m ∈ ms, m.1 = e.name
  once : (ms.map (·.1)).count e.name ≤ 1
  typed : ∀ m ∈ ms, m.1 = e.name → e.kind.Fits levels m.2

structure Field.Matches (field : Field α) (levels : Nat) (sense : Phrase → Option α)
    (e : Entry) : Prop where
  name : field.name = e.name
  plain : field.aliases = []
  needed : field.absent.isNone = e.required
  last : field.absentLast = field.absent
  codec : field.codec.Admits levels e.kind sense

section
variable {codec : Codec α} {levels : Nat} {kind : Kind} {sense : Phrase → Option α}

theorem Field.Matches.required (name : String) (one : codec.Admits levels kind sense) :
    Field.Matches { name, codec } levels sense ⟨name, kind, true⟩ :=
  ⟨rfl, rfl, rfl, rfl, one⟩

theorem Field.Matches.withDefault (name : String) (one : codec.Admits levels kind sense)
    (default : α) :
    (Field.withDefault name codec default).Matches levels sense ⟨name, kind, false⟩ :=
  ⟨rfl, rfl, rfl, rfl, one⟩

end

theorem Entry.metOwn {levels : Nat} {e : Entry} {ms : List (String × Phrase)} :
    e.Met levels ms ↔
      (e.required = true → ms.filter (·.1 == e.name) ≠ []) ∧
      (ms.filter (·.1 == e.name)).length ≤ 1 ∧
      ∀ m ∈ ms.filter (·.1 == e.name), e.kind.Fits levels m.2 := by
  have count : (ms.map (·.1)).count e.name = (ms.filter (·.1 == e.name)).length := by
    rw [List.count, List.countP_map, List.countP_eq_length_filter]
    rfl
  have typed : (∀ m ∈ ms, m.1 = e.name → e.kind.Fits levels m.2) ↔
      ∀ m ∈ ms.filter (·.1 == e.name), e.kind.Fits levels m.2 := by
    simp [List.mem_filter]
  have occurs : (∃ m ∈ ms, m.1 = e.name) ↔ ms.filter (·.1 == e.name) ≠ [] := by
    simp [List.filter_eq_nil_iff]
  rw [← typed, ← occurs, ← count]
  exact ⟨fun ⟨occurs, once, typed⟩ => ⟨occurs, once, typed⟩,
    fun ⟨occurs, once, typed⟩ => ⟨occurs, once, typed⟩⟩

theorem Field.Matches.underSome {field : Field α} {levels : Nat} {sense : Phrase → Option α}
    {e : Entry} (one : field.Matches levels sense e) {ms : List (String × Phrase)}
    (spelled : ∀ m ∈ ms, ∃ text, Spells (.value m.2) text) :
    (under field.absent sense field.name ms).isSome ↔ e.Met levels ms := by
  have inside : ∀ m ∈ ms.filter (·.1 == e.name), ∃ text, Spells (.value m.2) text :=
    fun m own => spelled m (List.mem_of_mem_filter own)
  rw [Entry.metOwn, under, one.name]
  generalize ms.filter (·.1 == e.name) = own at inside ⊢
  match own with
  | [] =>
    have needed := one.needed
    cases absent : field.absent <;> simp [absent] at needed <;> simp [← needed]
  | [m] =>
    obtain ⟨text, spelled⟩ := inside m List.mem_cons_self
    simp [one.codec.fits spelled]
  | _ :: _ :: _ => simp

namespace Fields

@[reducible]
def Senses : {τ : Type} → Fields τ → Type
  | _, .nil => Unit
  | _, @Fields.cons α _ _ rest => (Phrase → Option α) × rest.Senses

def said : {τ : Type} → (fields : Fields τ) → fields.Senses → List (String × Phrase) → Option τ
  | _, .nil, _, _ => some ()
  | _, .cons field rest, senses, ms => do
    let x ← under field.absent senses.1 field.name ms
    let xs ← rest.said senses.2 ms
    return (x, xs)

def build : {τ : Type} → (fields : Fields τ) → fields.Senses → List (String × Phrase) →
    (τ → α) → Option α
  | _, .nil, _, _, make => some (make ())
  | _, .cons field rest, senses, ms, make => do
    let x ← under field.absent senses.1 field.name ms
    rest.build senses.2 ms fun xs => make (x, xs)

theorem saidBuilt (fields : Fields τ) (senses : fields.Senses) (ms : List (String × Phrase))
    (make : τ → α) : (fields.said senses ms).map make = fields.build senses ms make := by
  induction fields with
  | nil => rfl
  | cons field rest ih =>
    rw [said, build]
    cases under field.absent senses.1 field.name ms with
    | none => rfl
    | some x =>
      refine Eq.trans ?_ (ih senses.2 fun xs => make (x, xs))
      change Option.map make ((rest.said senses.2 ms).bind fun xs => some (x, xs)) = _
      cases rest.said senses.2 ms <;> rfl

inductive Matches (levels : Nat) :
    {τ : Type} → (fields : Fields τ) → fields.Senses → List Entry → Prop where
  | nil : Matches levels .nil () []
  | cons {α τ : Type} {field : Field α} {rest : Fields τ} {sense : Phrase → Option α}
      {senses : rest.Senses} {e : Entry} {es : List Entry} (one : field.Matches levels sense e)
      (fresh : e.name ∉ es.map Entry.name) (more : Matches levels rest senses es) :
      Matches levels (.cons field rest) (sense, senses) (e :: es)

def fill (sense : Phrase → Option α) (slot : Option α) (m : String × Phrase) :
    Option (Option α) :=
  match slot with
  | some _ => none
  | none => (sense m.2).map some

def act : {τ : Type} → (fields : Fields τ) → fields.Senses → fields.Slots → String × Phrase →
    Option fields.Slots
  | _, .nil, _, _, _ => some ()
  | _, .cons field rest, senses, slots, m =>
    if m.1 == field.name then (fill senses.1 slots.1 m).map (·, slots.2)
    else (rest.act senses.2 slots.2 m).map (slots.1, ·)

section
variable {levels span : Nat} {fields : Fields τ} {senses : fields.Senses} {es : List Entry}

theorem Matches.memberSpelled (fit : fields.Matches levels senses es) (slots : fields.Slots)
    (name : String) {p : Phrase} {before text : List Char} (blank : Gap before)
    (spelled : Spells (.value p) text) (covers : text.length ≤ span) :
    Yields (fun cs => fields.readMember slots name ⟨levels, span⟩ (before ++ ':' :: cs)) text
      (fields.act senses slots (name, p)) := by
  induction fit with
  | nil =>
    intro gap rest blank' stops
    change (readMember .nil _ name _ (before ++ ':' :: _)).toOption = _
    rw [readMember, colonGap blank]
    change (Skip.value _ _ >>= _).toOption = _
    rw [Skip.valueSpelled blank' spelled covers stops]
    rfl
  | @cons _ _ field rest sense senses e es one fresh more ih =>
    obtain ⟨slot, slots⟩ := slots
    intro gap after blank' stops
    change (readMember (.cons field rest) (slot, slots) name _ (before ++ ':' :: _)).toOption = _
    have knows : knows field name = (name == field.name) := by
      simp [Fields.knows, one.plain]
    cases own : name == field.name with
    | true =>
      unfold readMember act
      simp only [knows, own, if_true]
      cases slot with
      | some x => rfl
      | none =>
        rw [colonGap blank]
        have read : Yields (field.codec.read ⟨levels, span⟩) text (sense p) :=
          one.codec.senses p text span spelled covers
        have kept := read.map (fun x => (some x, slots)) gap after blank' stops
        rw [fill]
        refine kept.trans ?_
        cases sense p <;> rfl
    | false =>
      unfold readMember act
      simp only [knows, own]
      have read := (ih slots).map (slot, ·) gap after blank' stops
      exact read

theorem actApart {field : Field α} {rest : Fields τ} (sense : Phrase → Option α)
    (senses : rest.Senses) (slot : Option α) (slots : rest.Slots) (ms : List (String × Phrase)) :
    ms.foldlM ((Fields.cons field rest).act (sense, senses)) (slot, slots) = do
      let one ← (ms.filter (·.1 == field.name)).foldlM (fill sense) slot
      let others ← (ms.filter fun m => !(m.1 == field.name)).foldlM (rest.act senses) slots
      return (one, others) := by
  induction ms generalizing slot slots with
  | nil => rfl
  | cons m ms ih =>
    rw [List.foldlM_cons, act]
    cases own : m.1 == field.name with
    | true =>
      rw [if_pos rfl, List.filter_cons_of_pos (by simp [own]),
        List.filter_cons_of_neg (by simp [own]), List.foldlM_cons]
      cases fill sense slot m with
      | none => rfl
      | some next => exact ih next slots
    | false =>
      rw [if_neg Bool.false_ne_true, List.filter_cons_of_neg (by simp [own]),
        List.filter_cons_of_pos (by simp [own]), List.foldlM_cons]
      cases rest.act senses slots m with
      | none => cases (ms.filter (·.1 == field.name)).foldlM (fill sense) slot <;> rfl
      | some next => exact ih slot next

theorem filled (sense : Phrase → Option α) (default : Option α) (name : String)
    (ms : List (String × Phrase)) :
    ((ms.filter (·.1 == name)).foldlM (fill sense) none).bind (·.or default) =
      under default sense name ms := by
  rw [under]
  cases ms.filter (·.1 == name) with
  | nil => cases default <;> rfl
  | cons m more =>
    rw [List.foldlM_cons, fill]
    cases more with
    | nil =>
      dsimp only
      cases sense m.2 <;> rfl
    | cons m' more =>
      cases sense m.2 <;> rfl

theorem Matches.saidFiltered (fit : fields.Matches levels senses es) {keep : String × Phrase → Bool}
    (ms : List (String × Phrase)) (kept : ∀ m : String × Phrase, m.1 ∈ es.map Entry.name → keep m) :
    fields.said senses (ms.filter keep) = fields.said senses ms := by
  induction fit with
  | nil => rfl
  | cons one fresh more ih =>
    rw [said, said, ih fun m later => kept m (List.mem_cons_of_mem _ later), underFiltered]
    exact fun m own => kept m (List.mem_cons.mpr (.inl (own.trans one.name)))

theorem completeApart {field : Field α} {rest : Fields τ} (slot : Option α)
    (slots : rest.Slots) : ((Fields.cons field rest).complete (slot, slots)).toOption = do
      let x ← slot.or field.absent
      let xs ← (rest.complete slots).toOption
      return (x, xs) := by
  rw [complete]
  cases slot.or field.absent with
  | none => rfl
  | some x =>
    dsimp only
    rw [toOptionBind]
    rfl

theorem Matches.completed (fit : fields.Matches levels senses es) (ms : List (String × Phrase)) :
    ((ms.foldlM (fields.act senses) fields.unread).bind fun slots =>
      (fields.complete slots).toOption) = fields.said senses ms := by
  induction fit generalizing ms with
  | nil =>
    induction ms with
    | nil => rfl
    | cons m ms ih => exact ih
  | @cons _ _ field rest sense senses e es one fresh more ih =>
    have others : rest.said senses (ms.filter fun m => !(m.1 == field.name)) =
        rest.said senses ms := by
      refine more.saidFiltered ms fun m later => ?_
      have apart : m.1 ≠ field.name := fun own => fresh ((own.trans one.name) ▸ later)
      simpa using apart
    -- The members under the first name are folded apart from the rest, which they do not change.
    rw [unread, actApart, said, ← filled, ← others, ← ih]
    cases (ms.filter (·.1 == field.name)).foldlM (fill sense) none with
    | none => rfl
    | some slot =>
      rw [Option.bind_some]
      cases (ms.filter fun m => !(m.1 == field.name)).foldlM (rest.act senses) rest.unread with
      | none => cases slot.or field.absent <;> rfl
      | some slots => exact completeApart slot slots

theorem Matches.saidPerm (fit : fields.Matches levels senses es) {ms ms' : List (String × Phrase)}
    (same : ms.Perm ms') : fields.said senses ms = fields.said senses ms' := by
  induction fit with
  | nil => rfl
  | cons one fresh more ih => rw [said, said, ih, underPerm _ _ _ same]

theorem Matches.saidSome (fit : fields.Matches levels senses es) {ms : List (String × Phrase)}
    (spelled : ∀ m ∈ ms, ∃ text, Spells (.value m.2) text) :
    (fields.said senses ms).isSome ↔ ∀ e ∈ es, e.Met levels ms := by
  induction fit with
  | nil => simp [said]
  | @cons _ _ field rest sense senses e es one fresh more ih =>
    rw [said, List.forall_mem_cons, ← ih, ← one.underSome spelled]
    cases under field.absent sense field.name ms <;> cases rest.said senses ms <;> simp

theorem Matches.saidPast (fit : fields.Matches levels senses es) {name : String}
    (fresh : name ∉ es.map Entry.name) (p : Phrase) (ms : List (String × Phrase)) :
    fields.said senses ((name, p) :: ms) = fields.said senses ms := by
  have kept (m : String × Phrase) (known : m.1 ∈ es.map Entry.name) : (!(m.1 == name)) = true := by
    have apart : m.1 ≠ name := fun own => fresh (own ▸ known)
    simpa using apart
  rw [← fit.saidFiltered _ kept, ← fit.saidFiltered ms kept, List.filter_cons_of_neg (by simp)]

end

theorem underNone (default : Option α) (sense : Phrase → Option α) (name : String) :
    under default sense name [] = default := rfl

theorem underFirst (default : Option α) (sense : Phrase → Option α) {name : String}
    {names : List String} (fresh : name ∉ names) (p : Phrase) (ps : List Phrase) :
    under default sense name ((name, p) :: names.zip ps) = sense p := by
  have others : (names.zip ps).filter (·.1 == name) = [] := by
    rw [List.filter_eq_nil_iff]
    intro m inside own
    exact fresh ((beq_iff_eq.mp own) ▸ (List.of_mem_zip inside).1)
  rw [under, List.filter_cons_of_pos (by simp), others]

theorem endListPast {gap : List Char} (blank : Gap gap) (rest : List Char) :
    Reader.endList (gap ++ ']' :: rest) = .ok rest := by
  rw [Reader.endList, blank.past]
  rfl

theorem endListRefused {first : Bool} {lead text : List Char} (leads : Lead first lead)
    (begins : Begins text) (rest : List Char) :
    (Reader.endList (lead ++ (text ++ rest))).toOption = none := by
  cases leads with
  | first blank =>
    have here := (blank.past (text ++ rest)).trans (begins.past rest)
    obtain ⟨c, cs, rfl, -, list, -, comma⟩ := begins
    rw [Reader.endList, here]
    simp [list, comma]
  | later blank blank' =>
    have mark (tail : List Char) : Scan.skipGaps (',' :: tail) = ',' :: tail := rfl
    rw [Reader.endList, List.append_assoc, blank.past, List.cons_append, mark]
    split
    · rfl
    · rename_i same
      cases same
    · split <;> rfl
    · rfl

theorem nextClosed (first : Bool) {gap : List Char} (blank : Gap gap) (rest : List Char) :
    Reader.nextElement first (gap ++ ']' :: rest) = .ok none := by
  rw [Reader.nextElement, blank.past]
  rfl

def readWhole (expected : String) (fields : Fields τ) (index : Nat) (budget : Budget)
    (cs : List Char) : Except Stop (τ × List Char) := do
  let (x, cs) ← fields.readInOrder expected index budget cs
  return (x, ← Reader.endList cs)

section
variable {field : Field α} {rest : Fields τ} (expected : String) {index : Nat} {budget : Budget}
  {cs : List Char}

theorem wholeEnded (next : Reader.nextElement (index == 0) cs = .ok none) :
    (readWhole expected (.cons field rest) index budget cs).toOption = do
      let x ← field.absentLast
      let (xs, cs) ← (readWhole expected rest (index + 1) budget cs).toOption
      return ((x, xs), cs) := by
  rw [readWhole, readInOrder, next]
  cases default : field.absentLast with
  | none => simp [bind, Except.bind]
  | some x =>
    simp only [readWhole, bind, Except.bind, Option.bind]
    cases rest.readInOrder expected (index + 1) budget cs with
    | error fault => rfl
    | ok read =>
      dsimp only [pure, Except.pure]
      cases Reader.endList read.2 <;> rfl

theorem wholeNext {ahead : List Char}
    (next : Reader.nextElement (index == 0) cs = .ok (some ahead)) :
    (readWhole expected (.cons field rest) index budget cs).toOption = do
      let (x, cs) ← (field.codec.read budget ahead).toOption
      let (xs, cs) ← (readWhole expected rest (index + 1) budget cs).toOption
      return ((x, xs), cs) := by
  rw [readWhole, readInOrder, next]
  simp only [readWhole, bind, Except.bind, Option.bind]
  cases field.codec.read budget ahead with
  | error fault => rfl
  | ok read =>
    dsimp only [toOptionOk]
    cases rest.readInOrder expected (index + 1) budget read.2 with
    | error fault => rfl
    | ok read =>
      dsimp only [pure, Except.pure]
      cases Reader.endList read.2 <;> rfl

end

section
variable {levels span : Nat} {fields : Fields τ} {senses : fields.Senses} {es : List Entry}

theorem Matches.listSpelled (fit : fields.Matches levels senses es) (expected : String)
    (index : Nat) {ps : List Phrase} {text : List Char}
    (spelled : Spells (.items (index == 0) ps) text)
    (covers : text.length ≤ span) (tail : List Char) :
    (readWhole expected fields index ⟨levels, span⟩ (text ++ tail)).toOption =
      if ps.length ≤ es.length then
        (fields.said senses ((es.map Entry.name).zip ps)).map (·, tail)
      else none := by
  induction fit generalizing index ps text with
  | nil =>
    cases ps with
    | nil =>
      cases spelled with
      | itemsEnd blank =>
        rw [readWhole, List.append_assoc, List.singleton_append]
        change (Reader.endList _ >>= _).toOption = _
        rw [endListPast blank]
        rfl
    | cons p ps =>
      cases spelled with
      | item leads one later =>
        rw [readWhole, List.append_assoc, List.append_assoc]
        change (Reader.endList _ >>= _).toOption = _
        rw [toOptionBind, endListRefused leads one.begins]
        rfl
  | @cons _ _ field rest sense senses e es one fresh more ih =>
    cases ps with
    | nil =>
      cases spelled with
      | itemsEnd blank =>
        -- The bracket stays unread for the fields that are still to come.
        have more := ih (index + 1) (.itemsEnd blank) covers
        rw [List.append_assoc, List.singleton_append] at more ⊢
        rw [wholeEnded expected (nextClosed _ blank tail), more, one.last]
        simp only [List.zip_nil_right, List.length_nil, Nat.zero_le, if_true, said, underNone]
        cases field.absent with
        | none => rfl
        | some x => cases rest.said senses [] <;> rfl
    | cons p ps =>
      cases spelled with
      | @item _ _ _ lead text after leads spelled later =>
        rw [List.length_append, List.length_append] at covers
        have others := ih (index + 1) later (by omega)
        have read := one.codec.senses p text span spelled (by omega) [] (after ++ tail) .none
          (later.itemsStop tail)
        rw [List.nil_append] at read
        rw [List.append_assoc, List.append_assoc,
          wholeNext expected (nextSpelled leads spelled.begins _), read]
        simp only [List.map_cons, List.zip_cons_cons, said, one.name, underFirst _ _ fresh,
          more.saidPast fresh, List.length_cons, Nat.add_le_add_iff_right]
        cases sense p with
        | none => simp
        | some x =>
          change Option.bind (Option.map _ (some x)) _ = _
          rw [Option.map_some, Option.bind_some, others]
          split
          · cases rest.said senses _ <;> rfl
          · rfl

end
end Fields
end RegistrySeeding.Json
