import RegistrySeeding.Proofs.Json.NumberReading
import RegistrySeeding.Proofs.Json.Skipping
import RegistrySeeding.Proofs.Json.Reading

/-! What is read of a value in any spelling. Each codec makes something of a phrase or refuses it,
and reads that, or refuses, wherever a spelling of the phrase stands. -/
namespace RegistrySeeding.Json
open Scan (skipGaps)
variable {α β σ : Type}

@[simp]
theorem toOptionOk {ε : Type} (x : α) : (Except.ok x : Except ε α).toOption = some x := rfl

@[simp]
theorem toOptionError {ε : Type} (fault : ε) :
    (Except.error fault : Except ε α).toOption = none := rfl

theorem toOptionBind {ε : Type} (work : Except ε α) (next : α → Except ε β) :
    (work >>= next).toOption = work.toOption.bind fun x => (next x).toOption := by
  cases work <;> rfl

/-- Blanks before the text or not, it is read as `x`, or refused if there is none, whatever follows
that no number goes on with. -/
def Yields (read : List Char → Except Stop (α × List Char)) (text : List Char) (x : Option α) :
    Prop :=
  ∀ gap rest, Gap gap → Numeral.Stops rest →
    (read (gap ++ (text ++ rest))).toOption = x.map (·, rest)

theorem Spells.here {p : Phrase} {gap text : List Char} (spelled : Spells (.value p) text)
    (blank : Gap gap) (rest : List Char) : skipGaps (gap ++ (text ++ rest)) = text ++ rest :=
  (blank.past _).trans (spelled.begins.past rest)

theorem itemsCounted {ps : List Phrase} {first : Bool} {text : List Char}
    (spelled : Spells (.items first ps) text) : ps.length < text.length := by
  induction ps generalizing first text with
  | nil =>
    cases spelled with
    | itemsEnd blank => simp
  | cons p ps ih =>
    cases spelled with
    | item leads one later =>
      have counted := ih later
      obtain ⟨c, cs, rfl, -⟩ := one.opens
      simp only [List.length_cons, List.length_append]
      omega

theorem membersCounted {ms : List (String × Phrase)} {first : Bool} {text : List Char}
    (spelled : Spells (.members first ms) text) : ms.length < text.length := by
  induction ms generalizing first text with
  | nil =>
    cases spelled with
    | membersEnd blank => simp
  | cons m ms ih =>
    cases spelled with
    | member leads named blank blank' one later =>
      have counted := ih later
      simp only [List.length_cons, List.length_append]
      omega

theorem elementsSpelled {step : σ → List Char → Except Stop (σ × List Char)}
    {act : σ → Phrase → Option σ} {span : Nat}
    (each : ∀ state p text, Spells (.value p) text → text.length ≤ span →
      Yields (step state) text (act state p))
    {ps : List Phrase} {first : Bool} {text : List Char} (spelled : Spells (.items first ps) text)
    (covers : text.length ≤ span) {n : Nat} (rounds : ps.length < n) (state : σ)
    (rest : List Char) :
    (Reader.elements step n first state (text ++ rest)).toOption =
      (ps.foldlM act state).map (·, rest) := by
  induction ps generalizing first text n state with
  | nil =>
    obtain ⟨n, rfl⟩ : ∃ k, n = k + 1 := ⟨n - 1, by simp at rounds; omega⟩
    cases spelled with
    | itemsEnd blank =>
      rw [List.append_assoc, List.singleton_append, itemsClosed n state first blank rest]
      rfl
  | cons p ps ih =>
    obtain ⟨n, rfl⟩ : ∃ k, n = k + 1 := ⟨n - 1, by simp at rounds; omega⟩
    cases spelled with
    | @item _ _ _ lead text more leads one later =>
      simp only [List.length_append] at covers
      have read := each state p text one (by omega) [] (more ++ rest) .none (later.itemsStop rest)
      have fold := fun state => ih later (by omega) (n := n) (by simpa using rounds) state
      rw [List.append_assoc, List.append_assoc, itemsStep n state leads one.begins]
      rw [toOptionBind, ← List.nil_append (text ++ _), read, List.foldlM_cons]
      cases act state p with
      | none => rfl
      | some next => exact fold next

theorem membersSpelled {step : σ → String → List Char → Except Stop (σ × List Char)}
    {act : σ → String × Phrase → Option σ} {span : Nat}
    (each : ∀ state name p gap text, Gap gap → Spells (.value p) text → text.length ≤ span →
      Yields (fun cs => step state name (gap ++ ':' :: cs)) text (act state (name, p)))
    {ms : List (String × Phrase)} {first : Bool} {text : List Char}
    (spelled : Spells (.members first ms) text) (covers : text.length ≤ span) {n : Nat}
    (rounds : ms.length < n) (state : σ) (rest : List Char) :
    (Reader.members step n first state (text ++ rest)).toOption =
      (ms.foldlM act state).map (·, rest) := by
  induction ms generalizing first text n state with
  | nil =>
    obtain ⟨n, rfl⟩ : ∃ k, n = k + 1 := ⟨n - 1, by simp at rounds; omega⟩
    cases spelled with
    | membersEnd blank =>
      rw [List.append_assoc, List.singleton_append, membersClosed n state first blank rest]
      rfl
  | cons m ms ih =>
    obtain ⟨n, rfl⟩ : ∃ k, n = k + 1 := ⟨n - 1, by simp at rounds; omega⟩
    obtain ⟨name, p⟩ := m
    cases spelled with
    | @member _ _ _ _ lead quoted gap gap' text more leads named blank blank' one later =>
      simp only [List.length_append, List.length_cons] at covers
      have read := each state name p gap text blank one (by omega) gap' (more ++ rest) blank'
        (later.membersStop rest)
      have fold := fun state => ih later (by omega) (n := n) (by simpa using rounds) state
      simp only [List.append_assoc, List.cons_append]
      rw [membersStep n state leads named]
      rw [toOptionBind, read, List.foldlM_cons]
      cases act state (name, p) with
      | none => rfl
      | some next => exact fold next

theorem Yields.map {read : List Char → Except Stop (α × List Char)} {text : List Char}
    {x : Option α} (yields : Yields read text x) (f : α → β) :
    Yields (fun cs => do
      let (x, cs) ← read cs
      return (f x, cs)) text (x.map f) := by
  intro gap rest blank stops
  rw [toOptionBind, yields gap rest blank stops]
  cases x <;> rfl

theorem Yields.kept {one : Reader α} {budget : Budget} {text : List Char} {x : Option α}
    (yields : Yields (one budget) text x) (held : List α) :
    Yields (keepItem (one budget) held) text (x.map (· :: held)) :=
  yields.map (· :: held)

theorem colonGap {gap : List Char} (blank : Gap gap) (cs : List Char) :
    Reader.colon (gap ++ ':' :: cs) = .ok cs := by
  rw [Reader.colon, blank.past]
  rfl

theorem Yields.keptAs {budget : Budget} {text : List Char} {x : Option Json}
    (yields : Yields (Reader.value budget) text x) (found : List (String × Json)) (name : String)
    {before : List Char} (blank : Gap before) :
    Yields (fun cs => keepMember (Reader.value budget) found name (before ++ ':' :: cs)) text
      (x.map (insertSorted name · found)) := by
  intro gap rest blank' stops
  change (keepMember _ _ _ (before ++ ':' :: _)).toOption = _
  rw [keepMember, colonGap blank]
  exact yields.map (insertSorted name · found) gap rest blank' stops

theorem foldlMapM (f : Phrase → Option α) (ps : List Phrase) (held : List α) :
    ps.foldlM (fun held p => (f p).map (· :: held)) held =
      (ps.mapM f).map (·.reverse ++ held) := by
  induction ps generalizing held with
  | nil => rfl
  | cons p ps ih =>
    rw [List.foldlM_cons, List.mapM_cons]
    cases f p with
    | none => rfl
    | some x =>
      rw [Option.map_some, Option.bind_eq_bind, Option.bind_some, ih]
      cases ps.mapM f <;> simp

namespace Phrase

def value : Nat → Phrase → Option Json
  | _, null => some .null
  | _, bool b => some (.bool b)
  | _, number literal => (Numeral.read literal).toOption.map fun read => .number read.1
  | _, string s => some (.string s)
  | 0, array _ => none
  | 0, object _ => none
  | levels + 1, array ps => (ps.mapM (value levels)).map .array
  | levels + 1, object ms =>
    (ms.foldlM (fun found m => (value levels m.2).map (insertSorted m.1 · found)) []).map .object

theorem numberValue (levels : Nat) (literal : List Char) : (number literal).value levels =
    (Numeral.read literal).toOption.map fun read => .number read.1 := by
  cases levels <;> rfl

def keep (levels : Nat) (found : List (String × Json)) (m : String × Phrase) :
    Option (List (String × Json)) :=
  (m.2.value levels).map (insertSorted m.1 · found)

end Phrase

theorem numberYields {literal : List Char} (spelled : Numeral.Spelled literal) {rest : List Char}
    (stops : Numeral.Stops rest) : (Numeral.read (literal ++ rest)).toOption =
      (Numeral.read literal).toOption.map fun read => (read.1, rest) := by
  obtain ⟨v, -, certain⟩ := Numeral.readCertain spelled
  have alone := certain [] Numeral.stopsEnd
  rw [List.append_nil] at alone
  rw [← toOptionMapError Stop.cause, certain rest stops,
    ← toOptionMapError Stop.cause (Numeral.read literal), alone]
  cases v <;> rfl

theorem valueNumber (span levels : Nat) {cs literal rest : List Char}
    (spelled : Numeral.Spelled literal) (here : skipGaps cs = literal ++ rest) :
    Reader.valueAt span levels cs = do
      let (n, rest) ← Numeral.read (literal ++ rest)
      return (.number n, rest) := by
  obtain ⟨c, more, rfl, sort⟩ := spelled.opens
  have apart := Numeral.headNot sort
  have scalar : Reader.scalar (c :: (more ++ rest)) = do
      let (n, rest) ← Numeral.read (c :: (more ++ rest))
      return (.number n, rest) := by
    simp [Reader.scalar, apart 'n' (by decide) rfl, apart 't' (by decide) rfl,
      apart 'f' (by decide) rfl, sort]
  rw [Reader.valueAt, here, List.cons_append]
  simp only [List.cons.injEq, apart '"' (by decide) rfl, apart '[' (by decide) rfl,
    apart '\x7b' (by decide) rfl, false_and, imp_false, not_false_eq_true, implies_true, scalar]
  cases Numeral.read (c :: (more ++ rest)) <;> rfl

theorem leafSpelled (span levels : Nat) {p : Phrase} {text : List Char}
    (spelled : Spells (.value p) text) (leaf : p.leaf = true) :
    Yields (Reader.value ⟨levels, span⟩) text (p.value levels) := by
  intro gap rest blank stops
  rw [Reader.value]
  have here := spelled.here blank rest
  cases spelled with
  | null | true | false =>
    rw [Reader.valueAt, here]
    cases levels <;> rfl
  | string quoted =>
    rw [Reader.valueAt, here, List.cons_append]
    simp only [Scan.stringQuoted quoted]
    cases levels <;> rfl
  | array _ | object _ => cases leaf
  | number spelled =>
    rw [valueNumber span levels spelled here, toOptionBind, numberYields spelled stops,
      Phrase.numberValue]
    cases (Numeral.read text).toOption <;> rfl

theorem keptSpelled {one : Reader α} {levels span : Nat} {f : Phrase → Option α}
    (each : ∀ p text, Spells (.value p) text → text.length ≤ span →
      Yields (one ⟨levels, span⟩) text (f p))
    {ps : List Phrase} {text : List Char} (inside : Spells (.items true ps) text)
    (covers : text.length ≤ span) (rest : List Char) :
    (Reader.elements (keepItem (one ⟨levels, span⟩)) span true [] (text ++ rest)).toOption =
      (ps.mapM f).map fun xs => (xs.reverse, rest) := by
  have read := elementsSpelled (fun held p _ spelled covers => (each p _ spelled covers).kept held)
    inside covers (Nat.lt_of_lt_of_le (itemsCounted inside) covers) [] rest
  rw [read, foldlMapM]
  cases ps.mapM f <;> simp

theorem gatheredSpelled {levels span : Nat}
    (each : ∀ p text, Spells (.value p) text → text.length ≤ span →
      Yields (Reader.value ⟨levels, span⟩) text (p.value levels))
    {ms : List (String × Phrase)} {text : List Char} (inside : Spells (.members true ms) text)
    (covers : text.length ≤ span) (rest : List Char) :
    (Reader.members (keepMember (Reader.value ⟨levels, span⟩)) span true [] (text ++ rest)).toOption =
      (ms.foldlM (Phrase.keep levels) []).map (·, rest) :=
  membersSpelled
    (fun found name _ _ _ blank one covers => (each _ _ one covers).keptAs found name blank)
    inside covers (Nat.lt_of_lt_of_le (membersCounted inside) covers) [] rest

theorem valueSpelled (span levels : Nat) {p : Phrase} {text : List Char}
    (spelled : Spells (.value p) text) (covers : text.length ≤ span) :
    Yields (Reader.value ⟨levels, span⟩) text (p.value levels) := by
  -- The levels left carry the induction: a bracket takes one, and without any it is refused.
  induction levels generalizing p text with
  | zero =>
    cases p with
    | array ps =>
      intro gap rest blank stops
      rw [Reader.value, Reader.valueAt, spelled.here blank rest]
      cases spelled
      rfl
    | object ms =>
      intro gap rest blank stops
      rw [Reader.value, Reader.valueAt, spelled.here blank rest]
      cases spelled
      rfl
    | _ => exact leafSpelled span 0 spelled rfl
  | succ levels ih =>
    cases p with
    | array ps =>
      intro gap rest blank stops
      have here := spelled.here blank rest
      cases spelled with
      | array inside =>
        have read := keptSpelled (fun _ _ => ih) inside (Nat.le_of_succ_le covers) rest
        rw [Reader.value, valueArray span levels (here.trans List.cons_append), toOptionBind, read,
          Phrase.value]
        cases ps.mapM (Phrase.value levels) <;> simp [pure, Except.pure]
    | object ms =>
      intro gap rest blank stops
      have here := spelled.here blank rest
      cases spelled with
      | object inside =>
        have read := gatheredSpelled (fun _ _ => ih) inside (Nat.le_of_succ_le covers) rest
        rw [Reader.value, valueObject span levels (here.trans List.cons_append), toOptionBind, read,
          Phrase.value]
        change Option.bind _ _ = (Option.map _ (ms.foldlM (Phrase.keep levels) [])).map _
        cases ms.foldlM (Phrase.keep levels) [] <;> rfl
    | _ => exact leafSpelled span (levels + 1) spelled rfl

namespace Phrase

/-- The brackets nest no deeper than so many levels, and no number is out of range. -/
inductive Within : Nat → Phrase → Prop where
  | null {levels : Nat} : Within levels .null
  | bool {levels : Nat} (b : Bool) : Within levels (.bool b)
  | number {levels : Nat} {literal : List Char}
      (range : ∀ left, Numeral.read literal ≠ .error ⟨.numberOutOfRange, left⟩) :
      Within levels (.number literal)
  | string {levels : Nat} (s : String) : Within levels (.string s)
  | array {levels : Nat} {ps : List Phrase} (each : ∀ p ∈ ps, Within levels p) :
      Within (levels + 1) (.array ps)
  | object {levels : Nat} {ms : List (String × Phrase)} (each : ∀ m ∈ ms, Within levels m.2) :
      Within (levels + 1) (.object ms)

end Phrase

theorem Spells.itemSpelled {ps : List Phrase} {first : Bool} {text : List Char}
    (spelled : Spells (.items first ps) text) {p : Phrase} (inside : p ∈ ps) :
    ∃ own, Spells (.value p) own := by
  induction inside generalizing first text with
  | head ps =>
    cases spelled with
    | item leads one later => exact ⟨_, one⟩
  | tail q _ ih =>
    cases spelled with
    | item leads one later => exact ih later

theorem Spells.memberSpelled {ms : List (String × Phrase)} {first : Bool} {text : List Char}
    (spelled : Spells (.members first ms) text) {m : String × Phrase} (inside : m ∈ ms) :
    ∃ own, Spells (.value m.2) own := by
  induction inside generalizing first text with
  | head ms =>
    cases spelled with
    | member leads named blank blank' one later => exact ⟨_, one⟩
  | tail q _ ih =>
    cases spelled with
    | member leads named blank blank' one later => exact ih later

theorem mapMSome (f : Phrase → Option α) (ps : List Phrase) :
    (ps.mapM f).isSome ↔ ∀ p ∈ ps, (f p).isSome := by
  induction ps with
  | nil => simp
  | cons p ps ih =>
    rw [List.mapM_cons, List.forall_mem_cons, ← ih]
    cases f p <;> cases ps.mapM f <;> simp

theorem keepSome (levels : Nat) (ms : List (String × Phrase)) (found : List (String × Json)) :
    (ms.foldlM (Phrase.keep levels) found).isSome ↔ ∀ m ∈ ms, (m.2.value levels).isSome := by
  induction ms generalizing found with
  | nil => simp
  | cons m ms ih =>
    rw [List.foldlM_cons, List.forall_mem_cons, Phrase.keep]
    cases m.2.value levels with
    | none => simp
    | some v => simpa using ih _

theorem numberWithin {literal : List Char} (spelled : Numeral.Spelled literal) :
    (Numeral.read literal).toOption.isSome ↔
      ∀ left, Numeral.read literal ≠ .error ⟨.numberOutOfRange, left⟩ := by
  obtain ⟨v, range, certain⟩ := Numeral.readCertain spelled
  have alone := certain [] Numeral.stopsEnd
  rw [List.append_nil] at alone
  cases came : Numeral.read literal with
  | ok read => exact iff_of_true rfl fun _ => nofun
  | error stop =>
    rw [came] at alone
    cases v with
    | ok n => cases alone
    | error cause =>
      have same : stop.cause = .numberOutOfRange :=
        (Except.error.inj alone).trans (range cause rfl)
      exact iff_of_false nofun fun inside => inside stop.left (by rw [← same])

theorem leafSome (levels : Nat) {p : Phrase} {text : List Char} (spelled : Spells (.value p) text)
    (leaf : p.leaf = true) : (p.value levels).isSome ↔ p.Within levels := by
  cases spelled with
  | null => exact iff_of_true (by cases levels <;> rfl) .null
  | true => exact iff_of_true (by cases levels <;> rfl) (.bool _)
  | false => exact iff_of_true (by cases levels <;> rfl) (.bool _)
  | string quoted => exact iff_of_true (by cases levels <;> rfl) (.string _)
  | array _ | object _ => cases leaf
  | number spelled =>
    rw [Phrase.numberValue, Option.isSome_map, numberWithin spelled]
    exact ⟨.number, fun | .number range => range⟩

theorem valueSome (levels : Nat) {p : Phrase} {text : List Char}
    (spelled : Spells (.value p) text) : (p.value levels).isSome ↔ p.Within levels := by
  induction levels generalizing p text with
  | zero =>
    cases p with
    | array ps => exact iff_of_false nofun nofun
    | object ms => exact iff_of_false nofun nofun
    | _ => exact leafSome 0 spelled rfl
  | succ levels ih =>
    cases p with
    | array ps =>
      cases spelled with
      | array inside =>
        have each : ∀ p ∈ ps, ((p.value levels).isSome ↔ p.Within levels) := by
          intro p among
          obtain ⟨own, one⟩ := inside.itemSpelled among
          exact ih one
        rw [Phrase.value, Option.isSome_map, mapMSome]
        exact ⟨fun all => .array fun p among => (each p among).mp (all p among),
          fun | .array all => fun p among => (each p among).mpr (all p among)⟩
    | object ms =>
      cases spelled with
      | object inside =>
        have each : ∀ m ∈ ms, ((m.2.value levels).isSome ↔ m.2.Within levels) := by
          intro m among
          obtain ⟨own, one⟩ := inside.memberSpelled among
          exact ih one
        change (Option.map _ (ms.foldlM (Phrase.keep levels) [])).isSome ↔ _
        rw [Option.isSome_map, keepSome]
        exact ⟨fun all => .object fun m among => (each m among).mp (all m among),
          fun | .object all => fun m among => (each m among).mpr (all m among)⟩
    | _ => exact leafSome (levels + 1) spelled rfl

end RegistrySeeding.Json
