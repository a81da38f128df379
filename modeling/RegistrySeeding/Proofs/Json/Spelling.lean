import RegistrySeeding.Proofs.Json.Escaping
import RegistrySeeding.Proofs.Json.Numerals

/-! The grammar of documents. A phrase is what a text says: its strings unescaped, its numbers as
they are spelled, its members in their order, names repeated or not. Every spelling counts, with any
escape that stands for a character and any blanks between the parts. -/
namespace RegistrySeeding.Json
open Scan (skipGaps isGap)

inductive Phrase where
  | null
  | bool (b : Bool)
  | number (literal : List Char)
  | string (s : String)
  | array (items : List Phrase)
  | object (members : List (String × Phrase))

def Gap (cs : List Char) : Prop := ∀ c ∈ cs, isGap c = true

instance (cs : List Char) : Decidable (Gap cs) :=
  List.decidableBAll _ cs

theorem Gap.none : Gap [] :=
  List.forall_mem_nil _

inductive Lead : Bool → List Char → Prop where
  | first {gap : List Char} (blank : Gap gap) : Lead true gap
  | later {gap gap' : List Char} (blank : Gap gap) (blank' : Gap gap') :
      Lead false (gap ++ ',' :: gap')

inductive Target where
  | value (p : Phrase)
  | items (first : Bool) (ps : List Phrase)
  | members (first : Bool) (ms : List (String × Phrase))

inductive Spells : Target → List Char → Prop where
  | null : Spells (.value .null) ['n', 'u', 'l', 'l']
  | true : Spells (.value (.bool true)) ['t', 'r', 'u', 'e']
  | false : Spells (.value (.bool false)) ['f', 'a', 'l', 's', 'e']
  | number {literal : List Char} (spelled : Numeral.Spelled literal) :
      Spells (.value (.number literal)) literal
  | string {s : String} {text : List Char} (quoted : Scan.Quoted s.toList text) :
      Spells (.value (.string s)) ('"' :: text)
  | array {ps : List Phrase} {text : List Char} (inside : Spells (.items Bool.true ps) text) :
      Spells (.value (.array ps)) ('[' :: text)
  | object {ms : List (String × Phrase)} {text : List Char}
      (inside : Spells (.members Bool.true ms) text) :
      Spells (.value (.object ms)) ('\x7b' :: text)
  | itemsEnd {first : Bool} {gap : List Char} (blank : Gap gap) :
      Spells (.items first []) (gap ++ [']'])
  | item {first : Bool} {p : Phrase} {ps : List Phrase} {lead text more : List Char}
      (leads : Lead first lead) (one : Spells (.value p) text)
      (later : Spells (.items Bool.false ps) more) :
      Spells (.items first (p :: ps)) (lead ++ (text ++ more))
  | membersEnd {first : Bool} {gap : List Char} (blank : Gap gap) :
      Spells (.members first []) (gap ++ ['\x7d'])
  | member {first : Bool} {name : String} {p : Phrase} {ms : List (String × Phrase)}
      {lead quoted gap gap' text more : List Char} (leads : Lead first lead)
      (named : Scan.Quoted name.toList quoted) (blank : Gap gap) (blank' : Gap gap')
      (one : Spells (.value p) text) (later : Spells (.members Bool.false ms) more) :
      Spells (.members first ((name, p) :: ms))
        (lead ++ ('"' :: (quoted ++ (gap ++ ':' :: (gap' ++ (text ++ more))))))

def Document (text : String) (p : Phrase) : Prop :=
  ∃ gap body gap', Gap gap ∧ Gap gap' ∧ Spells (.value p) body ∧
    text.toList = gap ++ (body ++ gap')

def Begins (cs : List Char) : Prop :=
  ∃ c rest, cs = c :: rest ∧ Scan.isGap c = false ∧ c ≠ ']' ∧ c ≠ '\x7d' ∧ c ≠ ','

theorem Begins.past {cs : List Char} (begins : Begins cs) (rest : List Char) :
    Scan.skipGaps (cs ++ rest) = cs ++ rest := by
  obtain ⟨c, more, rfl, solid, _⟩ := begins
  simp [Scan.skipGaps, solid]

theorem Gap.past {gap : List Char} (blank : Gap gap) (cs : List Char) :
    skipGaps (gap ++ cs) = skipGaps cs :=
  List.dropWhile_append_of_pos blank

theorem Gap.stops {gap rest : List Char} (blank : Gap gap) (stops : Numeral.Stops rest) :
    Numeral.Stops (gap ++ rest) := by
  cases gap with
  | nil => exact stops
  | cons c gap =>
    intro d head
    cases Option.some.inj head
    have gap : c = ' ' ∨ c = '\n' ∨ c = '\t' ∨ c = '\r' := by
      simpa [isGap, or_assoc] using blank c List.mem_cons_self
    rcases gap with rfl | rfl | rfl | rfl <;> decide

theorem stopsAt {c : Char} (mark : c = ',' ∨ c = ']' ∨ c = '\x7d') (rest : List Char) :
    Numeral.Stops (c :: rest) := by
  intro d head
  cases Option.some.inj head
  rcases mark with rfl | rfl | rfl <;> decide

def Phrase.Opens : Phrase → Char → Prop
  | .null, c => c = 'n'
  | .bool b, c => c = if b then 't' else 'f'
  | .number _, c => c = '-' ∨ (Text.digit? c).isSome
  | .string _, c => c = '"'
  | .array _, c => c = '['
  | .object _, c => c = '\x7b'

def Phrase.leaf : Phrase → Bool
  | .array _ | .object _ => false
  | _ => true

theorem Spells.opens {p : Phrase} {text : List Char} (spelled : Spells (.value p) text) :
    ∃ c cs, text = c :: cs ∧ p.Opens c := by
  cases spelled with
  | number spelled => exact spelled.opens
  | _ => exact ⟨_, _, rfl, rfl⟩

theorem Phrase.Opens.solid {p : Phrase} {c : Char} (opens : p.Opens c) :
    Scan.isGap c = false ∧ c ≠ ']' ∧ c ≠ '\x7d' ∧ c ≠ ',' := by
  cases p with
  | number literal =>
    have apart := Numeral.headNot opens
    have gaps := And.intro (And.intro (apart ' ' (by decide) rfl) (apart '\n' (by decide) rfl))
      (And.intro (apart '\t' (by decide) rfl) (apart '\r' (by decide) rfl))
    exact ⟨by simp [Scan.isGap, gaps], apart _ (by decide) rfl, apart _ (by decide) rfl,
      apart _ (by decide) rfl⟩
  | bool b => cases b <;> cases opens <;> decide
  | _ => cases opens; decide

theorem Phrase.Opens.leaf {p : Phrase} {c : Char} (opens : p.Opens c) (leaf : p.leaf = true) :
    c ≠ '[' ∧ c ≠ '\x7b' := by
  cases p with
  | array _ | object _ => cases leaf
  | number literal =>
    have apart := Numeral.headNot opens
    exact ⟨apart _ (by decide) rfl, apart _ (by decide) rfl⟩
  | bool b => cases b <;> cases opens <;> decide
  | _ => cases opens; decide

theorem Spells.begins {p : Phrase} {text : List Char} (spelled : Spells (.value p) text) :
    Begins text := by
  obtain ⟨c, cs, rfl, opens⟩ := spelled.opens
  exact ⟨c, cs, rfl, opens.solid⟩

theorem leadStops {lead : List Char} (leads : Lead false lead) (rest : List Char) :
    Numeral.Stops (lead ++ rest) := by
  cases leads with
  | later blank blank' =>
    rw [List.append_assoc]
    exact blank.stops (stopsAt (.inl rfl) _)

theorem Spells.itemsStop {ps : List Phrase} {text : List Char}
    (spelled : Spells (.items Bool.false ps) text) (rest : List Char) :
    Numeral.Stops (text ++ rest) := by
  cases spelled with
  | itemsEnd blank =>
    rw [List.append_assoc]
    exact blank.stops (stopsAt (.inr (.inl rfl)) _)
  | item leads one later =>
    rw [List.append_assoc]
    exact leadStops leads _

theorem Spells.membersStop {ms : List (String × Phrase)} {text : List Char}
    (spelled : Spells (.members Bool.false ms) text) (rest : List Char) :
    Numeral.Stops (text ++ rest) := by
  cases spelled with
  | membersEnd blank =>
    rw [List.append_assoc]
    exact blank.stops (stopsAt (.inr (.inr rfl)) _)
  | member leads named blank blank' one later =>
    rw [List.append_assoc]
    exact leadStops leads _

end RegistrySeeding.Json
