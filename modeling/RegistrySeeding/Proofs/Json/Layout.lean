import RegistrySeeding.Json.Reader
import RegistrySeeding.Proofs.Json.Floats
import RegistrySeeding.Proofs.Json.Spelling

/-! Written values with blanks between their parts. The compact and the indented form differ in
nothing else, so what is said of every layout holds of both; the loops over elements and members
read an entry at a time whatever blanks stand before it. -/
namespace RegistrySeeding.Json
open Scan (skipGaps isGap)
open Writer (quote)
variable {α σ : Type}

theorem Number.textForm (n : Number) : Numeral.Spelled n.text := by
  cases n with
  | float x => exact Decimal.textForm x
  | int n =>
    cases n with
    | ofNat n => exact naturalText n ▸ Numeral.naturalForm n
    | negSucc n => exact negativeText n ▸ Numeral.negativeForm (n + 1)

theorem Number.textHead (n : Number) : ∃ c cs, n.text = c :: cs ∧
    (c = '-' ∨ (Text.digit? c).isSome) :=
  n.textForm.opens

theorem colonPast (rest : List Char) : Reader.colon (':' :: rest) = .ok rest := rfl

theorem nextSpelled {first : Bool} {lead text : List Char} (leads : Lead first lead)
    (begins : Begins text) (rest : List Char) :
    Reader.nextElement first (lead ++ (text ++ rest)) = .ok (some (text ++ rest)) := by
  have past {gap : List Char} (blank : Gap gap) : skipGaps (gap ++ (text ++ rest)) = text ++ rest :=
    (blank.past _).trans (begins.past rest)
  obtain ⟨c, cs, rfl, solid, list, object, comma⟩ := begins
  rw [List.cons_append] at past ⊢
  cases leads with
  | first blank => simp [Reader.nextElement, past blank]
  | @later gap gap' blank blank' =>
    have mark : skipGaps (gap ++ ',' :: (gap' ++ c :: (cs ++ rest))) =
      ',' :: (gap' ++ c :: (cs ++ rest)) := blank.past _
    simp [Reader.nextElement, mark, past blank', list]

theorem nextNamed {first : Bool} {lead : List Char} (leads : Lead first lead) (rest : List Char) :
    Reader.nextMember first (lead ++ '"' :: rest) = .ok (some rest) := by
  have past {gap : List Char} (blank : Gap gap) : skipGaps (gap ++ '"' :: rest) = '"' :: rest :=
    blank.past _
  cases leads with
  | first blank => simp [Reader.nextMember, past blank]
  | @later gap gap' blank blank' =>
    have mark : skipGaps (gap ++ ',' :: (gap' ++ '"' :: rest)) = ',' :: (gap' ++ '"' :: rest) :=
      blank.past _
    simp [Reader.nextMember, mark, past blank']

section
variable {step : σ → List Char → Except Stop (σ × List Char)} (n : Nat) (state : σ)

theorem itemsClosed (first : Bool) {gap : List Char} (blank : Gap gap) (rest : List Char) :
    Reader.elements step (n + 1) first state (gap ++ ']' :: rest) = .ok (state, rest) := by
  have here : skipGaps (gap ++ ']' :: rest) = ']' :: rest := blank.past _
  simp [Reader.elements, Reader.nextElement, Reader.endList, here, bind, Except.bind, pure,
    Except.pure]

theorem itemsStep {first : Bool} {lead text : List Char} (leads : Lead first lead)
    (begins : Begins text) (rest : List Char) :
    Reader.elements step (n + 1) first state (lead ++ (text ++ rest)) =
      step state (text ++ rest) >>= fun taken => Reader.elements step n false taken.1 taken.2 := by
  rw [Reader.elements, nextSpelled leads begins]
  rfl

end

section
variable {step : σ → String → List Char → Except Stop (σ × List Char)} (n : Nat) (state : σ)

theorem membersClosed (first : Bool) {gap : List Char} (blank : Gap gap) (rest : List Char) :
    Reader.members step (n + 1) first state (gap ++ '\x7d' :: rest) = .ok (state, rest) := by
  have here : skipGaps (gap ++ '\x7d' :: rest) = '\x7d' :: rest := blank.past _
  simp [Reader.members, Reader.nextMember, Reader.endObject, here, bind, Except.bind, pure,
    Except.pure]

theorem membersStep {first : Bool} {lead quoted : List Char} (leads : Lead first lead)
    {name : String} (named : Scan.Quoted name.toList quoted) (rest : List Char) :
    Reader.members step (n + 1) first state (lead ++ '"' :: (quoted ++ rest)) =
      step state name rest >>= fun taken => Reader.members step n false taken.1 taken.2 := by
  rw [Reader.members, nextNamed leads]
  change (Scan.string (quoted ++ rest) >>= fun named => _) = _
  rw [Scan.stringQuoted named]
  rfl

end

structure Layout where
  line : Nat → List Char
  space : List Char
  lineGap (depth : Nat) : Gap (line depth)
  spaceGap : Gap space

namespace Layout

def compact : Layout := ⟨fun _ => [], [], fun _ => nofun, nofun⟩

theorem newlineGap (depth : Nat) : Gap (Writer.newline depth) := by
  intro c inside
  rcases List.mem_cons.mp inside with rfl | blank
  · rfl
  · rw [(List.mem_replicate.mp blank).2]
    rfl

def pretty : Layout := ⟨Writer.newline, [' '], newlineGap, by simp [Gap, isGap]⟩

mutual

def value (l : Layout) (depth : Nat) : Json → List Char
  | .array (item :: items) =>
    '[' :: l.line (depth + 1) ++ l.value (depth + 1) item ++ l.items depth items
  | .object ((name, item) :: rest) =>
    '\x7b' :: l.line (depth + 1) ++ quote name ++ ':' :: (l.space ++ l.value (depth + 1) item)
      ++ l.members depth rest
  | v => Writer.compact v

def items (l : Layout) (depth : Nat) : List Json → List Char
  | [] => l.line depth ++ [']']
  | item :: rest =>
    ',' :: l.line (depth + 1) ++ l.value (depth + 1) item ++ l.items depth rest

def members (l : Layout) (depth : Nat) : List (String × Json) → List Char
  | [] => l.line depth ++ ['\x7d']
  | (name, item) :: rest =>
    ',' :: l.line (depth + 1) ++ quote name ++ ':' :: (l.space ++ l.value (depth + 1) item)
      ++ l.members depth rest

end

mutual

theorem valueCompact (depth : Nat) : (v : Json) → compact.value depth v = Writer.compact v
  | .null | .bool true | .bool false | .number _ | .string _ | .array [] | .object [] => rfl
  | .array (item :: items) => by
    rw [value, Writer.compact, valueCompact, itemsCompact]
    rfl
  | .object ((name, item) :: members) => by
    rw [value, Writer.compact, valueCompact, membersCompact]
    rfl

theorem itemsCompact (depth : Nat) :
    (items : List Json) → compact.items depth items = Writer.compactItems items
  | [] => rfl
  | item :: items => by
    rw [Layout.items, Writer.compactItems, valueCompact, itemsCompact]
    rfl

theorem membersCompact (depth : Nat) : (members : List (String × Json)) →
    compact.members depth members = Writer.compactMembers members
  | [] => rfl
  | (name, item) :: members => by
    rw [Layout.members, Writer.compactMembers, valueCompact, membersCompact]
    rfl

end

theorem textCompact (v : Json) : v.text.toList = compact.value 0 v := by
  rw [valueCompact]
  exact String.toList_ofList

mutual

theorem valuePretty (depth : Nat) : (v : Json) → pretty.value depth v = Writer.pretty depth v
  | .null | .bool true | .bool false | .number _ | .string _ | .array [] | .object [] => rfl
  | .array (item :: items) => by
    rw [value, Writer.pretty, valuePretty, itemsPretty]
    rfl
  | .object ((name, item) :: members) => by
    rw [value, Writer.pretty, valuePretty, membersPretty]
    rfl

theorem itemsPretty (depth : Nat) :
    (items : List Json) → pretty.items depth items = Writer.prettyItems depth items
  | [] => rfl
  | item :: items => by
    rw [Layout.items, Writer.prettyItems, valuePretty, itemsPretty]
    rfl

theorem membersPretty (depth : Nat) : (members : List (String × Json)) →
    pretty.members depth members = Writer.prettyMembers depth members
  | [] => rfl
  | (name, item) :: members => by
    rw [Layout.members, Writer.prettyMembers, valuePretty, membersPretty]
    rfl

end

mutual

theorem valueSpelled (l : Layout) (depth : Nat) :
    (v : Json) → ∃ p, Spells (.value p) (l.value depth v)
  | .null => ⟨_, .null⟩
  | .bool true => ⟨_, .true⟩
  | .bool false => ⟨_, .false⟩
  | .number n => ⟨_, .number n.textForm⟩
  | .string s => ⟨_, .string (Scan.writtenQuoted s.toList)⟩
  | .array [] => ⟨_, .array (.itemsEnd .none)⟩
  | .array (item :: items) => by
    obtain ⟨p, one⟩ := l.valueSpelled (depth + 1) item
    obtain ⟨ps, more⟩ := l.itemsSpelled depth items
    have inside := Spells.item (.first (l.lineGap (depth + 1))) one more
    exact ⟨_, by simpa [value] using Spells.array inside⟩
  | .object [] => ⟨_, .object (.membersEnd .none)⟩
  | .object ((name, item) :: members) => by
    obtain ⟨p, one⟩ := l.valueSpelled (depth + 1) item
    obtain ⟨ms, more⟩ := l.membersSpelled depth members
    have named := Scan.writtenQuoted name.toList
    have inside := Spells.member (.first (l.lineGap (depth + 1))) named .none l.spaceGap one more
    exact ⟨_, by simpa [value, quote] using Spells.object inside⟩

theorem itemsSpelled (l : Layout) (depth : Nat) :
    (items : List Json) → ∃ ps, Spells (.items false ps) (l.items depth items)
  | [] => ⟨[], .itemsEnd (l.lineGap depth)⟩
  | item :: items => by
    obtain ⟨p, one⟩ := l.valueSpelled (depth + 1) item
    obtain ⟨ps, more⟩ := l.itemsSpelled depth items
    have whole := Spells.item (.later .none (l.lineGap (depth + 1))) one more
    exact ⟨_, by simpa [Layout.items] using whole⟩

theorem membersSpelled (l : Layout) (depth : Nat) : (members : List (String × Json)) →
    ∃ ms, Spells (.members false ms) (l.members depth members)
  | [] => ⟨[], .membersEnd (l.lineGap depth)⟩
  | (name, item) :: members => by
    obtain ⟨p, one⟩ := l.valueSpelled (depth + 1) item
    obtain ⟨ms, more⟩ := l.membersSpelled depth members
    have named := Scan.writtenQuoted name.toList
    have whole := Spells.member (.later .none (l.lineGap (depth + 1))) named .none l.spaceGap one
      more
    exact ⟨_, by simpa [Layout.members, quote] using whole⟩

end

theorem valueBegins (l : Layout) (depth : Nat) (v : Json) : Begins (l.value depth v) := by
  obtain ⟨p, spelled⟩ := l.valueSpelled depth v
  exact spelled.begins

theorem itemsStop (l : Layout) (depth : Nat) (items : List Json) (rest : List Char) :
    Numeral.Stops (l.items depth items ++ rest) := by
  obtain ⟨ps, spelled⟩ := l.itemsSpelled depth items
  exact spelled.itemsStop rest

theorem membersStop (l : Layout) (depth : Nat) (members : List (String × Json))
    (rest : List Char) : Numeral.Stops (l.members depth members ++ rest) := by
  obtain ⟨ms, spelled⟩ := l.membersSpelled depth members
  exact spelled.membersStop rest

end Layout

/-- The text is read whole, whatever follows that no number goes on with. -/
def Takes (read : List Char → Except Stop (α × List Char)) (text : List Char) (x : α) : Prop :=
  ∀ rest, Numeral.Stops rest → read (text ++ rest) = .ok (x, rest)

theorem itemsPast {step : σ → List Char → Except Stop (σ × List Char)} {state mid : σ}
    {first : Bool} {lead text rest : List Char} (leads : Lead first lead) (begins : Begins text)
    (one : Takes (step state) text mid) (stops : Numeral.Stops rest) (n : Nat) :
    Reader.elements step (n + 1) first state (lead ++ (text ++ rest)) =
      Reader.elements step n false mid rest := by
  rw [itemsStep n state leads begins, one rest stops]
  rfl

theorem membersPast {step : σ → String → List Char → Except Stop (σ × List Char)}
    {state mid : σ} {first : Bool} {lead text rest : List Char} (leads : Lead first lead)
    (name : String) (one : Takes (fun cs => step state name (':' :: cs)) text mid)
    (stops : Numeral.Stops rest) (n : Nat) :
    Reader.members step (n + 1) first state (lead ++ (quote name ++ ':' :: (text ++ rest))) =
      Reader.members step n false mid rest := by
  obtain ⟨quoted, form, named⟩ := Scan.quoteSpelled name
  have read : step state name (':' :: (text ++ rest)) = .ok (mid, rest) := one rest stops
  rw [form, List.cons_append, membersStep n state leads named, read]
  rfl

theorem Takes.document {reader : Reader α} {text : String} {x : α}
    (one : Takes (reader ⟨depthLimit, text.toList.length + 1⟩) text.toList x) :
    reader.document text = .ok x := by
  have read := one [] (by simp [Numeral.Stops])
  rw [List.append_nil] at read
  rw [Reader.documentOk]
  simp [Reader.whole, read, skipGaps, bind, Except.bind, pure, Except.pure]

namespace Layout

section
variable (l : Layout) (depth : Nat)

inductive Listed (step : σ → List Char → Except Stop (σ × List Char)) : σ → List Json → σ → Prop
  | done (state : σ) : Listed step state [] state
  | item {state last : σ} {v : Json} {rest : List Json} (mid : σ)
      (one : Takes (step state) (l.value (depth + 1) v) mid) (more : Listed step mid rest last) :
      Listed step state (v :: rest) last

inductive Gathered (step : σ → String → List Char → Except Stop (σ × List Char)) :
    σ → List (String × Json) → σ → Prop
  | done (state : σ) : Gathered step state [] state
  | member {state last : σ} {name : String} {v : Json} {rest : List (String × Json)} (mid : σ)
      (one : Takes (fun cs => step state name (':' :: cs)) (l.space ++ l.value (depth + 1) v) mid)
      (more : Gathered step mid rest last) : Gathered step state ((name, v) :: rest) last

end

variable {l : Layout} {depth : Nat}

theorem itemsListed {step : σ → List Char → Except Stop (σ × List Char)} {state last : σ}
    {items : List Json} (listed : Listed l depth step state items last) {n : Nat}
    (rounds : items.length < n) (rest : List Char) :
    Reader.elements step n false state (l.items depth items ++ rest) = .ok (last, rest) := by
  induction listed generalizing n with
  | done state =>
    obtain ⟨n, rfl⟩ : ∃ k, n = k + 1 := ⟨n - 1, by simp at rounds; omega⟩
    rw [Layout.items, List.append_assoc]
    exact itemsClosed n state false (l.lineGap depth) rest
  | @item state last v more mid one _ ih =>
    obtain ⟨n, rfl⟩ : ∃ k, n = k + 1 := ⟨n - 1, by simp at rounds; omega⟩
    have later := ih (by simpa using rounds)
    have past := itemsPast (.later .none (l.lineGap (depth + 1))) (l.valueBegins (depth + 1) v) one
      (l.itemsStop depth more rest) n
    rw [Layout.items, List.append_assoc, List.append_assoc]
    exact past.trans later

theorem arrayListed {step : σ → List Char → Except Stop (σ × List Char)} {state last : σ}
    {items : List Json} (listed : Listed l depth step state items last) {n : Nat}
    (rounds : items.length < n) (rest : List Char) : ∃ body,
      l.value depth (.array items) = '[' :: body ∧
      Reader.elements step n true state (body ++ rest) = .ok (last, rest) := by
  obtain ⟨n, rfl⟩ : ∃ k, n = k + 1 := ⟨n - 1, by omega⟩
  cases listed with
  | done state => exact ⟨[']'], rfl, rfl⟩
  | @item state last v more mid one listed =>
    refine ⟨l.line (depth + 1) ++ l.value (depth + 1) v ++ l.items depth more, rfl, ?_⟩
    have later := itemsListed listed (by simpa using rounds) rest
    have past := itemsPast (.first (l.lineGap (depth + 1))) (l.valueBegins (depth + 1) v) one
      (l.itemsStop depth more rest) n
    rw [List.append_assoc, List.append_assoc]
    exact past.trans later

theorem membersGathered {step : σ → String → List Char → Except Stop (σ × List Char)}
    {state last : σ} {members : List (String × Json)}
    (gathered : Gathered l depth step state members last) {n : Nat} (rounds : members.length < n)
    (rest : List Char) :
    Reader.members step n false state (l.members depth members ++ rest) = .ok (last, rest) := by
  induction gathered generalizing n with
  | done state =>
    obtain ⟨n, rfl⟩ : ∃ k, n = k + 1 := ⟨n - 1, by simp at rounds; omega⟩
    rw [Layout.members, List.append_assoc]
    exact membersClosed n state false (l.lineGap depth) rest
  | @member state last name v more mid one _ ih =>
    obtain ⟨n, rfl⟩ : ∃ k, n = k + 1 := ⟨n - 1, by simp at rounds; omega⟩
    have later := ih (by simpa using rounds)
    have past := membersPast (.later .none (l.lineGap (depth + 1))) name one
      (l.membersStop depth more rest) n
    simpa [Layout.members] using past.trans later

theorem objectGathered {step : σ → String → List Char → Except Stop (σ × List Char)}
    {state last : σ} {members : List (String × Json)}
    (gathered : Gathered l depth step state members last) {n : Nat} (rounds : members.length < n)
    (rest : List Char) : ∃ body, l.value depth (.object members) = '\x7b' :: body ∧
      Reader.members step n true state (body ++ rest) = .ok (last, rest) := by
  obtain ⟨n, rfl⟩ : ∃ k, n = k + 1 := ⟨n - 1, by omega⟩
  cases gathered with
  | done state => exact ⟨['\x7d'], rfl, rfl⟩
  | @member state last name v more mid one gathered =>
    refine ⟨l.line (depth + 1) ++ quote name ++ ':' :: (l.space ++ l.value (depth + 1) v)
      ++ l.members depth more, rfl, ?_⟩
    have later := membersGathered gathered (by simpa using rounds) rest
    have past := membersPast (.first (l.lineGap (depth + 1))) name one
      (l.membersStop depth more rest) n
    simpa using past.trans later

section
variable (l : Layout) (depth : Nat)

theorem itemsCounted (items : List Json) : items.length < (l.items depth items).length := by
  induction items with
  | nil => simp [Layout.items]
  | cons item items ih => simp only [Layout.items, List.length_cons, List.length_append]; omega

theorem membersCounted (members : List (String × Json)) :
    members.length < (l.members depth members).length := by
  induction members with
  | nil => simp [Layout.members]
  | cons member members ih =>
    simp only [Layout.members, List.length_cons, List.length_append]
    omega

theorem itemsCover {v : Json} {items : List Json} (inside : v ∈ items) :
    (l.value (depth + 1) v).length < (l.items depth items).length := by
  induction inside with
  | head items => simp only [Layout.items, List.length_cons, List.length_append]; omega
  | tail item _ ih => simp only [Layout.items, List.length_cons, List.length_append]; omega

theorem membersCover {name : String} {v : Json} {members : List (String × Json)}
    (inside : (name, v) ∈ members) :
    (l.value (depth + 1) v).length < (l.members depth members).length := by
  induction inside with
  | head members => simp only [Layout.members, List.length_cons, List.length_append]; omega
  | tail member _ ih => simp only [Layout.members, List.length_cons, List.length_append]; omega

-- The opening bracket is as long as the comma that it stands in for.
theorem arraySpans (item : Json) (items : List Json) :
    (l.items depth (item :: items)).length = (l.value depth (.array (item :: items))).length := by
  simp [Layout.items, Layout.value]

theorem objectSpans (member : String × Json) (members : List (String × Json)) :
    (l.members depth (member :: members)).length =
      (l.value depth (.object (member :: members))).length := by
  simp [Layout.members, Layout.value]

theorem arrayCounted (items : List Json) : items.length < (l.value depth (.array items)).length := by
  cases items with
  | nil => exact Nat.zero_lt_two
  | cons item items => exact arraySpans l depth item items ▸ l.itemsCounted depth _

theorem objectCounted (members : List (String × Json)) :
    members.length < (l.value depth (.object members)).length := by
  cases members with
  | nil => exact Nat.zero_lt_two
  | cons member members => exact objectSpans l depth member members ▸ l.membersCounted depth _

theorem arrayCovers {v : Json} {items : List Json} (inside : v ∈ items) :
    (l.value (depth + 1) v).length < (l.value depth (.array items)).length := by
  cases items with
  | nil => cases inside
  | cons item items => exact arraySpans l depth item items ▸ l.itemsCover depth inside

theorem objectCovers {name : String} {v : Json} {members : List (String × Json)}
    (inside : (name, v) ∈ members) :
    (l.value (depth + 1) v).length < (l.value depth (.object members)).length := by
  cases members with
  | nil => cases inside
  | cons member members => exact objectSpans l depth member members ▸ l.membersCover depth inside

end

end Layout
end RegistrySeeding.Json
