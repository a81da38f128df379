import RegistrySeeding.Proofs.Json.Gathering
import RegistrySeeding.Record.Asset
import RegistrySeeding.Record.Chain
import RegistrySeeding.Record.Deployment

/-! Which documents are records of the source. Each record has its table of fields; a document is
accepted if it meets the table, and what it is read as depends on the members of the table alone. -/
namespace RegistrySeeding
namespace Json
variable {α ρ : Type}

theorem documentYields {reader : Reader α} {text : String} {p : Phrase} {x : Option α}
    (spelled : Document text p)
    (one : ∀ span body, Spells (.value p) body → body.length ≤ span →
      Yields (reader ⟨depthLimit, span⟩) body x) :
    (Reader.document reader text).toOption = x := by
  obtain ⟨gap, body, gap', blank, blank', spelled, same⟩ := spelled
  have covers : body.length ≤ text.toList.length + 1 := by
    rw [same]
    simp only [List.length_append]
    omega
  have stops : Numeral.Stops gap' := by
    have stops : Numeral.Stops (gap' ++ []) := blank'.stops Numeral.stopsEnd
    rwa [List.append_nil] at stops
  have ends : Scan.skipGaps gap' = [] := by
    rw [← List.append_nil gap', blank'.past]
    rfl
  have read := one _ body spelled covers gap gap' blank stops
  rw [← same] at read
  rw [Reader.documentToOption, Reader.whole, toOptionBind, read]
  cases x with
  | none => rfl
  | some x => simp [ends, pure, Except.pure]

section
variable {record : Record ρ} {levels span : Nat} {senses : record.fields.Senses} {es : List Entry}

theorem listWhole (budget : Budget) (cs : List Char) :
    record.readList budget cs = do
      let (x, rest) ← record.fields.readWhole record.expectedLength 0 budget cs
      return (record.make x, rest) := by
  simp only [Record.readList, Fields.readWhole, bind_assoc, pure_bind]

theorem objectSpelled (fit : record.fields.Matches levels senses es) {ms : List (String × Phrase)}
    {text : List Char} (spelled : Spells (.value (.object ms)) text) (covers : text.length ≤ span) :
    Yields (record.codec.read ⟨levels + 1, span⟩) text
      ((record.fields.said senses ms).map record.make) := by
  intro gap rest blank stops
  have here := spelled.here blank rest
  cases spelled with
  | @object _ text inside =>
    have opened : record.codec.read ⟨levels + 1, span⟩ (gap ++ ('\x7b' :: text ++ rest)) =
        record.readObject ⟨levels, span⟩ (text ++ rest) := by
      change record.read _ _ = _
      rw [Record.read, here]
      rfl
    have read := membersSpelled
      (fun slots name p before own blank one covers =>
        fit.memberSpelled slots name blank one covers)
      inside (Nat.le_of_succ_le covers) (n := span)
      (Nat.lt_of_lt_of_le (membersCounted inside) (Nat.le_of_succ_le covers))
      record.fields.unread rest
    rw [opened, Record.readObject, toOptionBind, read, ← fit.completed ms]
    cases ms.foldlM (record.fields.act senses) record.fields.unread with
    | none => rfl
    | some slots =>
      rw [Option.map_some, Option.bind_some, Option.bind_some, toOptionBind, toOptionMapError]
      cases (record.fields.complete slots).toOption <;> rfl

theorem listSpelled (fit : record.fields.Matches levels senses es) {ps : List Phrase}
    {text : List Char} (spelled : Spells (.value (.array ps)) text) (covers : text.length ≤ span) :
    Yields (record.codec.read ⟨levels + 1, span⟩) text
      (if ps.length ≤ es.length then
        (record.fields.said senses ((es.map Entry.name).zip ps)).map record.make
      else none) := by
  intro gap rest blank stops
  have here := spelled.here blank rest
  cases spelled with
  | @array _ text inside =>
    have opened : record.codec.read ⟨levels + 1, span⟩ (gap ++ ('[' :: text ++ rest)) =
        record.readList ⟨levels, span⟩ (text ++ rest) := by
      change record.read _ _ = _
      rw [Record.read, here]
      rfl
    have read := fit.listSpelled record.expectedLength 0 inside
      (Nat.le_of_succ_le covers) rest
    rw [opened, listWhole, toOptionBind, read]
    split
    · cases record.fields.said senses _ <;> rfl
    · rfl

end

def Entry.knows (es : List Entry) (m : String × Phrase) : Bool := (es.map Entry.name).contains m.1

/-- How documents are taken. An object counts for what its members say, in any order and among any
others; it is accepted if and only if every field's entry is met. A list counts for the same values
under the names in their order. The fields' values may open one bracket less than a document. -/
structure Codec.Accepts (codec : Codec ρ) (es : List Entry)
    (said : List (String × Phrase) → Option ρ) : Prop where
  value {text : String} {ms : List (String × Phrase)} : Document text (.object ms) →
    (codec.decode text).toOption = said ms
  accepted {text : String} {ms : List (String × Phrase)} : Document text (.object ms) →
    ((∃ x, codec.decode text = .ok x) ↔ ∀ e ∈ es, e.Met (depthLimit - 1) ms)
  known {text text' : String} {ms ms' : List (String × Phrase)} : Document text (.object ms) →
    Document text' (.object ms') →
    (ms.filter (Entry.knows es)).Perm (ms'.filter (Entry.knows es)) →
    (codec.decode text).toOption = (codec.decode text').toOption
  listed {text : String} {ps : List Phrase} : Document text (.array ps) →
    (codec.decode text).toOption =
      if ps.length ≤ es.length then said ((es.map Entry.name).zip ps) else none

theorem okSome {ε : Type} {work : Except ε α} :
    (∃ x, work = .ok x) ↔ work.toOption.isSome := by
  cases work <;> simp

theorem Record.accepts {record : Record ρ} {senses : record.fields.Senses} {es : List Entry}
    (fit : record.fields.Matches (depthLimit - 1) senses es)
    {said : List (String × Phrase) → Option ρ}
    (built : ∀ ms, record.fields.build senses ms record.make = said ms) :
    record.codec.Accepts es said := by
  have same (ms : List (String × Phrase)) :
      (record.fields.said senses ms).map record.make = said ms :=
    (record.fields.saidBuilt senses ms record.make).trans (built ms)
  have value {text : String} {ms : List (String × Phrase)} (spelled : Document text (.object ms)) :
      (record.codec.decode text).toOption = said ms := by
    rw [← same]
    exact documentYields spelled fun span body one covers => objectSpelled fit one covers
  refine ⟨value, fun {text ms} spelled => ?_, fun {text text' ms ms'} spelled spelled' perm => ?_,
    fun {text ps} spelled => ?_⟩
  · have each : ∀ m ∈ ms, ∃ own, Spells (.value m.2) own := by
      obtain ⟨-, body, -, -, -, one, -⟩ := spelled
      cases one with
      | object inside => exact fun m among => inside.memberSpelled among
    rw [okSome, value spelled, ← same, Option.isSome_map, fit.saidSome each]
  · have kept (m : String × Phrase) (known : m.1 ∈ es.map Entry.name) : Entry.knows es m := by
      simpa [Entry.knows] using known
    rw [value spelled, value spelled', ← same, ← same, ← fit.saidFiltered ms kept,
      ← fit.saidFiltered ms' kept, fit.saidPerm perm]
  · rw [← same]
    exact documentYields spelled fun span body one covers => listSpelled fit one covers

end Json

open Json (Codec Document Entry Gap Phrase Spells under)

namespace Chain

def entries : List Entry :=
  [⟨"chain_id", .text, true⟩, ⟨"name", .text, true⟩, ⟨"chain_type", .text, true⟩,
   ⟨"native_asset_symbol", .text, true⟩, ⟨"rpc_urls", .texts, true⟩,
   ⟨"block_explorer_url", .text, true⟩]

def said (ms : List (String × Phrase)) : Option Chain := do
  let id ← under none Phrase.text? "chain_id" ms
  let name ← under none Phrase.text? "name" ms
  let kind ← under none Phrase.text? "chain_type" ms
  let native ← under none Phrase.text? "native_asset_symbol" ms
  let urls ← under none (Phrase.items? Phrase.text?) "rpc_urls" ms
  let explorer ← under none Phrase.text? "block_explorer_url" ms
  return ⟨id, name, kind, native, urls, explorer⟩

theorem accepts : codec.Accepts entries said := by
  have text := Codec.admitsText (Json.depthLimit - 1)
  have fit : record.fields.Matches (Json.depthLimit - 1) _ entries :=
    .cons (.required "chain_id" text) (by decide) <|
    .cons (.required "name" text) (by decide) <|
    .cons (.required "chain_type" text) (by decide) <|
    .cons (.required "native_asset_symbol" text) (by decide) <|
    .cons (.required "rpc_urls" (Codec.admitsTexts _)) (by decide) <|
    .cons (.required "block_explorer_url" text) (by decide) .nil
  exact Json.Record.accepts fit fun ms => rfl

end Chain

namespace Asset

def entries : List Entry :=
  [⟨"id", .text, false⟩, ⟨"symbol", .text, true⟩, ⟨"name", .text, true⟩, ⟨"type", .text, true⟩,
   ⟨"category", .orNull .text, false⟩, ⟨"description", .orNull .text, false⟩,
   ⟨"logo_url", .orNull .text, false⟩, ⟨"website_url", .orNull .text, false⟩,
   ⟨"coingecko_id", .orNull .text, false⟩, ⟨"metadata", .orNull .object, false⟩]

def said (ms : List (String × Phrase)) : Option Asset := do
  let text := under (some none) (Phrase.orNull? Phrase.text?)
  let id ← under (some "") Phrase.text? "id" ms
  let symbol ← under none Phrase.text? "symbol" ms
  let name ← under none Phrase.text? "name" ms
  let kind ← under none Phrase.text? "type" ms
  let category ← text "category" ms
  let description ← text "description" ms
  let logo ← text "logo_url" ms
  let site ← text "website_url" ms
  let reference ← text "coingecko_id" ms
  let data ← under (some none) (Phrase.orNull? (Phrase.members? (Json.depthLimit - 2)))
    "metadata" ms
  return ⟨id, symbol, name, kind, category, description, logo, site, reference, data⟩

theorem accepts : codec.Accepts entries said := by
  have text := Codec.admitsText (Json.depthLimit - 1)
  have data := Codec.admitsObject (Json.depthLimit - 2)
  have fit : record.fields.Matches (Json.depthLimit - 1) _ entries :=
    .cons (.withDefault "id" text "") (by decide) <|
    .cons (.required "symbol" text) (by decide) <|
    .cons (.required "name" text) (by decide) <|
    .cons (.required "type" text) (by decide) <|
    .cons (.withDefault "category" text.orNull none) (by decide) <|
    .cons (.withDefault "description" text.orNull none) (by decide) <|
    .cons (.withDefault "logo_url" text.orNull none) (by decide) <|
    .cons (.withDefault "website_url" text.orNull none) (by decide) <|
    .cons (.withDefault "coingecko_id" text.orNull none) (by decide) <|
    .cons (.withDefault "metadata" data.orNull none) (by decide) .nil
  exact Json.Record.accepts fit fun ms => rfl

end Asset

namespace Deployment

def entries : List Entry :=
  [⟨"asset_symbol", .text, true⟩, ⟨"chain_id", .text, true⟩, ⟨"contract_address", .text, true⟩,
   ⟨"decimals", .count 4294967295, true⟩, ⟨"is_native", .flag, true⟩]

def said (ms : List (String × Phrase)) : Option Deployment := do
  let symbol ← under none Phrase.text? "asset_symbol" ms
  let chain ← under none Phrase.text? "chain_id" ms
  let address ← under none Phrase.text? "contract_address" ms
  let decimals ← under none Phrase.uint32? "decimals" ms
  let native ← under none Phrase.flag? "is_native" ms
  return ⟨symbol, chain, address, decimals, native⟩

theorem accepts : codec.Accepts entries said := by
  have text := Codec.admitsText (Json.depthLimit - 1)
  have fit : record.fields.Matches (Json.depthLimit - 1) _ entries :=
    .cons (.required "asset_symbol" text) (by decide) <|
    .cons (.required "chain_id" text) (by decide) <|
    .cons (.required "contract_address" text) (by decide) <|
    .cons (.required "decimals" (Codec.admitsCount _)) (by decide) <|
    .cons (.required "is_native" (Codec.admitsFlag _)) (by decide) .nil
  exact Json.Record.accepts fit fun ms => rfl

end Deployment

/-- Every record of the source is accepted exactly as its table of fields says. -/
theorem recordsAccepted : Chain.codec.Accepts Chain.entries Chain.said ∧
    Asset.codec.Accepts Asset.entries Asset.said ∧
    Deployment.codec.Accepts Deployment.entries Deployment.said :=
  ⟨Chain.accepts, Asset.accepts, Deployment.accepts⟩

def shuffledDeployment : String :=
  "\x7b\"is_native\": true, \"note\": [1e999, \x7b\x7d],\n\"decimals\": 18, " ++
  "\"chain_id\": \"1\", \"contract_address\": \"\", \"asset_symbol\": \"\\u0045\"\x7d"

def shuffledMembers : List (String × Phrase) :=
  [("is_native", .bool true), ("note", .array [.number ['1', 'e', '9', '9', '9'], .object []]),
   ("decimals", .number ['1', '8']), ("chain_id", .string "1"), ("contract_address", .string ""),
   ("asset_symbol", .string "E")]

theorem shuffledDocument : Document shuffledDeployment (.object shuffledMembers) := by
  have none := Gap.none
  have space : Gap [' '] := by decide
  have line : Gap ['\n'] := by decide
  have one : Json.Numeral.Whole ['1'] := .leading (by decide) (by decide)
  have eighteen : Json.Numeral.Whole ['1', '8'] := .leading (by decide) (by decide)
  have thrice : Json.Numeral.Exponent ('e' :: ([] ++ ['9', '9', '9'])) :=
    .marked (.inl rfl) (.inl rfl) (by decide) (by decide)
  have vast : Json.Numeral.Spelled ['1', 'e', '9', '9', '9'] :=
    .parts (.inl rfl) one .none thrice
  have small : Json.Numeral.Spelled ['1', '8'] :=
    .parts (.inl rfl) eighteen .none .none
  have four : Json.Scan.Hex ['0', '0', '4', '5'] (((0 * 16 + 0) * 16 + 4) * 16 + 5) :=
    .four rfl rfl rfl rfl
  have escaped : Json.Scan.Quoted "E".toList ['\\', 'u', '0', '0', '4', '5', '"'] :=
    .char (.unit four (by decide) rfl) .close
  have note : Spells (.value (.array [.number ['1', 'e', '9', '9', '9'], .object []])) _ :=
    .array <| .item (.first none) (.number vast) <|
      .item (.later none space) (.object (.membersEnd none)) (.itemsEnd none)
  refine ⟨[], _, [], none, none, .object <|
    .member (.first none) (.plain (by decide)) none space .true <|
    .member (.later none space) (.plain (by decide)) none space note <|
    .member (.later none line) (.plain (by decide)) none space (.number small) <|
    .member (.later none space) (.plain (by decide)) none space (.string (.plain (by decide))) <|
    .member (.later none space) (.plain (by decide)) none space (.string (.plain (by decide))) <|
    .member (.later none space) (.plain (by decide)) none space (.string escaped) <|
    .membersEnd none, ?_⟩
  decide +kernel

theorem shuffledDeploymentTaken :
    (Deployment.codec.decode shuffledDeployment).toOption = some ⟨"E", "1", "", 18, true⟩ :=
  (recordsAccepted.2.2.value shuffledDocument).trans (by decide)

end RegistrySeeding
