import RegistrySeeding.Proofs.Client.Postings
import RegistrySeeding.Proofs.Json.Reading
import RegistrySeeding.Proofs.Record.RoundTrip
import RegistrySeeding.Proofs.Text.WhiteSpace

/-! What the posted documents say of the records. The texts of a record stand in its document as
they are, what is blank is left out, and the document is read back as the request it was made of. -/
namespace RegistrySeeding
open Json (Codec Fields Reader Record)
open Text (Blank)

inductive Chain.Member (c : Chain) : String → Json → Prop where
  | chainId : c.Member "chainId" (.string c.chainType)
  | name : c.Member "name" (.string c.name)
  | blockExplorerUrl (shown : ¬Blank c.blockExplorerUrl) :
      c.Member "blockExplorerUrl" (.string c.blockExplorerUrl)

def tokenStandards : List String := ["ASSET_TYPE_ERC20", "ASSET_TYPE_BEP20", "ASSET_TYPE_SPL"]

inductive Asset.Member (a : Asset) : String → Json → Prop where
  | symbol : a.Member "symbol" (.string a.symbol)
  | name : a.Member "name" (.string a.name)
  | native (source : a.sourceType = "ASSET_TYPE_NATIVE") :
      a.Member "assetType" (.string "ASSET_TYPE_NATIVE")
  | token (source : a.sourceType ∈ tokenStandards) :
      a.Member "assetType" (.string "ASSET_TYPE_FUNGIBLE_TOKEN")
  | other (native : a.sourceType ≠ "ASSET_TYPE_NATIVE") (token : a.sourceType ∉ tokenStandards) :
      a.Member "assetType" (.string "ASSET_TYPE_UNSPECIFIED")
  | category {s : String} (given : a.category = some s) (shown : ¬Blank s) :
      a.Member "category" (.string s)
  | description {s : String} (given : a.description = some s) (shown : ¬Blank s) :
      a.Member "description" (.string s)
  | logoUrl {s : String} (given : a.logoUrl = some s) (shown : ¬Blank s) :
      a.Member "logoUrl" (.string s)

def Deployment.Contractless (d : Deployment) : Prop :=
  d.isNative = true ∧ d.contractAddress = "0x0000000000000000000000000000000000000000"

inductive Deployment.Member (d : Deployment) (assetId : String) : String → Json → Prop where
  | assetId : d.Member assetId "assetId" (.string assetId)
  | chainId : d.Member assetId "chainId" (.string d.chainId)
  | noContract (bare : d.Contractless) : d.Member assetId "contractAddress" (.string "native")
  | contract (own : ¬d.Contractless) :
      d.Member assetId "contractAddress" (.string d.contractAddress)
  | decimals : d.Member assetId "decimals" (.number (.int d.decimals.toNat))
  | isNative : d.Member assetId "isNative" (.bool d.isNative)

namespace Client
variable {α σ : Type}

structure Conveys (codec : Codec α) (x : α) (member : String → Json → Prop) (body : String) :
    Prop where
  parsed : ∃ found, Reader.document Reader.value body = .ok (.object found) ∧
    (found.map (·.1)).Nodup ∧ (∀ name v, (name, v) ∈ found ↔ member name v) ∧
    ∀ m ∈ found, m.2 ≠ .null
  restored : codec.decode body = .ok x

structure Posts (client : Client) (s : Submission) (conveys : String → Prop)
    (posted : List Request) : Prop where
  once : posted.length = if (client.destination (methodOf s.stage).1).isOk then 1 else 0
  each : ∀ request ∈ posted, conveys request.body

theorem posts (client : Client) (transport : Transport σ) (world : σ) {s : Submission}
    {conveys : String → Prop} (conveyed : conveys s.json.text) :
    client.Posts s conveys (client.submit transport.kept s (world, [])).world.2 := by
  rw [submitPosts, List.nil_append]
  refine ⟨client.postingLength _ s.json, fun request inside => ?_⟩
  obtain ⟨url, authorization, -, rfl⟩ := postingMember inside
  exact conveyed

inductive Simple : Json → Prop where
  | string (s : String) : Simple (.string s)
  | bool (b : Bool) : Simple (.bool b)
  | number (n : UInt32) : Simple (.number (.int n.toNat))

theorem Simple.sound {v : Json} (simple : Simple v) (levels : Nat) : Json.Sound levels v := by
  cases simple with
  | string s => exact .string s
  | bool b => exact .bool b
  | number n =>
    have bound : n.toNat < 4294967296 := n.toNat_lt
    have limit : Json.Numeral.significandLimit = 18446744073709551615 := rfl
    exact .number ⟨by omega, by omega⟩

theorem Simple.whole {v : Json} (simple : Simple v) : Json.Whole v := by
  cases simple with
  | string s => exact .string s
  | bool b => exact .bool b
  | number n => exact .int _

theorem conveysWritten {record : Record α} (total : record.codec.Total)
    (distinct : record.fields.distinct = true) (x : α) {member : String → Json → Prop}
    (members : ∀ name v, (name, v) ∈ record.fields.write (record.parts x) ↔ member name v)
    (simple : ∀ name v, member name v → Simple v) :
    Conveys record.codec x member (record.codec.encode x) := by
  have each : ∀ m ∈ record.fields.write (record.parts x), Simple m.2 :=
    fun m inside => simple m.1 m.2 ((members m.1 m.2).mp inside)
  obtain ⟨found, parsed, same⟩ := Json.objectWritten (Fields.writeDistinct distinct _)
    (fun m inside => (each m inside).sound _) fun m inside => (each m inside).whole
  refine ⟨⟨found, parsed, ?_, fun name v => ?_, fun m inside null => ?_⟩, total.encoded x⟩
  · exact (same.map _).nodup_iff.mpr (Fields.writeDistinct distinct _)
  · rw [same.mem_iff, members]
  · have plain := each m (same.mem_iff.mp inside)
    rw [null] at plain
    nomatch plain

theorem writeRequired {τ : Type} (name : String) (codec : Codec α) (rest : Fields τ) (x : α)
    (later : τ) (m : String × Json) :
    m ∈ (Fields.cons { name, codec } rest).write (x, later) ↔
      m = (name, codec.write x) ∨ m ∈ rest.write later := by
  simp [Fields.write]

theorem writeOptional {τ : Type} (name : String) (rest : Fields τ) (o : Option String)
    (later : τ) (m : String × Json) :
    m ∈ (Fields.cons (.optional name Codec.string) rest).write (o, later) ↔
      (∃ s, o = some s ∧ m = (name, .string s)) ∨ m ∈ rest.write later := by
  cases o <;> simp [Fields.write, Json.Field.optional, Json.Field.withDefault, Codec.option,
    Codec.string]

theorem writeNil (last : Unit) : Fields.nil.write last = [] := rfl

theorem chainMembers (c : Chain) (name : String) (v : Json) :
    (name, v) ∈ ChainRequest.record.fields.write (ChainRequest.record.parts c.request) ↔
      c.Member name v := by
  simp only [ChainRequest.record, Chain.request, writeRequired, writeOptional, Text.shownIff,
    writeNil, List.not_mem_nil, or_false]
  constructor
  · rintro (same | same | ⟨_, ⟨filled, rfl⟩, same⟩) <;> cases same
    · exact .chainId
    · exact .name
    · exact .blockExplorerUrl filled
  · rintro (_ | _ | filled)
    · exact .inl rfl
    · exact .inr (.inl rfl)
    · exact .inr (.inr ⟨_, ⟨filled, rfl⟩, rfl⟩)

theorem kindNative {a : Asset} (source : a.sourceType = "ASSET_TYPE_NATIVE") :
    a.kind = .native := by
  rw [Asset.kind, source]
  rfl

theorem kindToken {a : Asset} (source : a.sourceType ∈ tokenStandards) :
    a.kind = .fungibleToken := by
  simp only [tokenStandards, List.mem_cons, List.not_mem_nil, or_false] at source
  rcases source with source | source | source <;> rw [Asset.kind, source] <;> rfl

theorem kindOther {a : Asset} (native : a.sourceType ≠ "ASSET_TYPE_NATIVE")
    (token : a.sourceType ∉ tokenStandards) : a.kind = .unspecified := by
  simp only [tokenStandards, List.mem_cons, List.not_mem_nil, or_false, not_or] at token
  obtain ⟨erc, bep, spl⟩ := token
  simp [Asset.kind, AssetKind.ofSourceType, AssetKind.sourceTypes, List.lookup_cons,
    beq_false_of_ne native, beq_false_of_ne erc, beq_false_of_ne bep, beq_false_of_ne spl]

theorem kindMember (a : Asset) : a.Member "assetType" (.string a.kind.name) := by
  by_cases native : a.sourceType = "ASSET_TYPE_NATIVE"
  · rw [kindNative native]
    exact .native native
  · by_cases token : a.sourceType ∈ tokenStandards
    · rw [kindToken token]
      exact .token token
    · rw [kindOther native token]
      exact .other native token

theorem assetMembers {a : Asset} {r : AssetRequest} (made : a.request = .ok r) (name : String)
    (v : Json) :
    (name, v) ∈ AssetRequest.record.fields.write (AssetRequest.record.parts r) ↔
      a.Member name v := by
  unfold Asset.request at made
  split at made
  · contradiction
  cases made
  simp only [AssetRequest.record, writeRequired, writeOptional, Option.bind_eq_some_iff,
    Text.shownIff, writeNil, List.not_mem_nil, or_false]
  constructor
  · rintro (same | same | same | ⟨_, ⟨_, given, filled, rfl⟩, same⟩ |
      ⟨_, ⟨_, given, filled, rfl⟩, same⟩ | ⟨_, ⟨_, given, filled, rfl⟩, same⟩) <;> cases same
    · exact .symbol
    · exact .name
    · exact kindMember a
    · exact .category given filled
    · exact .description given filled
    · exact .logoUrl given filled
  · rintro (_ | _ | source | source | ⟨native, token⟩ | ⟨given, filled⟩ | ⟨given, filled⟩ |
      ⟨given, filled⟩)
    · exact .inl rfl
    · exact .inr (.inl rfl)
    · rw [kindNative source]
      exact .inr (.inr (.inl rfl))
    · rw [kindToken source]
      exact .inr (.inr (.inl rfl))
    · rw [kindOther native token]
      exact .inr (.inr (.inl rfl))
    · exact .inr (.inr (.inr (.inl ⟨_, ⟨_, given, filled, rfl⟩, rfl⟩)))
    · exact .inr (.inr (.inr (.inr (.inl ⟨_, ⟨_, given, filled, rfl⟩, rfl⟩))))
    · exact .inr (.inr (.inr (.inr (.inr ⟨_, ⟨_, given, filled, rfl⟩, rfl⟩))))

theorem addressReplaced {d : Deployment} (bare : d.Contractless) :
    registryAddress d.contractAddress d.isNative = "native" := by
  obtain ⟨native, zero⟩ := bare
  rw [registryAddress, native, zero]
  rfl

theorem addressKept {d : Deployment} (own : ¬d.Contractless) :
    registryAddress d.contractAddress d.isNative = d.contractAddress := by
  unfold registryAddress
  split
  · rename_i both
    simp only [Bool.and_eq_true, beq_iff_eq] at both
    exact absurd both own
  · rfl

theorem deploymentMembers (d : Deployment) (assetId name : String) (v : Json) :
    (name, v) ∈
        DeploymentRequest.record.fields.write (DeploymentRequest.record.parts (d.request assetId)) ↔
      d.Member assetId name v := by
  simp only [DeploymentRequest.record, Deployment.request, writeRequired, writeNil,
    List.not_mem_nil, or_false]
  constructor
  · rintro (same | same | same | same | same) <;> cases same
    · exact .assetId
    · exact .chainId
    · rw [Codec.string]
      by_cases bare : d.Contractless
      · rw [addressReplaced bare]
        exact .noContract bare
      · rw [addressKept bare]
        exact .contract bare
    · exact .decimals
    · exact .isNative
  · rintro (_ | _ | bare | own | _ | _)
    · exact .inl rfl
    · exact .inr (.inl rfl)
    · rw [addressReplaced bare]
      exact .inr (.inr (.inl rfl))
    · rw [addressKept own]
      exact .inr (.inr (.inl rfl))
    · exact .inr (.inr (.inr (.inl rfl)))
    · exact .inr (.inr (.inr (.inr rfl)))

theorem postedBodies (client : Client) (transport : Transport σ) (world : σ) :
    let posted (s : Submission) := (client.submit transport.kept s (world, [])).world.2
    (∀ c : Chain, client.Posts (.chain c.request)
      (Conveys ChainRequest.codec c.request c.Member) (posted (.chain c.request))) ∧
    (∀ a : Asset, ¬Blank a.symbol → ∃ r, a.request = .ok r ∧ client.Posts (.asset r)
      (Conveys AssetRequest.codec r a.Member) (posted (.asset r))) ∧
    ∀ (d : Deployment) (assetId : String), client.Posts (.deployment (d.request assetId))
      (Conveys DeploymentRequest.codec (d.request assetId) (d.Member assetId))
      (posted (.deployment (d.request assetId))) := by
  refine ⟨fun c => ?_, fun a filled => ?_, fun d assetId => ?_⟩
  · refine client.posts transport world ?_
    refine conveysWritten ChainRequest.total rfl c.request (chainMembers c) ?_
    rintro _ _ (_ | _ | _) <;> exact .string _
  · obtain ⟨r, made⟩ : ∃ r, a.request = .ok r := by
      unfold Asset.request
      rw [if_neg (mt (Text.blankIff a.symbol).mp filled)]
      exact ⟨_, rfl⟩
    refine ⟨r, made, client.posts transport world ?_⟩
    refine conveysWritten AssetRequest.total rfl r (assetMembers made) ?_
    rintro _ _ (_ | _ | _ | _ | _ | _ | _ | _) <;> exact .string _
  · refine client.posts transport world ?_
    refine conveysWritten DeploymentRequest.total rfl _ (deploymentMembers d assetId) ?_
    rintro _ _ (_ | _ | _ | _ | _ | _)
    · exact .string _
    · exact .string _
    · exact .string _
    · exact .string _
    · exact .number _
    · exact .bool _

def paddedAsset : Asset :=
  ⟨"", " \"B\" ", "\t", "ASSET_TYPE_SPL", some "\x7b\x00\x7d", some "", some "\u3000\n",
    none, none, none⟩

theorem paddedAssetPosted :
    let client : Client := ⟨"http://[::1]:8080", none, {}, .basic⟩
    let posted (s : Submission) := (client.submit Transport.silent.kept s ((), [])).world.2
    ¬Blank paddedAsset.symbol ∧ ∃ r, paddedAsset.request = .ok r ∧
      client.Posts (.asset r) (Conveys AssetRequest.codec r paddedAsset.Member)
        (posted (.asset r)) ∧
      (posted (.asset r)).map (·.body) =
        ["\x7b\"symbol\":\" \\\"B\\\" \",\"name\":\"\\t\",\"assetType\":" ++
          "\"ASSET_TYPE_FUNGIBLE_TOKEN\",\"category\":\"\x7b\\u0000\x7d\"\x7d"] := by
  intro client posted
  have filled : ¬Blank paddedAsset.symbol := by
    rw [← Text.blankIff]
    decide
  obtain ⟨r, made, posts⟩ := (postedBodies client Transport.silent ()).2.1 paddedAsset filled
  refine ⟨filled, r, made, posts, ?_⟩
  cases made
  decide +kernel

end Client
end RegistrySeeding
