import RegistrySeeding.Client.Basic
import RegistrySeeding.Proofs.Json.Reading

/-! The documents of a listing, each read by the other side: a page request by a server, a page by
the client. A server may name an identifier either way and add members of its own. -/
namespace RegistrySeeding.Client
open Json (Reader Layout Takes Fields Record)

theorem placeOf {client : Client} {method : String} (there : (client.destination method).isOk) :
    ∃ place, client.destination method = .ok place := by
  cases found : client.destination method with
  | error failure => simp [found, Except.isOk, Except.toBool] at there
  | ok place => exact ⟨place, rfl⟩

theorem requestReads (r : PageRequest) :
    Reader.document Reader.value r.json.text = .ok r.json := by
  have within : r.pageSize.toNat ≤ Json.Numeral.significandLimit :=
    Nat.le_trans (Nat.le_of_lt r.pageSize.toNat_lt) (by decide)
  have size (levels : Nat) : Json.Sound levels (.number (.int r.pageSize.toNat)) :=
    .number ⟨by omega, by omega⟩
  have ordered : "pageSize" < "pageToken" := by decide
  refine Takes.written (Json.valueTaken (.object ?_ ?_) (.object ?_) (Nat.le_succ _))
  · split
    · exact List.pairwise_singleton _ _
    · exact List.pairwise_pair.mpr ordered
  · split <;> simp [size, Json.Sound.string]
  · split <;> simp [Json.Whole.int, Json.Whole.string]

def bodyMember? (name body : String) : Option Json :=
  (Reader.document Reader.value body).toOption.bind (·.member? name)

theorem tokenFound (r : PageRequest) : bodyMember? "pageToken" r.json.text =
    if r.pageToken = "" then none else some (.string r.pageToken) := by
  rw [bodyMember?, requestReads]
  by_cases first : r.pageToken = "" <;>
    simp [Except.toOption, PageRequest.json, Json.member?, first, List.lookup_cons]

def tokenSeen (body : String) : Option String := (bodyMember? "pageToken" body).bind Json.text?

theorem tokenSeenOf (r : PageRequest) :
    tokenSeen r.json.text = if r.pageToken = "" then none else some r.pageToken := by
  rw [tokenSeen, tokenFound]
  split <;> rfl

theorem sizeFound (r : PageRequest) :
    bodyMember? "pageSize" r.json.text = some (.number (.int r.pageSize.toNat)) := by
  rw [bodyMember?, requestReads]
  rfl

/-- One entry of a listing as a server writes it: the identifier, under one of its names, and the
symbol, among any members that nobody knows. -/
structure Entry where
  asset : ListedAsset
  members : List (String × Json)
  idName : String
  named : idName = "id" ∨ idName = "assetId"
  shown : (members.filter fun m => m.1 ∈ ["id", "assetId", "symbol"]) =
      [(idName, .string asset.id), ("symbol", .string asset.symbol)] ∨
    (members.filter fun m => m.1 ∈ ["id", "assetId", "symbol"]) =
      [("symbol", .string asset.symbol), (idName, .string asset.id)]

namespace Entry

def json (e : Entry) : Json := .object e.members

def registered (e : Entry) : RegisteredAsset := e.asset.registered

theorem registeredAll (entries : List Entry) :
    (entries.map asset).map ListedAsset.registered = entries.map registered :=
  List.map_map

def plain (asset : ListedAsset) : Entry where
  asset
  members := [("id", .string asset.id), ("symbol", .string asset.symbol)]
  idName := "id"
  named := .inl rfl
  shown := .inl rfl

theorem knownNames (name : String) : ListedAsset.record.fields.known name =
    decide (name ∈ ["id", "assetId", "symbol"]) := by
  rw [Bool.eq_iff_iff]
  simp [ListedAsset.record, Fields.known, Fields.knows, or_assoc]

theorem entryTaken (e : Entry) {depth levels span : Nat}
    (covers : (Layout.compact.value depth e.json).length ≤ span) :
    Takes (ListedAsset.record.codec.read ⟨levels + 1, span⟩) (Layout.compact.value depth e.json)
      e.asset := by
  have inside (m : String × Json) (member : m ∈ e.members) :
      (Layout.compact.value (depth + 1) m.2).length ≤ span :=
    Nat.le_trans (Nat.le_of_lt (Layout.compact.objectCovers depth member)) covers
  have knows : Fields.knows (α := String)
      { name := "id", aliases := ["assetId"], codec := Json.Codec.string } e.idName = true := by
    rcases e.named with same | same <;> rw [same] <;> rfl
  have text (s : String) := Json.Codec.readStringTaken "a string" s
  have gathered : Layout.Gathered .compact depth
      (fun slots name cs => ListedAsset.record.fields.readMember slots name ⟨levels, span⟩ cs)
      ListedAsset.record.fields.unread e.members (some e.asset.id, some e.asset.symbol, ()) := by
    refine Fields.gatheredAmong _ inside ?_
    simp only [knownNames]
    -- The identifier comes before the symbol or after it; the other slot is still empty then.
    rcases e.shown with shown | shown <;> rw [shown]
    · exact .member (some e.asset.id, none, ()) (Fields.headTaken knows (text _) _)
        (.member _ (Fields.laterTaken rfl _ (Fields.headTaken rfl (text _) _)) (.done _))
    · exact .member (none, some e.asset.symbol, ())
        (Fields.laterTaken rfl _ (Fields.headTaken rfl (text _) _))
        (.member _ (Fields.headTaken knows (text _) _) (.done _))
  exact Record.taken gathered rfl
    (Nat.lt_of_lt_of_le (Layout.compact.objectCounted depth _) covers)

theorem entriesTaken (entries : List Entry) {depth levels span : Nat}
    (covers : (Layout.compact.value depth (.array (entries.map json))).length ≤ span) :
    Takes (Json.Codec.readList ListedAsset.record.codec.read ⟨levels + 2, span⟩)
      (Layout.compact.value depth (.array (entries.map json))) (entries.map asset) := by
  have counted := Layout.compact.arrayCounted depth (entries.map json)
  have all (p : Json × ListedAsset) (inside : p ∈ entries.map fun e => (e.json, e.asset)) :
      Takes (ListedAsset.record.codec.read ⟨levels + 1, span⟩)
        (Layout.compact.value (depth + 1) p.1) p.2 := by
    obtain ⟨e, listed, rfl⟩ := List.mem_map.mp inside
    have shorter := Layout.compact.arrayCovers depth (List.mem_map_of_mem (f := json) listed)
    exact e.entryTaken (Nat.le_trans (Nat.le_of_lt shorter) covers)
  have taken := Json.Codec.listTaken all (by simp at counted ⊢; omega)
  simpa only [List.map_map, Function.comp_def] using taken

end Entry

def pageJson (entries : List Entry) (token : String) : Json :=
  .object [("assets", .array (entries.map Entry.json)), ("nextPageToken", .string token)]

theorem pageDecodes (entries : List Entry) (token : String) :
    Page.record.codec.decode (pageJson entries token).text =
      .ok ⟨entries.map Entry.asset, token⟩ := by
  have shorter := Layout.compact.objectCovers 0
    (show ("assets", .array (entries.map Entry.json)) ∈
      [("assets", .array (entries.map Entry.json)), ("nextPageToken", .string token)] from
        List.mem_cons_self)
  have gathered : Layout.Gathered .compact 0
      (fun slots name cs => Page.record.fields.readMember slots name ⟨Json.depthLimit - 1,
        (Layout.compact.value 0 (pageJson entries token)).length + 1⟩ cs)
      Page.record.fields.unread
      [("assets", .array (entries.map Entry.json)), ("nextPageToken", .string token)]
      (some (entries.map Entry.asset), some token, ()) :=
    .member (some (entries.map Entry.asset), none, ())
      (Fields.headTaken rfl (Entry.entriesTaken entries
        (Nat.le_succ_of_le (Nat.le_of_lt shorter))) _)
      (.member _ (Fields.laterTaken rfl _
        (Fields.headTaken rfl (Json.Codec.readStringTaken _ token) _)) (.done _))
  exact Takes.written (Record.taken gathered rfl
    (Nat.lt_succ_of_lt (Layout.compact.objectCounted 0 _)))

end RegistrySeeding.Client
