import Mathlib.Data.Finset.Card
import RegistrySeeding.Seed.Index

/-! The index of a listing against the listing itself. A symbol resolves to the first asset listed
under it, the index holds each symbol once, and a repeated symbol leaves a warning and nothing
else. -/
namespace RegistrySeeding.Index

def symbols (index : Index) : List String := index.entries.map (·.1)

theorem unresolvedIff (index : Index) (symbol : String) :
    index.resolve symbol = none ↔ symbol ∉ index.symbols := by
  rw [resolve, List.lookup_eq_none_iff, symbols, List.mem_map]
  constructor
  · rintro absent ⟨entry, inside, rfl⟩
    simpa using absent entry inside
  · intro absent entry inside
    simpa using fun same => absent ⟨entry, inside, same.symm⟩

theorem addDistinct {index : Index} (distinct : index.symbols.Nodup) (asset : RegisteredAsset) :
    (index.add asset).1.symbols.Nodup := by
  unfold add
  split
  · exact distinct
  · rename_i fresh
    have absent := (index.unresolvedIff asset.symbol).mp fresh
    rw [symbols, List.map_append]
    exact List.nodup_append.mpr ⟨distinct, List.nodup_singleton _, by
      rintro symbol inside _ last rfl
      obtain rfl := List.mem_singleton.mp last
      exact absent inside⟩

theorem extendDistinct {index : Index} (distinct : index.symbols.Nodup)
    (listing : List RegisteredAsset) : (index.extend listing).1.symbols.Nodup := by
  induction listing generalizing index with
  | nil => exact distinct
  | cons asset rest ih => exact ih (addDistinct distinct asset)

theorem resolveFirst (listing : List RegisteredAsset) (symbol : String) :
    (ofListing listing).1.resolve symbol =
      (listing.find? (·.symbol == symbol)).map (·.assetId) := by
  rw [ofListing, resolveExtend]
  rfl

theorem unresolvedListing (listing : List RegisteredAsset) (symbol : String) :
    (ofListing listing).1.resolve symbol = none ↔ ∀ a ∈ listing, a.symbol ≠ symbol := by
  rw [resolveFirst, Option.map_eq_none_iff, List.find?_eq_none]
  simp

theorem symbolsListed (listing : List RegisteredAsset) (symbol : String) :
    symbol ∈ (ofListing listing).1.symbols ↔ symbol ∈ listing.map (·.symbol) := by
  have apart := unresolvedListing listing symbol
  rw [unresolvedIff] at apart
  rw [← not_iff_not, apart, List.mem_map, not_exists]
  simp

theorem sizeListing (listing : List RegisteredAsset) :
    (ofListing listing).1.size = (listing.map (·.symbol)).toFinset.card := by
  have empty : ({} : Index).symbols.Nodup := List.nodup_nil
  have distinct : (ofListing listing).1.symbols.Nodup := extendDistinct empty listing
  have same : (ofListing listing).1.symbols.toFinset = (listing.map (·.symbol)).toFinset := by
    ext symbol
    rw [List.mem_toFinset, List.mem_toFinset, symbolsListed]
  rw [← same, List.toFinset_card_of_nodup distinct, symbols, List.length_map, size]

theorem emptyListing (listing : List RegisteredAsset) :
    (ofListing listing).1.isEmpty = true ↔ listing = [] := by
  rw [isEmpty, List.isEmpty_iff_length_eq_zero]
  change (ofListing listing).1.size = 0 ↔ _
  rw [sizeListing, Finset.card_eq_zero, List.toFinset_eq_empty_iff, List.map_eq_nil_iff]

def warningAt (listing : List RegisteredAsset) (place : Nat) : Option Line := do
  let asset ← listing[place]?
  let first ← (listing.take place).find? (·.symbol == asset.symbol)
  return ⟨.warn, "Registry lists symbol '" ++ asset.symbol ++ "' more than once ("
    ++ first.assetId ++ " and " ++ asset.assetId ++ "), keeping " ++ first.assetId, []⟩

def Reads (index : Index) (read : List RegisteredAsset) : Prop :=
  ∀ symbol, index.resolve symbol = (read.find? (·.symbol == symbol)).map (·.assetId)

theorem addReads {index : Index} {read : List RegisteredAsset} (reads : index.Reads read)
    (asset : RegisteredAsset) : (index.add asset).1.Reads (read ++ [asset]) := by
  intro symbol
  rw [resolveAdd, reads symbol, List.find?_append, Option.map_or]
  by_cases same : symbol = asset.symbol
  · simp [same]
  · have distinct : (asset.symbol == symbol) = false := by simpa using Ne.symm same
    simp [same, distinct]

theorem addWarns {index : Index} {read : List RegisteredAsset} (reads : index.Reads read)
    (asset : RegisteredAsset) (rest : List RegisteredAsset) :
    (index.add asset).2 = (warningAt (read ++ asset :: rest) read.length).toList := by
  have found := reads asset.symbol
  unfold add warningAt
  cases first : read.find? (·.symbol == asset.symbol) with
  | none =>
    rw [first] at found
    simp [found, first]
  | some kept =>
    rw [first] at found
    simp [found, first, duplicateLine]

theorem extendWarns {index : Index} {read : List RegisteredAsset} (reads : index.Reads read)
    (rest : List RegisteredAsset) : (index.extend rest).2 =
      (List.range' read.length rest.length).filterMap (warningAt (read ++ rest)) := by
  induction rest generalizing index read with
  | nil => rfl
  | cons asset rest ih =>
    have here := addWarns reads asset rest
    have later := ih (addReads reads asset)
    rw [List.length_append, List.length_singleton, List.append_assoc, List.singleton_append] at later
    change (index.add asset).2 ++ ((index.add asset).1.extend rest).2 = _
    rw [here, later, List.length_cons, List.range'_succ, List.filterMap_cons]
    cases warningAt (read ++ asset :: rest) read.length <;> rfl

/-- The index of a listing is its first-match lookup. -/
theorem listingIndexed (listing : List RegisteredAsset) :
    let index := (ofListing listing).1
    (∀ symbol id, index.resolve symbol = some id ↔ ∃ before asset after,
      listing = before ++ asset :: after ∧ (∀ a ∈ before, a.symbol ≠ symbol) ∧
        asset.symbol = symbol ∧ asset.assetId = id) ∧
    (∀ symbol, index.resolve symbol = none ↔ ∀ a ∈ listing, a.symbol ≠ symbol) ∧
    index.size = (listing.map (·.symbol)).toFinset.card ∧
    (index.isEmpty = true ↔ listing = []) ∧
    (∀ more symbol id, index.resolve symbol = some id →
      (ofListing (listing ++ more)).1.resolve symbol = some id) ∧
    (ofListing listing).2 = (List.range listing.length).filterMap (warningAt listing) := by
  intro index
  refine ⟨fun symbol id => ?_, unresolvedListing listing, sizeListing listing,
    emptyListing listing, fun more symbol id found => ?_, ?_⟩
  · rw [resolveFirst, Option.map_eq_some_iff]
    constructor
    · rintro ⟨asset, found, rfl⟩
      obtain ⟨same, before, after, split, earlier⟩ := List.find?_eq_some_iff_append.mp found
      exact ⟨before, asset, after, split, by simpa using earlier, by simpa using same, rfl⟩
    · rintro ⟨before, asset, after, split, earlier, same, rfl⟩
      exact ⟨asset, List.find?_eq_some_iff_append.mpr
        ⟨by simpa using same, before, after, split, by simpa using earlier⟩, rfl⟩
  · have first : (listing.find? (·.symbol == symbol)).map (·.assetId) = some id :=
      (resolveFirst listing symbol).symm.trans found
    rw [resolveFirst, List.find?_append, Option.map_or, first]
    rfl
  · have empty : ({} : Index).Reads [] := fun _ => rfl
    rw [List.range_eq_range']
    exact extendWarns empty listing

theorem repeatedListing :
    let listing : List RegisteredAsset := [⟨"a-2", "ETH"⟩, ⟨"a-1", "eth"⟩, ⟨"a-1", "ETH"⟩]
    (ofListing listing).1.resolve "ETH" = some "a-2" ∧
    (ofListing (listing ++ [⟨"a-3", "ETH"⟩])).1.resolve "ETH" = some "a-2" ∧
    (ofListing listing).2 = [⟨.warn,
      "Registry lists symbol 'ETH' more than once (a-2 and a-1), keeping a-2", []⟩] := by
  intro listing
  obtain ⟨-, -, -, -, grows, warned⟩ := listingIndexed listing
  have found : (ofListing listing).1.resolve "ETH" = some "a-2" := by decide
  exact ⟨found, grows [⟨"a-3", "ETH"⟩] "ETH" "a-2" found, warned.trans (by decide)⟩

end RegistrySeeding.Index
