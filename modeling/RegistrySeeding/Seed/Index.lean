import RegistrySeeding.Log
import RegistrySeeding.Registry.Answer

/-! Registered assets by symbol. The first identifier listed for a symbol is kept; every later
one is named in a warning. -/
namespace RegistrySeeding

structure Index where
  entries : List (String × String) := []
  deriving DecidableEq, Repr

namespace Index

def resolve (index : Index) (symbol : String) : Option String := index.entries.lookup symbol

def size (index : Index) : Nat := index.entries.length

def isEmpty (index : Index) : Bool := index.entries.isEmpty

def duplicateLine (symbol kept ignored : String) : Line :=
  ⟨.warn, "Registry lists symbol '" ++ symbol ++ "' more than once (" ++ kept ++ " and " ++ ignored
    ++ "), keeping " ++ kept, []⟩

def add (index : Index) (asset : RegisteredAsset) : Index × List Line :=
  match index.resolve asset.symbol with
  | some kept => (index, [duplicateLine asset.symbol kept asset.assetId])
  | none => (⟨index.entries ++ [(asset.symbol, asset.assetId)]⟩, [])

theorem resolveAdd (index : Index) (asset : RegisteredAsset) (symbol : String) :
    (index.add asset).1.resolve symbol =
      (index.resolve symbol).or (if symbol = asset.symbol then some asset.assetId else none) := by
  unfold add
  split
  · rename_i kept found
    by_cases same : symbol = asset.symbol
    · simp [same, found]
    · simp [same]
  · by_cases same : symbol = asset.symbol
    · simp [resolve, List.lookup_append, same]
    · have distinct : (symbol == asset.symbol) = false := by simpa using same
      simp [resolve, List.lookup_append, List.lookup_cons, distinct, same]

def extend (index : Index) : List RegisteredAsset → Index × List Line
  | [] => (index, [])
  | asset :: rest =>
    let (index, warning) := index.add asset
    let (index, warnings) := index.extend rest
    (index, warning ++ warnings)

theorem resolveExtend (index : Index) (listing : List RegisteredAsset) (symbol : String) :
    (index.extend listing).1.resolve symbol =
      (index.resolve symbol).or ((listing.find? (·.symbol == symbol)).map (·.assetId)) := by
  induction listing generalizing index with
  | nil => simp [extend]
  | cons asset rest ih =>
    simp only [extend, ih, resolveAdd, Option.or_assoc, List.find?_cons]
    by_cases same : symbol = asset.symbol
    · simp [same]
    · have distinct : (asset.symbol == symbol) = false := by simpa using Ne.symm same
      simp [same, distinct]

def ofListing (listing : List RegisteredAsset) : Index × List Line := extend {} listing

end Index

def assetNotFound : String := "asset not found by symbol"

end RegistrySeeding
