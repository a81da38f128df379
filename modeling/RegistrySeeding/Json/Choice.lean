import RegistrySeeding.Json.Codec

/-! One of a few names. The name stands alone, or as the only member of an object whose value is
null. -/
namespace RegistrySeeding.Json

structure Choice (α : Type) where
  name : α → String
  all : List α

namespace Choice
open Scan (skipGaps)

def ofName? {α : Type} (choice : Choice α) (s : String) : Option α :=
  choice.all.find? fun x => choice.name x == s

theorem ofNameName {α : Type} {choice : Choice α} (apart : (choice.all.map choice.name).Nodup)
    {x : α} (listed : x ∈ choice.all) : choice.ofName? (choice.name x) = some x := by
  obtain ⟨name, all⟩ := choice
  simp only [ofName?] at *
  induction all with
  | nil => contradiction
  | cons head rest ih =>
    obtain ⟨fresh, apart⟩ := List.nodup_cons.mp apart
    rcases List.mem_cons.mp listed with rfl | later
    · simp
    · have other : name head ≠ name x := fun same =>
        fresh (same ▸ List.mem_map_of_mem later)
      simp [other, ih apart later]

def readName {α : Type} (choice : Choice α) (cs : List Char) : Except Stop (α × List Char) := do
  let (s, rest) ← Codec.readString "variant identifier" cs
  match choice.ofName? s with
  | some x => return (x, rest)
  | none => .error (.before rest (.unknownVariant s (choice.all.map choice.name)))

def readNull (cs : List Char) : Except Stop (List Char) :=
  match skipGaps cs with
  | [] => .error (.before [] .endInValue)
  | 'n' :: rest => Scan.word ['u', 'l', 'l'] rest
  | cs => Reader.wrongType "unit" cs

def read {α : Type} (choice : Choice α) : Reader α := fun budget cs =>
  match skipGaps cs with
  | [] => .error (.before [] .endInValue)
  | '"' :: rest => choice.readName ('"' :: rest)
  | '\x7b' :: rest =>
    Reader.nested (fun _ rest => do
      let (x, rest) ← choice.readName rest
      let rest ← Reader.colon rest
      let rest ← readNull rest
      match skipGaps rest with
      | [] => .error (.before [] .endInObject)
      | '\x7d' :: rest => return (x, rest)
      | rest => .error (.before rest .expectedValue)) budget rest
  | cs => .error (.past cs .expectedValue)

def codec {α : Type} (choice : Choice α) : Codec α where
  read := choice.read
  write x := .string (choice.name x)

end Choice
end RegistrySeeding.Json
