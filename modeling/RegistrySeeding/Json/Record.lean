import RegistrySeeding.Json.Codec

/-! Records with named fields. An object gives the fields by name in any order, each at most
once, and may hold members nobody knows; a list gives them in declaration order. Which fields
were seen is held field by field, so what is missing is reported in declaration order at the end. -/
namespace RegistrySeeding.Json

structure Field (α : Type) where
  name : String
  aliases : List String := []
  codec : Codec α
  absent : Option α := none
  absentLast : Option α := none
  leftOut : α → Bool := fun _ => false

namespace Field

def withDefault {α : Type} (name : String) (codec : Codec α) (default : α) : Field α :=
  { name, codec, absent := some default, absentLast := some default }

def optional {α : Type} (name : String) (codec : Codec α) : Field (Option α) :=
  { withDefault name codec.option none with leftOut := Option.isNone }

def nullable {α : Type} (name : String) (codec : Codec α) : Field (Option α) :=
  { name, codec := codec.option, absent := some none }

end Field

inductive Fields : Type → Type 1
  | nil : Fields Unit
  | cons {α β : Type} (field : Field α) (rest : Fields β) : Fields (α × β)

namespace Fields
open Scan (skipGaps)

@[reducible]
def Slots : {τ : Type} → Fields τ → Type
  | _, .nil => Unit
  | _, @Fields.cons α _ _ rest => Option α × rest.Slots

def count : {τ : Type} → Fields τ → Nat
  | _, .nil => 0
  | _, .cons _ rest => rest.count + 1

def unread : {τ : Type} → (fields : Fields τ) → fields.Slots
  | _, .nil => ()
  | _, .cons _ rest => (none, rest.unread)

def knows {α : Type} (field : Field α) (name : String) : Bool :=
  name == field.name || field.aliases.contains name

def closed (cs : List Char) : List Char :=
  match skipGaps cs with
  | '\x7d' :: rest => rest
  | cs => cs

def readMember : {τ : Type} → (fields : Fields τ) → fields.Slots → String →
    Budget → List Char → Except Stop (fields.Slots × List Char)
  | _, .nil, _, _, budget, cs => do
    let cs ← Reader.colon cs
    let ((), cs) ← Skip.value budget cs
    return ((), cs)
  | _, .cons field rest, slots, name, budget, cs =>
    let (slot, slots) : Option _ × rest.Slots := slots
    if knows field name then
      -- A repeated name is refused before its value is read.
      match slot with
      | some _ => .error (.before (closed cs) (.duplicateField field.name))
      | none => do
        let cs ← Reader.colon cs
        let (x, cs) ← field.codec.read budget cs
        return ((some x, slots), cs)
    else do
      let (slots, cs) ← rest.readMember slots name budget cs
      return ((slot, slots), cs)

def complete : {τ : Type} → (fields : Fields τ) → fields.Slots → Except Cause τ
  | _, .nil, _ => .ok ()
  | _, .cons field rest, slots =>
    match slots.1.or field.absent with
    | none => .error (.missingField field.name)
    | some x => do return (x, ← rest.complete slots.2)

def readInOrder (expected : String) : {τ : Type} → Fields τ → Nat → Budget → List Char →
    Except Stop (τ × List Char)
  | _, .nil, _, _, cs => .ok ((), cs)
  | _, .cons field rest, index, budget, cs => do
    match ← Reader.nextElement (index == 0) cs with
    | some cs =>
      let (x, cs) ← field.codec.read budget cs
      let (xs, cs) ← rest.readInOrder expected (index + 1) budget cs
      return ((x, xs), cs)
    | none =>
      match field.absentLast with
      | none => .error (.past (skipGaps cs) (.wrongLength index expected))
      | some x =>
        let (xs, cs) ← rest.readInOrder expected (index + 1) budget cs
        return ((x, xs), cs)

def write : {τ : Type} → Fields τ → τ → List (String × Json)
  | _, .nil, _ => []
  | _, .cons field rest, (x, xs) =>
    if field.leftOut x then rest.write xs else (field.name, field.codec.write x) :: rest.write xs

end Fields

structure Record (ρ : Type) : Type 1 where
  title : String
  {τ : Type}
  fields : Fields τ
  make : τ → ρ
  parts : ρ → τ

namespace Record
open Scan (skipGaps)

def expected {ρ : Type} (record : Record ρ) : String := "struct " ++ record.title

def expectedLength {ρ : Type} (record : Record ρ) : String :=
  let n := record.fields.count
  record.expected ++ " with " ++ toString n ++ (if n = 1 then " element" else " elements")

def readObject {ρ : Type} (record : Record ρ) : Reader ρ := fun budget cs => do
  let (slots, rest) ← Reader.members
    (fun slots name cs => record.fields.readMember slots name budget cs)
    budget.span true record.fields.unread cs
  return (record.make (← (record.fields.complete slots).mapError (.before rest)), rest)

def readList {ρ : Type} (record : Record ρ) : Reader ρ := fun budget cs => do
  let (parts, rest) ← record.fields.readInOrder record.expectedLength 0 budget cs
  return (record.make parts, ← Reader.endList rest)

def read {ρ : Type} (record : Record ρ) : Reader ρ := fun budget cs =>
  match skipGaps cs with
  | [] => .error (.before [] .endInValue)
  | '[' :: rest => Reader.nested record.readList budget rest
  | '\x7b' :: rest => Reader.nested record.readObject budget rest
  | cs => Reader.wrongType record.expected cs

def codec {ρ : Type} (record : Record ρ) : Codec ρ where
  read := record.read
  write x := .object (record.fields.write (record.parts x))

end Record
end RegistrySeeding.Json
