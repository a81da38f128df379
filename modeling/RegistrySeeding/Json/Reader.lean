import RegistrySeeding.Json.Numeral

/-! The structural level: lists, objects and whole values. Nesting is bounded by the levels of
the budget, except in values that nobody reads, which may nest at will. Every loop takes a
character or more per round, so the span of the document bounds its rounds. -/
namespace RegistrySeeding.Json

structure Budget where
  levels : Nat
  span : Nat
  deriving DecidableEq, Repr

abbrev Reader (α : Type) := Budget → List Char → Except Stop (α × List Char)

namespace Reader
open Scan (skipGaps)

def nested {α : Type} (inner : Reader α) : Reader α := fun budget cs =>
  match budget.levels with
  | 0 => .error (.before cs .nestedTooDeep)
  | levels + 1 => inner { budget with levels } cs

def nextElement (first : Bool) (cs : List Char) : Except Stop (Option (List Char)) :=
  match skipGaps cs with
  | [] => .error (.before [] .endInList)
  | ']' :: _ => .ok none
  | c :: rest =>
    if first then .ok (some (c :: rest))
    else if c = ',' then
      match skipGaps rest with
      | [] => .error (.before [] .endInValue)
      | ']' :: rest => .error (.before rest .trailingComma)
      | next => .ok (some next)
    else .error (.past (c :: rest) .expectedListCommaOrEnd)

def endList (cs : List Char) : Except Stop (List Char) :=
  match skipGaps cs with
  | [] => .error (.before [] .endInList)
  | ']' :: rest => .ok rest
  | ',' :: rest =>
    match skipGaps rest with
    | ']' :: rest => .error (.before rest .trailingComma)
    | rest => .error (.past rest .trailingCharacters)
  | cs => .error (.past cs .trailingCharacters)

def elements {σ : Type} (step : σ → List Char → Except Stop (σ × List Char)) :
    Nat → Bool → σ → List Char → Except Stop (σ × List Char)
  | 0, _, _, _ => .error (.before [] .endInList)
  | n + 1, first, state, cs => do
    match ← nextElement first cs with
    | none => return (state, ← endList cs)
    | some cs =>
      let (state, cs) ← step state cs
      elements step n false state cs

def nextMember (first : Bool) (cs : List Char) : Except Stop (Option (List Char)) :=
  match skipGaps cs with
  | [] => .error (.before [] .endInObject)
  | '\x7d' :: _ => .ok none
  | c :: rest =>
    if first then if c = '"' then .ok (some rest) else .error (.past (c :: rest) .keyNotString)
    else if c = ',' then
      match skipGaps rest with
      | [] => .error (.before [] .endInValue)
      | '"' :: next => .ok (some next)
      | '\x7d' :: rest => .error (.before rest .trailingComma)
      | rest => .error (.past rest .keyNotString)
    else .error (.past (c :: rest) .expectedObjectCommaOrEnd)

def endObject (cs : List Char) : Except Stop (List Char) :=
  match skipGaps cs with
  | [] => .error (.before [] .endInObject)
  | '\x7d' :: rest => .ok rest
  | ',' :: rest => .error (.before rest .trailingComma)
  | cs => .error (.past cs .trailingCharacters)

def colon (cs : List Char) : Except Stop (List Char) :=
  match skipGaps cs with
  | [] => .error (.before [] .endInObject)
  | ':' :: rest => .ok rest
  | cs => .error (.past cs .expectedColon)

def members {σ : Type} (step : σ → String → List Char → Except Stop (σ × List Char)) :
    Nat → Bool → σ → List Char → Except Stop (σ × List Char)
  | 0, _, _, _ => .error (.before [] .endInObject)
  | n + 1, first, state, cs => do
    match ← nextMember first cs with
    | none => return (state, ← endObject cs)
    | some cs =>
      let (name, cs) ← Scan.string cs
      let (state, cs) ← step state name cs
      members step n false state cs

inductive Scalar where
  | null
  | bool (b : Bool)
  | number (n : Number)
  deriving DecidableEq, Repr

def Scalar.found : Scalar → Found
  | .null => .null
  | .bool b => .bool b
  | .number n => .number n

def Scalar.json : Scalar → Json
  | .null => .null
  | .bool b => .bool b
  | .number n => .number n

def scalar : List Char → Except Stop (Scalar × List Char)
  | [] => .error (.before [] .endInValue)
  | 'n' :: rest => do return (.null, ← Scan.word ['u', 'l', 'l'] rest)
  | 't' :: rest => do return (.bool true, ← Scan.word ['r', 'u', 'e'] rest)
  | 'f' :: rest => do return (.bool false, ← Scan.word ['a', 'l', 's', 'e'] rest)
  | c :: rest =>
    if c = '-' || (Text.digit? c).isSome then do
      let (n, rest) ← Numeral.read (c :: rest)
      return (.number n, rest)
    else .error (.past (c :: rest) .expectedValue)

def found (cs : List Char) : Except Stop (Found × List Char) :=
  -- A scalar or a string is read first, so its own fault is reported before its type; of a list or
  -- an object only the bracket is seen.
  match cs with
  | '[' :: _ => .ok (.sequence, cs)
  | '\x7b' :: _ => .ok (.map, cs)
  | '"' :: rest => do
    let (s, rest) ← Scan.string rest
    return (.string s, rest)
  | cs => do
    let (literal, rest) ← scalar cs
    return (literal.found, rest)

def wrongType {α : Type} (expected : String) (cs : List Char) : Except Stop α := do
  let (found, rest) ← found cs
  .error (.before rest (.wrongType found expected))

/-- A value of any shape. Members come out in key order, and of equal names the last one stays. -/
def valueAt (span : Nat) : Nat → List Char → Except Stop (Json × List Char)
  | levels, cs =>
    match skipGaps cs with
    | '"' :: rest => do
      let (s, rest) ← Scan.string rest
      return (.string s, rest)
    | '[' :: rest =>
      match levels with
      | 0 => .error (.before rest .nestedTooDeep)
      | levels + 1 => do
        let step items cs := do
          let (item, cs) ← valueAt span levels cs
          return (item :: items, cs)
        let (items, rest) ← elements step span true [] rest
        return (.array items.reverse, rest)
    | '\x7b' :: rest =>
      match levels with
      | 0 => .error (.before rest .nestedTooDeep)
      | levels + 1 => do
        let step found name cs := do
          let cs ← colon cs
          let (item, cs) ← valueAt span levels cs
          return (insertSorted name item found, cs)
        let (found, rest) ← members step span true [] rest
        return (.object found, rest)
    | cs => do
      let (literal, rest) ← scalar cs
      return (literal.json, rest)

def value : Reader Json := fun budget cs => valueAt budget.span budget.levels cs

def objectMembers : Reader (List (String × Json)) := fun budget cs =>
  match skipGaps cs with
  | [] => .error (.before [] .endInValue)
  | '\x7b' :: rest =>
    nested (fun budget rest =>
      members (fun found name cs => do
        let cs ← colon cs
        let (item, cs) ← value budget cs
        return (insertSorted name item found, cs)) budget.span true [] rest) budget rest
  | cs => wrongType "a map" cs

end Reader

def depthLimit : Nat := 127

def Reader.whole {α : Type} (reader : Reader α) (cs : List Char) : Except Stop α := do
  let (x, rest) ← reader ⟨depthLimit, cs.length + 1⟩ cs
  match Scan.skipGaps rest with
  | [] => return x
  | _ :: _ => .error (.past (Scan.skipGaps rest) .trailingCharacters)

def Reader.document {α : Type} (reader : Reader α) (text : String) : Except Fault α :=
  (reader.whole text.toList).mapError (Stop.fault text.toList)

@[simp] theorem okMapError {ε ε' α : Type} (f : ε → ε') (a : α) :
    (Except.ok a).mapError f = .ok a := rfl

theorem mapErrorOk {ε ε' α : Type} {f : ε → ε'} {x : Except ε α} {a : α} :
    x.mapError f = .ok a ↔ x = .ok a := by
  cases x with
  | ok x => rw [okMapError, Except.ok.injEq, Except.ok.injEq]
  | error e => exact ⟨nofun, nofun⟩

theorem toOptionMapError {ε ε' α : Type} (f : ε → ε') (x : Except ε α) :
    (x.mapError f).toOption = x.toOption := by
  cases x <;> rfl

theorem Reader.documentOk {α : Type} {reader : Reader α} {text : String} {x : α} :
    reader.document text = .ok x ↔ reader.whole text.toList = .ok x := mapErrorOk

theorem Reader.documentToOption {α : Type} (reader : Reader α) (text : String) :
    (reader.document text).toOption = (reader.whole text.toList).toOption :=
  toOptionMapError _ _

end RegistrySeeding.Json
