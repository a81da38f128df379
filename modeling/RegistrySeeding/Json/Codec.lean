import RegistrySeeding.Json.Skip
import RegistrySeeding.Json.Writer

/-! A type's reading and writing side by side. Readers of single values stand here; records and
choices build on them. -/
namespace RegistrySeeding.Json

structure Codec (α : Type) where
  read : Reader α
  write : α → Json

namespace Codec
open Scan (skipGaps)

def decode {α : Type} (codec : Codec α) (text : String) : Except Fault α :=
  Reader.document codec.read text

def encode {α : Type} (codec : Codec α) (x : α) : String := (codec.write x).text

def readString (expected : String) (cs : List Char) : Except Stop (String × List Char) :=
  match skipGaps cs with
  | [] => .error (.before [] .endInValue)
  | '"' :: rest => Scan.string rest
  | cs => Reader.wrongType expected cs

def string : Codec String where
  read _ cs := readString "a string" cs
  write := .string

def readBool (cs : List Char) : Except Stop (Bool × List Char) :=
  match skipGaps cs with
  | [] => .error (.before [] .endInValue)
  | 't' :: rest => do return (true, ← Scan.word ['r', 'u', 'e'] rest)
  | 'f' :: rest => do return (false, ← Scan.word ['a', 'l', 's', 'e'] rest)
  | cs => Reader.wrongType "a boolean" cs

def bool : Codec Bool where
  read _ cs := readBool cs
  write := .bool

def natural (limit : Nat) (expected : String) (n : Number) : Except Cause Nat :=
  match n with
  | .int n =>
    if 0 ≤ n ∧ n ≤ limit then .ok n.toNat else .error (.wrongValue (.number (.int n)) expected)
  | .float x => .error (.wrongType (.number (.float x)) expected)

def readNatural (limit : Nat) (expected : String) (cs : List Char) :
    Except Stop (Nat × List Char) :=
  match skipGaps cs with
  | [] => .error (.before [] .endInValue)
  | c :: rest =>
    if c = '-' || (Text.digit? c).isSome then do
      let (n, rest) ← Numeral.read (c :: rest)
      return (← (natural limit expected n).mapError (.before rest), rest)
    else Reader.wrongType expected (c :: rest)

def uint32 : Codec UInt32 where
  read _ cs := do
    let (n, rest) ← readNatural (UInt32.size - 1) "u32" cs
    return (UInt32.ofNat n, rest)
  write n := .number (.int n.toNat)

def uint64 : Codec UInt64 where
  read _ cs := do
    let (n, rest) ← readNatural (UInt64.size - 1) "usize" cs
    return (UInt64.ofNat n, rest)
  write n := .number (.int n.toNat)

def option {α : Type} (codec : Codec α) : Codec (Option α) where
  read budget cs :=
    match skipGaps cs with
    | 'n' :: rest => do return (none, ← Scan.word ['u', 'l', 'l'] rest)
    | cs => do
      let (x, rest) ← codec.read budget cs
      return (some x, rest)
  write
    | none => .null
    | some x => codec.write x

def readList {α : Type} (one : Reader α) : Reader (List α) := fun budget cs =>
  match skipGaps cs with
  | [] => .error (.before [] .endInValue)
  | '[' :: rest =>
    Reader.nested (fun budget rest => do
      let step items cs := do
        let (item, cs) ← one budget cs
        return (item :: items, cs)
      let (items, rest) ← Reader.elements step budget.span true [] rest
      return (items.reverse, rest)) budget rest
  | cs => Reader.wrongType "a sequence" cs

def list {α : Type} (codec : Codec α) : Codec (List α) where
  read := readList codec.read
  write items := .array (items.map codec.write)

def object : Codec (List (String × Json)) where
  read := Reader.objectMembers
  write := .object

end Codec
end RegistrySeeding.Json
