import RegistrySeeding.Json.Reader

/-! Values that nobody reads. The open brackets are held in a list, so nesting costs no depth;
the shape is checked as strictly as for a value that is read, number range and surrogates apart. -/
namespace RegistrySeeding.Json.Skip
open Scan (skipGaps)

inductive Bracket where
  | list
  | object
  deriving DecidableEq, Repr

inductive Expect where
  | value
  | first
  | next
  | member
  deriving DecidableEq, Repr

def literal (cs : List Char) : Except Stop (List Char) :=
  match cs with
  | '"' :: rest => Scan.skipString .plain rest
  | 'n' :: rest => Scan.word ['u', 'l', 'l'] rest
  | 't' :: rest => Scan.word ['r', 'u', 'e'] rest
  | 'f' :: rest => Scan.word ['a', 'l', 's', 'e'] rest
  | '-' :: rest => Numeral.skip rest
  | c :: rest =>
    if (Text.digit? c).isSome then Numeral.skip (c :: rest)
    else .error (.past (c :: rest) .expectedValue)
  | [] => .error (.before [] .endInValue)

def Bracket.ended : Bracket → Cause
  | .list => .endInList
  | .object => .endInObject

def Bracket.unseparated : Bracket → Cause
  | .list => .expectedListCommaOrEnd
  | .object => .expectedObjectCommaOrEnd

def Bracket.close : Bracket → Char
  | .list => ']'
  | .object => '\x7d'

def Bracket.entry : Bracket → Expect
  | .list => .value
  | .object => .member

def run : Nat → Expect → List Bracket → List Char → Except Stop (List Char)
  | 0, _, _, _ => .error (.before [] .endInValue)
  | n + 1, expect, brackets, cs =>
    match expect, brackets, skipGaps cs with
    | .value, brackets, '[' :: rest => run n .first (.list :: brackets) rest
    | .value, brackets, '\x7b' :: rest => run n .first (.object :: brackets) rest
    | .value, brackets, cs => do
      let rest ← literal cs
      run n .next brackets rest
    | .member, _, [] => .error (.before [] .endInObject)
    | .member, brackets, c :: rest =>
      if c = '"' then do
        let rest ← Scan.skipString .plain rest
        let rest ← Reader.colon rest
        run n .value brackets rest
      else .error (.past (c :: rest) .keyNotString)
    | _, [], _ => .ok cs
    | _, bracket :: _, [] => .error (.before [] bracket.ended)
    | .first, bracket :: outer, c :: rest =>
      if c = bracket.close then run n .next outer rest
      else run n bracket.entry (bracket :: outer) (c :: rest)
    | .next, bracket :: outer, c :: rest =>
      if c = ',' then run n bracket.entry (bracket :: outer) rest
      else if c = bracket.close then run n .next outer rest
      else .error (.past (c :: rest) bracket.unseparated)

def value : Reader Unit := fun budget cs => do
  -- Two rounds may pass without taking a character.
  let rest ← run (2 * budget.span + 2) .value [] cs
  return ((), rest)

end RegistrySeeding.Json.Skip
