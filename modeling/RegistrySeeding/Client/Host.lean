import RegistrySeeding.Client.Label
import RegistrySeeding.Client.Percent

/-! Hosts of addresses: a number in one of its dotted forms, a bracketed one of eight groups, or a
name in its ASCII form. -/
namespace RegistrySeeding.Host
open Text (numeral? pieces)

def part : List Char → Option Nat
  | [] => none
  | '0' :: 'x' :: rest => numeral? 16 rest
  | '0' :: 'X' :: rest => numeral? 16 rest
  | '0' :: c :: rest => numeral? 8 (c :: rest)
  | cs => numeral? 10 cs

def parts (cs : List Char) : List (List Char) :=
  let all := pieces '.' cs
  if 1 < all.length ∧ all.getLast? = some [] then all.dropLast else all

def endsInNumber (cs : List Char) : Bool :=
  match (parts cs).getLast? with
  | none => false
  | some last =>
    (!last.isEmpty && last.all fun c => (Text.digit? c).isSome)
      || match last with
        | '0' :: x :: rest =>
          (x = 'x' || x = 'X') && rest.all fun c => (Text.hexDigit? c).isSome
        | _ => false

def number? (cs : List Char) : Option Nat := do
  let values ← (parts cs).mapM part
  let last ← values.getLast?
  let front := values.dropLast
  if 3 < front.length ∨ front.any (255 < ·) ∨ Nat.pow 256 (4 - front.length) ≤ last then none
  else some (last + ((List.range front.length).zip front).foldl
    (fun n (i, v) => n + v * Nat.pow 256 (3 - i)) 0)

def numberText (n : Nat) : String :=
  String.intercalate "." ((List.range 4).map fun i => toString (n / Nat.pow 256 (3 - i) % 256))

def group? (cs : List Char) : Option Nat :=
  if cs.isEmpty ∨ 4 < cs.length then none else numeral? 16 cs

def dotted? (cs : List Char) : Option Nat := do
  let values ← (pieces '.' cs).mapM fun p =>
    if p.isEmpty ∨ (1 < p.length ∧ p.head? = some '0') then none else numeral? 10 p
  if values.length = 4 ∧ values.all (· < 256) then some (values.foldl (fun n v => n * 256 + v) 0)
  else none

def groups? (last : Bool) : List (List Char) → Option (List Nat)
  | [] => some []
  | [p] =>
    if last && p.contains '.' then do
      let n ← dotted? p
      some [n / 65536, n % 65536]
    else do some [← group? p]
  | p :: rest => do some ((← group? p) :: (← groups? last rest))

def side? (last : Bool) (cs : List Char) : Option (List Nat) :=
  if cs.isEmpty then some [] else groups? last (pieces ':' cs)

def splitGap : List Char → Option (List Char × List Char)
  | ':' :: ':' :: rest => some ([], rest)
  | c :: rest => do
    let (before, after) ← splitGap rest
    some (c :: before, after)
  | [] => none

def eight? (cs : List Char) : Option (List Nat) :=
  match splitGap cs with
  | none => do
    let gs ← side? true cs
    if gs.length = 8 then some gs else none
  | some (before, after) => do
    let left ← side? false before
    let right ← side? true after
    let used := left.length + right.length
    if used < 8 then some (left ++ List.replicate (8 - used) 0 ++ right) else none

def zeros (gs : List Nat) : Nat := (gs.takeWhile (· = 0)).length

def gap (gs : List Nat) : Nat × Nat :=
  (List.range gs.length).foldl (fun (start, size) i =>
    let n := zeros (gs.drop i)
    if size < n ∧ 2 ≤ n then (i, n) else (start, size)) (0, 0)

def groupsText (gs : List Nat) : String :=
  String.intercalate ":" (gs.map fun g => String.ofList (Nat.toDigits 16 g))

def eightText (gs : List Nat) : String :=
  let (start, size) := gap gs
  if size = 0 then "[" ++ groupsText gs ++ "]"
  else "[" ++ groupsText (gs.take start) ++ "::" ++ groupsText (gs.drop (start + size)) ++ "]"

def forbidden (c : Char) : Bool :=
  c.toNat ≤ 0x20 || 0x7F ≤ c.toNat || "#%/:<>?@[\\]^|".toList.contains c

def parse (cs : List Char) : Option String :=
  match cs with
  | '[' :: rest =>
    if rest.getLast? = some ']' then (eight? rest.dropLast).map eightText else none
  | cs => do
    let name ← Label.ofName? (← Percent.decodeText? cs).toList
    if name.isEmpty ∨ name.any forbidden then none
    else if endsInNumber name then (number? name).map numberText
    else some (String.ofList name)

end RegistrySeeding.Host
