import RegistrySeeding.Text.Blank
import RegistrySeeding.Time.Instant

/-! Reading dates with a time and an offset. The form is relaxed: numbers may be shorter than
written by others, blanks may stand before them and around the separators, and the year may
carry a sign. -/
namespace RegistrySeeding.Time

inductive Fault where
  | invalid
  | outOfRange
  | tooShort
  | tooLong
  | impossible
  deriving DecidableEq, Repr

def Fault.message : Fault → String
  | .invalid => "input contains invalid characters"
  | .outOfRange => "input is out of range"
  | .tooShort => "premature end of input"
  | .tooLong => "trailing input"
  | .impossible => "no possible date and time matching input"

namespace Reader
open Text (dropBlankStart)

def isDigit (c : Char) : Bool := '0' ≤ c && c ≤ '9'

def valueOf (digits : List Char) : Nat :=
  digits.foldl (fun n c => n * 10 + (c.toNat - '0'.toNat)) 0

def number (most : Nat) (cs : List Char) : Except Fault (Nat × List Char) :=
  match cs with
  | [] => .error .tooShort
  | c :: _ =>
    if isDigit c then
      let digits := (cs.take most).takeWhile isDigit
      .ok (valueOf digits, cs.drop digits.length)
    else .error .invalid

def within (low high n : Nat) : Except Fault Nat :=
  if low ≤ n ∧ n ≤ high then .ok n else .error .outOfRange

def bounded (low high : Nat) (cs : List Char) : Except Fault (Nat × List Char) := do
  let (n, cs) ← number 2 (dropBlankStart cs)
  return (← within low high n, cs)

def year (cs : List Char) : Except Fault (Int × List Char) := do
  let (n, cs) ← match dropBlankStart cs with
    | '-' :: rest => do
      let (n, rest) ← number rest.length rest
      pure (-(n : Int), rest)
    | '+' :: rest => do
      let (n, rest) ← number rest.length rest
      pure ((n : Int), rest)
    | cs => do
      let (n, rest) ← number 4 cs
      pure ((n : Int), rest)
  if -0x80000000 ≤ n ∧ n < 0x80000000 then return (n, cs) else .error .outOfRange

def separator (mark : Char) (cs : List Char) : Except Fault (List Char) :=
  match dropBlankStart cs with
  | [] => .error .tooShort
  | c :: rest => if c = mark then .ok rest else .error .invalid

def date (cs : List Char) : Except Fault (Date × List Char) := do
  let (y, cs) ← year cs
  let cs ← separator '-' cs
  let (m, cs) ← bounded 1 12 cs
  let cs ← separator '-' cs
  let (d, cs) ← bounded 1 31 cs
  return (⟨y, m, d⟩, cs)

def divider : List Char → Except Fault (List Char)
  | [] => .error .tooShort
  | c :: rest => if c = 't' ∨ c = 'T' ∨ c = ' ' then .ok rest else .error .invalid

def fraction : List Char → Except Fault (Nat × List Char)
  | '.' :: rest => do
    let (n, after) ← number 9 rest
    let count := rest.length - after.length
    return (n * Nat.pow 10 (9 - count), after.dropWhile isDigit)
  | cs => .ok (0, cs)

def clock (cs : List Char) : Except Fault ((Nat × Nat) × List Char) := do
  -- A sixtieth second counts as a fraction of the one before.
  let (h, cs) ← bounded 0 23 cs
  let cs ← separator ':' cs
  let (m, cs) ← bounded 0 59 cs
  let cs ← separator ':' cs
  let (s, cs) ← bounded 0 60 cs
  let (nano, cs) ← fraction cs
  let leap := s / 60
  return ((h * 3600 + m * 60 + (s - leap), nano + leap * 1000000000), dropBlankStart cs)

def pair : List Char → Except Fault ((Char × Char) × List Char)
  | [] => .error .tooShort
  | [c] => if c.toNat < 0x80 then .error .tooShort else .error .invalid
  | a :: b :: rest => .ok ((a, b), rest)

def offsetSize (cs : List Char) : Except Fault (Nat × List Char) := do
  let ((a, b), cs) ← pair cs
  if ¬(isDigit a ∧ isDigit b) then .error .invalid
  else
    let hours := valueOf [a, b]
    let ((c, d), cs) ← pair (cs.dropWhile fun c => c = ':' || Text.isBlank c)
    if ¬(isDigit c ∧ isDigit d) then .error .invalid
    else if '6' ≤ c then .error .outOfRange
    else return (hours * 3600 + valueOf [c, d] * 60, cs)

def offset (cs : List Char) : Except Fault (Int × List Char) :=
  match cs with
  | [] => .error .tooShort
  | c :: rest =>
    if c = 'Z' ∨ c = 'z' then .ok (0, rest)
    else if (cs.take 3).map Char.toUpper = ['U', 'T', 'C'] then .ok (0, cs.drop 3)
    else if c = '+' then do
      let (n, rest) ← offsetSize rest
      return ((n : Int), rest)
    else if c = '-' ∨ c = '\u2212' then do
      let (n, rest) ← offsetSize rest
      return (-(n : Int), rest)
    else .error .invalid

def instant (cs : List Char) : Except Fault Instant := do
  let (day, cs) ← date cs
  let cs ← divider cs
  let ((second, nano), cs) ← clock cs
  let (east, cs) ← offset cs
  if dropBlankStart cs ≠ [] then .error .tooLong
  else if ¬day.valid then .error .outOfRange
  else if daySeconds ≤ east.natAbs then .error .outOfRange
  else
    let t := Instant.ofLocal ⟨day, second, nano⟩ east
    if t.date.valid then return t else .error .impossible

end Reader

def Instant.ofText (s : String) : Except Fault Instant := Reader.instant s.toList

end RegistrySeeding.Time
