import RegistrySeeding.Json.Scan

/-! Numbers. Digits are gathered into a 64-bit significand and a power of ten; a fraction, an
exponent or a significand that does not fit makes the number a binary64 value, rounded once for
the significand and once for the scaling. -/
namespace RegistrySeeding.Json.Numeral
open Text (digit?)

def significandLimit : Nat := UInt64.size - 1

def exponentLimit : Nat := UInt32.size / 2 - 1

def powerOfTen (n : Nat) : Float := Float.ofScientific 1 false n

def shrink : Nat → Float → Float
  | 0, x => x
  | n + 1, x => if x == 0 then x else shrink n (x / powerOfTen 308)

def scale (x : Float) (exponent : Int) : Except Cause Float :=
  let size := exponent.natAbs
  if 0 ≤ exponent then
    if x == 0 then .ok x
    else if 308 < size then .error .numberOutOfRange
    else
      let y := x * powerOfTen size
      if y.isInf then .error .numberOutOfRange else .ok y
  else
    let steps := (size - 1) / 308
    .ok (shrink steps x / powerOfTen (size - 308 * steps))

def signed (negative : Bool) (x : Float) : Float := if negative then -x else x

def decimal (negative : Bool) (significand : Nat) (exponent : Int) : Except Cause Number :=
  match scale (Float.ofNat significand) exponent with
  | .ok x => .ok (.float (signed negative x))
  | .error cause => .error cause

def skipDigits (cs : List Char) : List Char := cs.dropWhile fun c => (digit? c).isSome

def gather (limit : Nat) : Nat → Nat → List Char → Nat × Nat × List Char
  | significand, count, [] => (significand, count, [])
  | significand, count, c :: rest =>
    match digit? c with
    | none => (significand, count, c :: rest)
    | some d =>
      if significand * 10 + d ≤ limit then gather limit (significand * 10 + d) (count + 1) rest
      else (significand, count, c :: rest)

def countDigits : Nat → List Char → Nat × List Char
  | n, [] => (n, [])
  | n, c :: rest => if (digit? c).isSome then countDigits (n + 1) rest else (n, c :: rest)

def startsWithDigit : List Char → Bool
  | c :: _ => (digit? c).isSome
  | [] => false

def exponent (negative : Bool) (significand : Nat) (before : Int) (cs : List Char) :
    Except Stop (Number × List Char) :=
  let (down, cs) := match cs with
    | '+' :: rest => (false, rest)
    | '-' :: rest => (true, rest)
    | _ => (false, cs)
  match cs with
  | [] => .error (.before [] .endInValue)
  | c :: _ =>
    if (digit? c).isNone then .error (.past cs .invalidNumber)
    else
      let (power, _, rest) := gather exponentLimit 0 0 cs
      if startsWithDigit rest then
        if significand ≠ 0 ∧ ¬down then .error (.past rest .numberOutOfRange)
        else .ok (.float (signed negative 0), skipDigits rest)
      else
        match decimal negative significand (if down then before - power else before + power) with
        | .ok n => .ok (n, rest)
        | .error cause => .error (.before rest cause)

def afterDigits (negative : Bool) (significand : Nat) (before : Int) :
    List Char → Except Stop (Number × List Char)
  | 'e' :: rest => exponent negative significand before rest
  | 'E' :: rest => exponent negative significand before rest
  | cs =>
    match decimal negative significand before with
    | .ok n => .ok (n, cs)
    | .error cause => .error (.before cs cause)

def fraction (negative : Bool) (significand : Nat) (before : Int) (cs : List Char) :
    Except Stop (Number × List Char) :=
  let (gathered, count, rest) := gather significandLimit significand 0 cs
  if startsWithDigit rest then afterDigits negative gathered (before - count) (skipDigits rest)
  else if count = 0 then
    match rest with
    | [] => .error (.before [] .endInValue)
    | _ :: _ => .error (.past rest .invalidNumber)
  else afterDigits negative gathered (before - count) rest

def integer (negative : Bool) (significand : Nat) : Number :=
  -- Beyond the range, and for a negative zero, the nearest binary64 value.
  if ¬negative then .int significand
  else if 0 < significand ∧ significand ≤ UInt64.size / 2 then .int (-significand)
  else .float (-(Float.ofNat significand))

def tail (negative : Bool) (significand : Nat) (dropped : Nat) :
    List Char → Except Stop (Number × List Char)
  | '.' :: rest => fraction negative significand dropped rest
  | 'e' :: rest => exponent negative significand dropped rest
  | 'E' :: rest => exponent negative significand dropped rest
  | cs =>
    if dropped = 0 then .ok (integer negative significand, cs)
    else afterDigits negative significand dropped cs

def unsigned (negative : Bool) : List Char → Except Stop (Number × List Char)
  | [] => .error (.before [] .endInValue)
  | c :: rest =>
    if c = '0' then
      if startsWithDigit rest then .error (.past rest .invalidNumber) else tail negative 0 0 rest
    else if (digit? c).isNone then .error (.past (c :: rest) .invalidNumber)
    else
      let (significand, _, rest) := gather significandLimit 0 0 (c :: rest)
      let (dropped, rest) := countDigits 0 rest
      tail negative significand dropped rest

def read : List Char → Except Stop (Number × List Char)
  | '-' :: rest => unsigned true rest
  | cs => unsigned false cs

def skipExponent (cs : List Char) : Except Stop (List Char) :=
  let cs := match cs with
    | '+' :: rest => rest
    | '-' :: rest => rest
    | _ => cs
  if startsWithDigit cs then .ok (skipDigits cs) else .error (.past cs .invalidNumber)

def skipTail : List Char → Except Stop (List Char)
  | '.' :: rest =>
    if startsWithDigit rest then
      match skipDigits rest with
      | 'e' :: rest => skipExponent rest
      | 'E' :: rest => skipExponent rest
      | rest => .ok rest
    else .error (.past rest .invalidNumber)
  | 'e' :: rest => skipExponent rest
  | 'E' :: rest => skipExponent rest
  | cs => .ok cs

def skip : List Char → Except Stop (List Char)
  | [] => .error (.before [] .invalidNumber)
  | c :: rest =>
    if c = '0' then
      if startsWithDigit rest then .error (.past rest .invalidNumber) else skipTail rest
    else if (digit? c).isSome then skipTail (skipDigits rest)
    else .error (.past (c :: rest) .invalidNumber)

end RegistrySeeding.Json.Numeral
