import RegistrySeeding.Json.Fault
import RegistrySeeding.Text.Digit
import RegistrySeeding.Text.Utf8

/-! The lexical level: blanks, words and strings. Each scan takes the characters still to come
and gives back what is left. A string that is kept has its surrogate escapes paired; a string
that is skipped only has their digits checked. -/
namespace RegistrySeeding.Json.Scan
open Text (hexDigit?)

def isGap (c : Char) : Bool := c = ' ' || c = '\n' || c = '\t' || c = '\r'

def skipGaps (cs : List Char) : List Char := cs.dropWhile isGap

def word : List Char → List Char → Except Stop (List Char)
  | [], cs => .ok cs
  | _ :: _, [] => .error (.before [] .endInValue)
  | w :: ws, c :: cs => if c = w then word ws cs else .error (.past (c :: cs) .expectedWord)

def escaped? : Char → Option Char
  | '"' => some '"'
  | '\\' => some '\\'
  | '/' => some '/'
  | 'b' => some '\x08'
  | 'f' => some '\x0c'
  | 'n' => some '\n'
  | 'r' => some '\r'
  | 't' => some '\t'
  | _ => none

def fourBytes (cs : List Char) : Bool := 4 ≤ Text.Utf8.length (cs.take 4)

/-- Where the scan stands inside a string. `high` is a leading surrogate that waits for its
partner. -/
inductive Place where
  | plain
  | escape
  | hex (left value : Nat) (high : Option Nat)
  | partnerEscape (high : Nat)
  | partnerLetter (high : Nat)
  deriving DecidableEq, Repr

def unit (high : Option Nat) (value : Nat) : Except Cause (Char ⊕ Nat) :=
  match high with
  | none =>
    if 0xDC00 ≤ value ∧ value ≤ 0xDFFF then .error .loneSurrogate
    else if 0xD800 ≤ value ∧ value ≤ 0xDBFF then .ok (.inr value)
    else .ok (.inl (Char.ofNat value))
  | some lead =>
    if 0xDC00 ≤ value ∧ value ≤ 0xDFFF then
      .ok (.inl (Char.ofNat ((lead - 0xD800) * 0x400 + (value - 0xDC00) + 0x10000)))
    else .error .loneSurrogate

def characters : Place → List Char → List Char → Except Stop (List Char × List Char)
  | _, _, [] => .error (.before [] .endInString)
  | .plain, out, c :: rest =>
    if c = '"' then .ok (out.reverse, rest)
    else if c = '\\' then characters .escape out rest
    else if c.toNat < 0x20 then .error (.past (c :: rest) .controlCharacter)
    else characters .plain (c :: out) rest
  | .escape, out, c :: rest =>
    match escaped? c with
    | some e => characters .plain (e :: out) rest
    | none =>
      if c = 'u' then
        if fourBytes rest then characters (.hex 4 0 none) out rest
        else .error (.before [] .endInString)
      else .error (.past (c :: rest) .invalidEscape)
  | .hex left value high, out, c :: rest =>
    match hexDigit? c with
    | none => .error (.into left (c :: rest) .invalidEscape)
    | some d =>
      if 1 < left then characters (.hex (left - 1) (value * 16 + d) high) out rest
      else
        match unit high (value * 16 + d) with
        | .error cause => .error (.before rest cause)
        | .ok (.inl e) => characters .plain (e :: out) rest
        | .ok (.inr lead) => characters (.partnerEscape lead) out rest
  | .partnerEscape lead, out, c :: rest =>
    if c = '\\' then characters (.partnerLetter lead) out rest
    else .error (.past (c :: rest) .endOfHexEscape)
  | .partnerLetter lead, out, c :: rest =>
    if c = 'u' then
      if fourBytes rest then characters (.hex 4 0 (some lead)) out rest
      else .error (.before [] .endInString)
    else .error (.past (c :: rest) .endOfHexEscape)

def string (cs : List Char) : Except Stop (String × List Char) :=
  match characters .plain [] cs with
  | .ok (text, rest) => .ok (String.ofList text, rest)
  | .error stop => .error stop

def skipString : Place → List Char → Except Stop (List Char)
  | _, [] => .error (.before [] .endInString)
  | .plain, c :: rest =>
    if c = '"' then .ok rest
    else if c = '\\' then skipString .escape rest
    else if c.toNat < 0x20 then .error (.before (c :: rest) .controlCharacter)
    else skipString .plain rest
  | .hex left value high, c :: rest =>
    match hexDigit? c with
    | none => .error (.into left (c :: rest) .invalidEscape)
    | some _ =>
      if 1 < left then skipString (.hex (left - 1) value high) rest else skipString .plain rest
  | _, c :: rest =>
    if (escaped? c).isSome then skipString .plain rest
    else if c = 'u' then
      if fourBytes rest then skipString (.hex 4 0 none) rest
      else .error (.before [] .endInString)
    else .error (.past (c :: rest) .invalidEscape)

end RegistrySeeding.Json.Scan
