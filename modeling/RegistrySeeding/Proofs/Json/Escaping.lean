import RegistrySeeding.Json.Scan
import RegistrySeeding.Json.Writer

/-! Strings in every spelling. A character stands for itself, if it may, or behind one of its
escapes; whichever it is, the character is what is read, and a skip ends where the reading does.
What is written is one of the spellings. -/
namespace RegistrySeeding.Json.Scan
open Text (hexDigit?)
open Writer (escapedChar)

inductive Hex : List Char → Nat → Prop where
  | four {a b c d : Char} {w x y z : Nat} (first : hexDigit? a = some w)
      (second : hexDigit? b = some x) (third : hexDigit? c = some y)
      (fourth : hexDigit? d = some z) :
      Hex [a, b, c, d] (((w * 16 + x) * 16 + y) * 16 + z)

inductive Piece (c : Char) : List Char → Prop where
  | itself (quote : c ≠ '"') (slash : c ≠ '\\') (above : ¬c.toNat < 0x20) : Piece c [c]
  | short (letter : Char) (stands : escaped? letter = some c) : Piece c ['\\', letter]
  | unit {digits : List Char} {n : Nat} (hex : Hex digits n) (plain : ¬(0xD800 ≤ n ∧ n ≤ 0xDFFF))
      (same : c = Char.ofNat n) : Piece c ('\\' :: 'u' :: digits)
  | pair {digits digits' : List Char} {lead trail : Nat} (high : Hex digits lead)
      (low : Hex digits' trail) (leads : 0xD800 ≤ lead ∧ lead ≤ 0xDBFF)
      (trails : 0xDC00 ≤ trail ∧ trail ≤ 0xDFFF)
      (same : c = Char.ofNat ((lead - 0xD800) * 0x400 + (trail - 0xDC00) + 0x10000)) :
      Piece c ('\\' :: 'u' :: (digits ++ '\\' :: 'u' :: digits'))

inductive Quoted : List Char → List Char → Prop where
  | close : Quoted [] ['"']
  | char {c : Char} {s piece text : List Char} (one : Piece c piece) (more : Quoted s text) :
      Quoted (c :: s) (piece ++ text)

theorem Quoted.plain {s : List Char}
    (plain : s.all fun c => c ≠ '"' ∧ c ≠ '\\' ∧ ¬c.toNat < 0x20) : Quoted s (s ++ ['"']) := by
  induction s with
  | nil => exact .close
  | cons c s ih =>
    rw [List.all_cons, Bool.and_eq_true, decide_eq_true_eq] at plain
    obtain ⟨⟨quote, slash, above⟩, plain⟩ := plain
    have whole : Quoted (c :: s) ([c] ++ (s ++ ['"'])) :=
      .char (.itself quote slash above) (ih plain)
    exact whole

theorem fourWritten (a b c d : Char) (rest : List Char) :
    fourBytes (a :: b :: c :: d :: rest) = true := by
  have one := Text.Utf8.sizePos
  have sizes := And.intro (And.intro (one a) (one b)) (And.intro (one c) (one d))
  unfold fourBytes
  apply decide_eq_true
  simp only [Text.Utf8.length, List.take_succ_cons, List.take_zero, List.foldl_cons, List.foldl_nil]
  omega

theorem hexFour {digits : List Char} {n : Nat} (hex : Hex digits n) (rest : List Char) :
    fourBytes (digits ++ rest) = true := by
  cases hex
  exact fourWritten _ _ _ _ rest

theorem charactersHex {digits : List Char} {n : Nat} (hex : Hex digits n) {high : Option Nat}
    (out rest : List Char) :
    (∀ e, unit high n = .ok (.inl e) →
      characters (.hex 4 0 high) out (digits ++ rest) = characters .plain (e :: out) rest) ∧
    ∀ lead, unit high n = .ok (.inr lead) →
      characters (.hex 4 0 high) out (digits ++ rest) =
        characters (.partnerEscape lead) out rest := by
  cases hex with
  | four first second third fourth =>
    constructor <;> intro _ came <;> simp [characters, first, second, third, fourth, came]

theorem skipHex {digits : List Char} {n : Nat} (hex : Hex digits n) (value : Nat)
    (high : Option Nat) (rest : List Char) :
    skipString (.hex 4 value high) (digits ++ rest) = skipString .plain rest := by
  cases hex with
  | four first second third fourth =>
    simp [skipString, first, second, third, fourth]

theorem unitPlain {n : Nat} (plain : ¬(0xD800 ≤ n ∧ n ≤ 0xDFFF)) :
    unit none n = .ok (.inl (Char.ofNat n)) := by
  unfold unit
  rw [if_neg (by omega), if_neg (by omega)]

theorem unitLead {n : Nat} (leads : 0xD800 ≤ n ∧ n ≤ 0xDBFF) : unit none n = .ok (.inr n) := by
  unfold unit
  rw [if_neg (by omega), if_pos leads]

theorem unitTrail {n : Nat} (lead : Nat) (trails : 0xDC00 ≤ n ∧ n ≤ 0xDFFF) :
    unit (some lead) n =
      .ok (.inl (Char.ofNat ((lead - 0xD800) * 0x400 + (n - 0xDC00) + 0x10000))) := by
  unfold unit
  simp only [if_pos trails]

theorem charactersPiece {c : Char} {piece : List Char} (one : Piece c piece)
    (out rest : List Char) :
    characters .plain out (piece ++ rest) = characters .plain (c :: out) rest := by
  cases one with
  | itself quote slash above => simp [characters, quote, slash, above]
  | short letter stands => simp [characters, stands]
  | unit hex plain same =>
    have read := (charactersHex hex out rest).1 _ (unitPlain plain)
    simp [characters, escaped?, hexFour hex, read, same]
  | @pair digits digits' lead trail high low leads trails same =>
    have first := (charactersHex high out ('\\' :: 'u' :: (digits' ++ rest))).2 _ (unitLead leads)
    have second := (charactersHex low out rest).1 _ (unitTrail lead trails)
    simp [characters, escaped?, hexFour high, hexFour low, first, second, same]

theorem skipPiece {c : Char} {piece : List Char} (one : Piece c piece) (rest : List Char) :
    skipString .plain (piece ++ rest) = skipString .plain rest := by
  cases one with
  | itself quote slash above => simp [skipString, quote, slash, above]
  | short letter stands => simp [skipString, stands]
  | unit hex plain same => simp [skipString, escaped?, hexFour hex, skipHex hex]
  | pair high low leads trails same =>
    simp [skipString, escaped?, hexFour high, skipHex high, hexFour low, skipHex low]

theorem charactersQuoted {s text : List Char} (quoted : Quoted s text) (out rest : List Char) :
    characters .plain out (text ++ rest) = .ok (out.reverse ++ s, rest) := by
  induction quoted generalizing out with
  | close => simp [characters]
  | char one more ih => rw [List.append_assoc, charactersPiece one, ih]; simp

theorem stringQuoted {s : String} {text : List Char} (quoted : Quoted s.toList text)
    (rest : List Char) : string (text ++ rest) = .ok (s, rest) := by
  simp [string, charactersQuoted quoted]

theorem skipQuoted {s text : List Char} (quoted : Quoted s text) (rest : List Char) :
    skipString .plain (text ++ rest) = .ok rest := by
  induction quoted with
  | close => simp [skipString]
  | char one more ih => rw [List.append_assoc, skipPiece one, ih]

theorem hexDigitWritten : ∀ d, d < 16 → hexDigit? (Nat.digitChar d) = some d := by decide

theorem writtenPiece (c : Char) : Piece c (escapedChar c) := by
  unfold escapedChar
  split
  · rename_i same; exact .short '"' (by rw [same]; rfl)
  split
  · rename_i same; exact .short '\\' (by rw [same]; rfl)
  split
  · rename_i same; exact .short 'b' (by rw [same]; rfl)
  split
  · rename_i same; exact .short 'f' (by rw [same]; rfl)
  split
  · rename_i same; exact .short 'n' (by rw [same]; rfl)
  split
  · rename_i same; exact .short 'r' (by rw [same]; rfl)
  split
  · rename_i same; exact .short 't' (by rw [same]; rfl)
  split
  · have zero := hexDigitWritten 0 (by omega)
    have high := hexDigitWritten (c.toNat / 16) (by omega)
    have low := hexDigitWritten (c.toNat % 16) (by omega)
    have unit := Hex.four zero zero high low
    rw [show ((0 * 16 + 0) * 16 + c.toNat / 16) * 16 + c.toNat % 16 = c.toNat by omega] at unit
    exact .unit unit (by omega) (Char.ofNat_toNat c).symm
  · rename_i quote slash _ _ _ _ _ above; exact .itself quote slash above

theorem writtenQuoted (s : List Char) : Quoted s (s.flatMap escapedChar ++ ['"']) := by
  induction s with
  | nil => exact .close
  | cons c s ih =>
    rw [List.flatMap_cons, List.append_assoc]
    exact .char (writtenPiece c) ih

theorem quoteSpelled (s : String) :
    ∃ text, Writer.quote s = '"' :: text ∧ Quoted s.toList text :=
  ⟨_, rfl, writtenQuoted s.toList⟩

end RegistrySeeding.Json.Scan
