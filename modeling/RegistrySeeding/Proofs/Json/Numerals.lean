import RegistrySeeding.Json.Numeral
import RegistrySeeding.Json.Fault

/-! Written numbers. A whole number within the 64-bit range is read back as it was; the text of any
number, a binary64 value's included, is one that a skip passes over. -/
namespace RegistrySeeding.Json

theorem Number.naturalText (n : Nat) : Number.text (.int n) = Nat.toDigits 10 n := by
  change (toString n).toList = _
  simp

theorem Number.negativeText (n : Nat) :
    Number.text (.int (.negSucc n)) = '-' :: Nat.toDigits 10 (n + 1) := by
  change ("-" ++ Nat.repr (n + 1)).toList = _
  simp [Nat.repr_eq_ofList_toDigits]

namespace Numeral
open Text (digit?)

def Digits (ds : List Char) : Prop := ∀ c ∈ ds, (digit? c).isSome

instance (ds : List Char) : Decidable (Digits ds) :=
  List.decidableBAll _ ds

def Stops (rest : List Char) : Prop :=
  ∀ c, rest.head? = some c → digit? c = none ∧ c ≠ '.' ∧ c ≠ 'e' ∧ c ≠ 'E'

theorem digitOfIsDigit {c : Char} (digit : c.isDigit = true) : digit? c = some (c.toNat - '0'.toNat) := by
  have bounds : '0' ≤ c ∧ c ≤ '9' := by
    simp only [Char.isDigit, Bool.and_eq_true, decide_eq_true_eq] at digit
    exact digit
  rw [digit?, if_pos bounds]

theorem writtenDigits (n : Nat) : Digits (Nat.toDigits 10 n) := by
  intro c inside
  rw [digitOfIsDigit (Nat.isDigit_of_mem_toDigits (by omega) (by omega) inside)]
  rfl

theorem writtenHead {n : Nat} (pos : 0 < n) :
    ∃ d ds, Nat.toDigits 10 n = d :: ds ∧ d ≠ '0' := by
  induction n using Nat.strongRecOn with
  | ind n ih =>
    by_cases small : n < 10
    · refine ⟨n.digitChar, [], Nat.toDigits_of_lt_base small, ?_⟩
      simp
      omega
    · obtain ⟨d, ds, head, other⟩ := ih (n / 10) (by omega) (by omega)
      refine ⟨d, ds ++ [(n % 10).digitChar], ?_, other⟩
      rw [Nat.toDigits_of_base_le (by omega) (by omega), head]
      rfl

theorem stopsPlain {rest : List Char} (stops : Stops rest) : startsWithDigit rest = false := by
  cases rest with
  | nil => rfl
  | cons c rest => simp [startsWithDigit, (stops c rfl).1]

theorem skipDigitsPast {ds rest : List Char} (digits : Digits ds)
    (stops : startsWithDigit rest = false) : skipDigits (ds ++ rest) = rest := by
  rw [skipDigits, List.dropWhile_append_of_pos digits]
  cases rest with
  | nil => rfl
  | cons c rest => rw [List.dropWhile_cons_of_neg (by simpa [startsWithDigit] using stops)]

theorem gatherPast {limit : Nat} (ds : List Char) {rest : List Char} (value count : Nat)
    (digits : ∀ c ∈ ds, c.isDigit = true) (within : Nat.ofDigitChars 10 ds value ≤ limit)
    (stops : startsWithDigit rest = false) :
    gather limit value count (ds ++ rest) = (Nat.ofDigitChars 10 ds value, count + ds.length, rest) := by
  induction ds generalizing value count with
  | nil =>
    cases rest with
    | nil => simp [gather]
    | cons c rest =>
      have other : digit? c = none := by simpa [startsWithDigit] using stops
      simp [gather, other]
  | cons c ds ih =>
    have head := digitOfIsDigit (digits c List.mem_cons_self)
    have small : value * 10 + (c.toNat - '0'.toNat) ≤ limit := by
      rw [Nat.ofDigitChars_cons, Nat.ofDigitChars_eq_ofDigitChars_zero] at within
      have grown := Nat.one_le_pow ds.length 10 (by omega)
      have scaled := Nat.le_mul_of_pos_left (10 * value + (c.toNat - '0'.toNat)) grown
      omega
    rw [Nat.ofDigitChars_cons, Nat.mul_comm] at within ⊢
    rw [List.cons_append, gather, head]
    simp only [small, if_true]
    rw [ih _ _ (fun x inside => digits x (List.mem_cons_of_mem c inside)) within]
    simp [Nat.add_assoc, Nat.add_comm 1]

theorem tailWritten (negative : Bool) (n : Nat) {rest : List Char} (stops : Stops rest) :
    tail negative n 0 rest = .ok (integer negative n, rest) := by
  cases rest with
  | nil => rfl
  | cons c rest =>
    obtain ⟨_, dot, small, large⟩ := stops c rfl
    simp [tail, dot, small, large]

inductive Whole : List Char → Prop where
  | zero : Whole ['0']
  | leading {d : Char} {ds : List Char} (other : d ≠ '0') (digits : Digits (d :: ds)) :
      Whole (d :: ds)

inductive Fraction : List Char → Prop where
  | none : Fraction []
  | point {ds : List Char} (some : ds ≠ []) (digits : Digits ds) : Fraction ('.' :: ds)

inductive Exponent : List Char → Prop where
  | none : Exponent []
  | marked {letter : Char} {sign ds : List Char} (mark : letter = 'e' ∨ letter = 'E')
      (sort : sign = [] ∨ sign = ['+'] ∨ sign = ['-']) (some : ds ≠ []) (digits : Digits ds) :
      Exponent (letter :: (sign ++ ds))

inductive Spelled : List Char → Prop where
  | parts {sign whole fraction exponent : List Char} (sort : sign = [] ∨ sign = ['-'])
      (front : Whole whole) (middle : Fraction fraction) (back : Exponent exponent) :
      Spelled (sign ++ (whole ++ (fraction ++ exponent)))

theorem digitNot {c : Char} (digit : (digit? c).isSome) (d : Char)
    (other : digit? d = none) : c ≠ d := by
  rintro rfl
  simp [other] at digit

theorem digitsStart {ds : List Char} (some : ds ≠ []) (digits : Digits ds) (rest : List Char) :
    startsWithDigit (ds ++ rest) = true := by
  cases ds with
  | nil => contradiction
  | cons d ds => exact digits d List.mem_cons_self

theorem wholeHead {whole : List Char} (front : Whole whole) :
    ∃ d ds, whole = d :: ds ∧ (digit? d).isSome := by
  cases front with
  | zero => exact ⟨'0', [], rfl, rfl⟩
  | leading other digits => exact ⟨_, _, rfl, digits _ List.mem_cons_self⟩

theorem exponentPlain {text rest : List Char} (form : Exponent text) (stops : Stops rest) :
    startsWithDigit (text ++ rest) = false := by
  cases form with
  | none => exact stopsPlain stops
  | marked mark sort some digits => rcases mark with rfl | rfl <;> rfl

theorem fractionPlain {fraction exponent rest : List Char} (middle : Fraction fraction)
    (back : Exponent exponent) (stops : Stops rest) :
    startsWithDigit (fraction ++ exponent ++ rest) = false := by
  cases middle with
  | none => exact exponentPlain back stops
  | point some digits => rfl

theorem skipExponentPast {text rest : List Char} (form : Exponent text) (stops : Stops rest) :
    skipTail (text ++ rest) = .ok rest := by
  cases form with
  | none =>
    cases rest with
    | nil => rfl
    | cons c rest =>
      obtain ⟨-, dot, small, large⟩ := stops c rfl
      simp [skipTail, dot, small, large]
  | @marked letter sign ds mark sort some digits =>
    have starts := digitsStart some digits rest
    have past := skipDigitsPast digits (stopsPlain stops)
    have signed : skipExponent (sign ++ ds ++ rest) = .ok rest := by
      cases ds with
      | nil => contradiction
      | cons d ds =>
        have own := digits d List.mem_cons_self
        rcases sort with rfl | rfl | rfl
        · simp only [List.nil_append, List.cons_append] at starts past ⊢
          simp [skipExponent, digitNot own '+' rfl, digitNot own '-' rfl, starts, past]
        · simp only [List.cons_append, List.nil_append] at starts past ⊢
          simp [skipExponent, starts, past]
        · simp only [List.cons_append, List.nil_append] at starts past ⊢
          simp [skipExponent, starts, past]
    rcases mark with rfl | rfl <;> exact signed

theorem skipTailPast {fraction exponent rest : List Char} (middle : Fraction fraction)
    (back : Exponent exponent) (stops : Stops rest) :
    skipTail (fraction ++ exponent ++ rest) = .ok rest := by
  cases middle with
  | none => exact skipExponentPast back stops
  | @point ds some digits =>
    have starts := digitsStart some digits (exponent ++ rest)
    have past := skipDigitsPast digits (exponentPlain back stops)
    have ends := skipExponentPast back stops
    rw [List.cons_append, List.cons_append, List.append_assoc, skipTail, if_pos starts, past]
    cases back with
    | none =>
      cases rest with
      | nil => rfl
      | cons c rest =>
        obtain ⟨-, -, small, large⟩ := stops c rfl
        simp [small, large]
    | marked mark sort some digits => rcases mark with rfl | rfl <;> exact ends

theorem skipSpelled {whole fraction exponent rest : List Char} (front : Whole whole)
    (middle : Fraction fraction) (back : Exponent exponent) (stops : Stops rest) :
    skip (whole ++ (fraction ++ exponent) ++ rest) = .ok rest := by
  have plain := fractionPlain middle back stops
  have ends := skipTailPast middle back stops
  rw [List.append_assoc] at plain ends ⊢
  rw [List.append_assoc]
  cases front with
  | zero => simp [skip, plain, ends]
  | @leading d ds other digits =>
    obtain ⟨own, digits⟩ := List.forall_mem_cons.mp digits
    have past := skipDigitsPast digits plain
    simp [skip, other, own, past, ends]

theorem wholeWritten (n : Nat) : Whole (Nat.toDigits 10 n) := by
  by_cases zero : n = 0
  · subst zero
    exact .zero
  · obtain ⟨d, ds, head, other⟩ := writtenHead (Nat.pos_of_ne_zero zero)
    have digits := writtenDigits n
    rw [head] at digits ⊢
    exact .leading other digits

theorem digitIff {c : Char} : (digit? c).isSome ↔ c.isDigit = true := by
  refine ⟨fun digit => ?_, fun digit => by rw [digitOfIsDigit digit]; rfl⟩
  unfold digit? at digit
  split at digit
  · rename_i bounds
    simp only [Char.isDigit, Bool.and_eq_true, decide_eq_true_eq]
    exact bounds
  · cases digit

theorem wholeDigits {whole : List Char} (front : Whole whole) :
    ∀ c ∈ whole, c.isDigit = true := by
  cases front with
  | zero => exact List.forall_mem_singleton.mpr rfl
  | leading other digits => exact fun c inside => digitIff.mp (digits c inside)

theorem readUnsigned {whole : List Char} (front : Whole whole) (rest : List Char) :
    read (whole ++ rest) = unsigned false (whole ++ rest) := by
  obtain ⟨d, ds, rfl, digit⟩ := wholeHead front
  simp [read, digitNot digit '-' rfl]

theorem wholeCount (negative : Bool) {whole rest : List Char} (front : Whole whole)
    (within : Nat.ofDigitChars 10 whole 0 ≤ significandLimit) (stops : Stops rest) :
    unsigned negative (whole ++ rest) =
      .ok (integer negative (Nat.ofDigitChars 10 whole 0), rest) := by
  have plain := stopsPlain stops
  have tailed := tailWritten negative (Nat.ofDigitChars 10 whole 0) stops
  cases front with
  | zero =>
    rw [List.cons_append, List.nil_append, unsigned, if_pos rfl, plain]
    exact tailed
  | @leading d ds other digits =>
    have gathered := gatherPast (d :: ds) 0 0 (wholeDigits (.leading other digits)) within plain
    have none : countDigits 0 rest = (0, rest) := by
      cases rest with
      | nil => rfl
      | cons c rest => simp [countDigits, (stops c rfl).1]
    have own : (digit? d).isNone = false := by simpa using digits d List.mem_cons_self
    rw [List.cons_append] at gathered
    rw [List.cons_append, unsigned]
    simp only [if_neg other, own, gathered, none]
    exact tailed

theorem unsignedWritten (negative : Bool) {n : Nat} {rest : List Char}
    (within : n ≤ significandLimit) (stops : Stops rest) :
    unsigned negative (Nat.toDigits 10 n ++ rest) = .ok (integer negative n, rest) := by
  have fits : Nat.ofDigitChars 10 (Nat.toDigits 10 n) 0 ≤ significandLimit := by
    rwa [Nat.ofDigitChars_ten_toDigits]
  rw [wholeCount negative (wholeWritten n) fits stops, Nat.ofDigitChars_ten_toDigits]

theorem naturalWritten {n : Nat} {rest : List Char} (within : n ≤ significandLimit)
    (stops : Stops rest) : read (Nat.toDigits 10 n ++ rest) = .ok (.int n, rest) := by
  rw [readUnsigned (wholeWritten n), unsignedWritten false within stops]
  rfl

theorem naturalForm (n : Nat) : Spelled (Nat.toDigits 10 n) := by
  simpa using Spelled.parts (.inl rfl) (wholeWritten n) .none .none

theorem negativeForm (n : Nat) : Spelled ('-' :: Nat.toDigits 10 n) := by
  simpa using Spelled.parts (.inr rfl) (wholeWritten n) .none .none

theorem Spelled.opens {literal : List Char} (spelled : Spelled literal) :
    ∃ c cs, literal = c :: cs ∧ (c = '-' ∨ (digit? c).isSome) := by
  obtain ⟨sort, front, middle, back⟩ := spelled
  obtain ⟨d, ds, rfl, digit⟩ := wholeHead front
  rcases sort with rfl | rfl
  · exact ⟨d, _, rfl, .inr digit⟩
  · exact ⟨'-', _, rfl, .inl rfl⟩

theorem headNot {c : Char} (sort : c = '-' ∨ (digit? c).isSome) (d : Char)
    (mark : '-' ≠ d) (other : digit? d = none) : c ≠ d := by
  rcases sort with rfl | digit
  · exact mark
  · exact digitNot digit d other

def Fits : Number → Prop
  | .int n => -(UInt64.size / 2 : Int) ≤ n ∧ n ≤ significandLimit
  | .float _ => True

theorem gatherWithin {limit significand : Nat} (count : Nat) (cs : List Char)
    (within : significand ≤ limit) : (gather limit significand count cs).1 ≤ limit := by
  induction cs generalizing significand count with
  | nil => exact within
  | cons c rest ih =>
    unfold gather
    split
    · exact within
    · split
      · rename_i small
        exact ih (count + 1) small
      · exact within

theorem decimalFits {negative : Bool} {significand : Nat} {exponent : Int} {n : Number}
    (read : decimal negative significand exponent = .ok n) : Fits n := by
  unfold decimal at read
  split at read
  · cases read
    trivial
  · cases read

theorem exponentFits {negative : Bool} {significand : Nat} {before : Int} {cs rest : List Char}
    {n : Number} (read : exponent negative significand before cs = .ok (n, rest)) : Fits n := by
  unfold exponent at read
  dsimp only at read
  repeat' split at read
  all_goals first
    | cases read; done
    | rename_i scaled; cases read; exact decimalFits scaled
    | cases read; trivial

theorem afterDigitsFits {negative : Bool} {significand : Nat} {before : Int} {cs rest : List Char}
    {n : Number} (read : afterDigits negative significand before cs = .ok (n, rest)) : Fits n := by
  unfold afterDigits at read
  split at read
  · exact exponentFits read
  · exact exponentFits read
  · split at read
    · rename_i scaled
      cases read
      exact decimalFits scaled
    · cases read

theorem fractionFits {negative : Bool} {significand : Nat} {before : Int} {cs rest : List Char}
    {n : Number} (read : fraction negative significand before cs = .ok (n, rest)) : Fits n := by
  unfold fraction at read
  dsimp only at read
  split at read
  · exact afterDigitsFits read
  · split at read
    · split at read <;> cases read
    · exact afterDigitsFits read

theorem integerFits (negative : Bool) {significand : Nat} (within : significand ≤ significandLimit) :
    Fits (integer negative significand) := by
  unfold integer
  split
  · exact ⟨by omega, by omega⟩
  · split
    · rename_i small
      exact ⟨by simp only [UInt64.size] at small ⊢; omega, by omega⟩
    · trivial

theorem tailFits {negative : Bool} {significand dropped : Nat} {cs rest : List Char} {n : Number}
    (within : significand ≤ significandLimit)
    (read : tail negative significand dropped cs = .ok (n, rest)) : Fits n := by
  unfold tail at read
  split at read
  · exact fractionFits read
  · exact exponentFits read
  · exact exponentFits read
  · split at read
    · cases read
      exact integerFits negative within
    · exact afterDigitsFits read

theorem unsignedFits {negative : Bool} {cs rest : List Char} {n : Number}
    (read : unsigned negative cs = .ok (n, rest)) : Fits n := by
  unfold unsigned at read
  split at read
  · cases read
  · split at read
    · split at read
      · cases read
      · exact tailFits (Nat.zero_le _) read
    · split at read
      · cases read
      · rename_i c rest _ _
        exact tailFits (gatherWithin 0 (c :: rest) (Nat.zero_le _)) read

theorem readFits {cs rest : List Char} {n : Number} (read : Numeral.read cs = .ok (n, rest)) :
    Fits n := by
  unfold Numeral.read at read
  split at read <;> exact unsignedFits read

theorem intWritten {n : Int} (fits : Fits (.int n)) {rest : List Char} (stops : Stops rest) :
    read (Number.text (.int n) ++ rest) = .ok (.int n, rest) := by
  cases n with
  | ofNat n =>
    have within : n ≤ significandLimit := Int.ofNat_le.mp fits.2
    exact Number.naturalText n ▸ naturalWritten within stops
  | negSucc n =>
    have low : n + 1 ≤ UInt64.size / 2 := by
      have := fits.1
      omega
    have whole := unsignedWritten true (Nat.le_trans low (by decide)) stops
    have negated : integer true (n + 1) = .int (.negSucc n) := by
      rw [integer, if_neg (by decide), if_pos ⟨Nat.succ_pos n, low⟩]
      rfl
    rw [Number.negativeText, List.cons_append, read, whole, negated]

end Numeral
end RegistrySeeding.Json
