import RegistrySeeding.Proofs.Json.Numerals

/-! Numbers in every spelling. What a number comes to does not depend on what follows it, and only
bare digits come to a whole number that is not below zero. -/
namespace RegistrySeeding.Json.Numeral
open Text (digit?)

def Certain (read : List Char → Except Stop (Number × List Char)) (text : List Char) : Prop :=
  ∃ v : Except Cause Number, (∀ cause, v = .error cause → cause = .numberOutOfRange) ∧
    ∀ rest, Stops rest → (read (text ++ rest)).mapError Stop.cause = v.map (·, rest)

theorem stopsEnd : Stops [] :=
  nofun

theorem okRange (n : Number) (cause : Cause) :
    Except.ok n = .error cause → cause = .numberOutOfRange :=
  nofun

theorem decimalRange {negative : Bool} {significand : Nat} {power : Int} {cause : Cause}
    (failed : decimal negative significand power = .error cause) : cause = .numberOutOfRange := by
  unfold decimal scale at failed
  dsimp only at failed
  repeat' split at failed
  all_goals first
    | cases failed; done
    | rename_i scaled; cases failed; repeat' split at scaled
  all_goals first
    | cases scaled; rfl
    | cases scaled

theorem digitIs {c : Char} {x : Nat} (digit : digit? c = some x) : x = c.toNat - '0'.toNat := by
  unfold digit? at digit
  split at digit
  · exact (Option.some.inj digit).symm
  · cases digit

theorem gatherThen {ds : List Char} (digits : Digits ds) (limit significand count : Nat) :
    ∃ value more left, Digits left ∧
      (left = [] → more = count + ds.length ∧ value = Nat.ofDigitChars 10 ds significand) ∧
      ∀ tail, startsWithDigit tail = false →
        gather limit significand count (ds ++ tail) = (value, more, left ++ tail) := by
  induction ds generalizing significand count with
  | nil =>
    refine ⟨significand, count, [], List.forall_mem_nil _, fun _ => ⟨rfl, by simp⟩,
      fun tail plain => ?_⟩
    cases tail with
    | nil => rfl
    | cons c tail =>
      have other : digit? c = none := by simpa [startsWithDigit] using plain
      simp [gather, other]
  | cons d ds ih =>
    obtain ⟨own, digits⟩ := List.forall_mem_cons.mp digits
    obtain ⟨x, digit⟩ := Option.isSome_iff_exists.mp own
    by_cases fits : significand * 10 + x ≤ limit
    · obtain ⟨value, more, left, others, counted, gathered⟩ :=
        ih digits (significand * 10 + x) (count + 1)
      refine ⟨value, more, left, others, fun none => ?_, fun tail plain => ?_⟩
      · obtain ⟨length, same⟩ := counted none
        rw [length, same, Nat.ofDigitChars_cons, digitIs digit, List.length_cons, Nat.mul_comm]
        exact ⟨by omega, rfl⟩
      · rw [List.cons_append, gather, digit]
        simp only [if_pos fits, gathered tail plain]
    · refine ⟨significand, count, d :: ds, List.forall_mem_cons.mpr ⟨own, digits⟩,
        fun none => absurd none (List.cons_ne_nil d ds), fun tail _ => ?_⟩
      rw [List.cons_append, gather, digit]
      simp only [if_neg fits]

def exponentPast (negative down : Bool) (significand : Nat) (before : Int) :
    List Char → Except Stop (Number × List Char)
  | [] => .error (.before [] .endInValue)
  | c :: cs =>
    if (digit? c).isNone then .error (.past (c :: cs) .invalidNumber)
    else
      let (power, _, rest) := gather exponentLimit 0 0 (c :: cs)
      if startsWithDigit rest then
        if significand ≠ 0 ∧ ¬down then .error (.past rest .numberOutOfRange)
        else .ok (.float (signed negative 0), skipDigits rest)
      else
        match decimal negative significand (if down then before - power else before + power) with
        | .ok n => .ok (n, rest)
        | .error cause => .error (.before rest cause)

theorem exponentSigned {sign ds : List Char} (sort : sign = [] ∨ sign = ['+'] ∨ sign = ['-'])
    (some : ds ≠ []) (digits : Digits ds) (negative : Bool) (significand : Nat) (before : Int) :
    ∃ down, ∀ rest, exponent negative significand before (sign ++ ds ++ rest) =
      exponentPast negative down significand before (ds ++ rest) := by
  cases ds with
  | nil => contradiction
  | cons d ds =>
    rcases sort with rfl | rfl | rfl
    · have own := digits d List.mem_cons_self
      have plus := digitNot own '+' rfl
      have minus := digitNot own '-' rfl
      -- The match on the sign is split by hand: a digit is in neither of its first cases.
      refine ⟨false, fun rest => ?_⟩
      unfold exponent
      split
      rename_i down cs sign
      split at sign
      · rename_i same
        exact absurd (List.cons.inj same).1 plus
      · rename_i same
        exact absurd (List.cons.inj same).1 minus
      · cases sign
        rfl
    · exact ⟨false, fun _ => rfl⟩
    · exact ⟨true, fun _ => rfl⟩

theorem exponentCertain {sign ds : List Char} (sort : sign = [] ∨ sign = ['+'] ∨ sign = ['-'])
    (some : ds ≠ []) (digits : Digits ds) (negative : Bool) (significand : Nat) (before : Int) :
    Certain (exponent negative significand before) (sign ++ ds) := by
  obtain ⟨down, past⟩ := exponentSigned sort some digits negative significand before
  obtain ⟨power, more, left, others, -, gathered⟩ := gatherThen digits exponentLimit 0 0
  cases ds with
  | nil => contradiction
  | cons d ds =>
    have own : (digit? d).isNone = false := by simpa using digits d List.mem_cons_self
    cases left with
    | nil =>
      refine ⟨decimal negative significand (if down then before - power else before + power),
        fun _ => decimalRange, fun rest stops => ?_⟩
      have plain := stopsPlain stops
      have read := gathered rest plain
      rw [List.cons_append, List.nil_append] at read
      rw [past, List.cons_append, exponentPast]
      simp only [own, read, plain]
      cases decimal negative significand _ <;> rfl
    | cons e left =>
      -- The power does not fit its word, so only its sign counts.
      have starts (rest : List Char) : startsWithDigit (e :: left ++ rest) = true :=
        others e List.mem_cons_self
      have read (rest : List Char) (stops : Stops rest) :
          exponent negative significand before (sign ++ d :: ds ++ rest) =
            if significand ≠ 0 ∧ ¬down then .error (.past (e :: left ++ rest) .numberOutOfRange)
            else .ok (.float (signed negative 0), rest) := by
        have read := gathered rest (stopsPlain stops)
        rw [List.cons_append] at read
        rw [past, List.cons_append, exponentPast]
        simp only [own, read, skipDigitsPast others (stopsPlain stops)]
        rw [if_neg Bool.false_ne_true, if_pos (starts rest)]
      by_cases vast : significand ≠ 0 ∧ ¬down
      · exact ⟨.error .numberOutOfRange, fun _ same => (Except.error.inj same).symm,
          fun rest stops => by rw [read rest stops, if_pos vast]; rfl⟩
      · exact ⟨.ok (.float (signed negative 0)), okRange _,
          fun rest stops => by rw [read rest stops, if_neg vast]; rfl⟩

theorem afterDigitsPlain {rest : List Char} (stops : Stops rest) (negative : Bool)
    (significand : Nat) (before : Int) :
    (afterDigits negative significand before rest).mapError Stop.cause =
      (decimal negative significand before).map (·, rest) := by
  cases rest with
  | nil =>
    rw [afterDigits]
    · cases decimal negative significand before <;> rfl
    · exact nofun
    · exact nofun
  | cons c rest =>
    obtain ⟨-, -, small, large⟩ := stops c rfl
    rw [afterDigits]
    · cases decimal negative significand before <;> rfl
    · rintro _ ⟨⟩
      exact small rfl
    · rintro _ ⟨⟩
      exact large rfl

theorem afterDigitsCertain {text : List Char} (form : Exponent text) (negative : Bool)
    (significand : Nat) (before : Int) :
    Certain (afterDigits negative significand before) text := by
  cases form with
  | none =>
    exact ⟨decimal negative significand before, fun _ => decimalRange,
      fun rest stops => afterDigitsPlain stops negative significand before⟩
  | marked mark sort some digits =>
    have certain := exponentCertain sort some digits negative significand before
    rcases mark with rfl | rfl <;> exact certain

theorem fractionCertain {ds text : List Char} (some : ds ≠ []) (digits : Digits ds)
    (form : Exponent text) (negative : Bool) (significand : Nat) (before : Int) :
    Certain (fraction negative significand before) (ds ++ text) := by
  obtain ⟨value, more, left, others, counted, gathered⟩ :=
    gatherThen digits significandLimit significand 0
  obtain ⟨v, range, read⟩ := afterDigitsCertain form negative value (before - more)
  refine ⟨v, range, fun rest stops => ?_⟩
  have plain := exponentPlain form stops
  rw [← read rest stops, List.append_assoc, fraction]
  simp only [gathered _ plain]
  cases left with
  | nil =>
    have several : more ≠ 0 := by
      rw [(counted rfl).1]
      have := List.length_pos_iff.mpr some
      omega
    rw [List.nil_append, if_neg (by simp [plain]), if_neg several]
  | cons e left =>
    have starts : startsWithDigit (e :: left ++ (text ++ rest)) = true :=
      others e List.mem_cons_self
    rw [if_pos starts, skipDigitsPast others plain]

theorem tailCertain {fraction exponent : List Char} (middle : Fraction fraction)
    (back : Exponent exponent) (negative : Bool) (significand dropped : Nat) :
    Certain (tail negative significand dropped) (fraction ++ exponent) := by
  cases middle with
  | point some digits => exact fractionCertain some digits back negative significand dropped
  | none =>
    cases back with
    | marked mark sort some digits =>
      have certain := exponentCertain sort some digits negative significand dropped
      rcases mark with rfl | rfl <;> exact certain
    | none =>
      have plain (rest : List Char) (stops : Stops rest) : tail negative significand dropped rest =
          if dropped = 0 then .ok (integer negative significand, rest)
          else afterDigits negative significand dropped rest := by
        cases rest with
        | nil => rfl
        | cons c rest =>
          obtain ⟨-, dot, small, large⟩ := stops c rfl
          simp [tail, dot, small, large]
      by_cases none : dropped = 0
      · refine ⟨.ok (integer negative significand), okRange _, fun rest stops => ?_⟩
        rw [List.append_nil, List.nil_append, plain rest stops, if_pos none]
        rfl
      · obtain ⟨v, range, read⟩ := afterDigitsCertain .none negative significand dropped
        refine ⟨v, range, fun rest stops => ?_⟩
        rw [List.append_nil, List.nil_append, plain rest stops, if_neg none]
        exact read rest stops

theorem countDigitsPast {ds rest : List Char} (digits : Digits ds)
    (plain : startsWithDigit rest = false) (n : Nat) :
    countDigits n (ds ++ rest) = (n + ds.length, rest) := by
  induction ds generalizing n with
  | nil =>
    cases rest with
    | nil => rfl
    | cons c rest =>
      have other : digit? c = none := by simpa [startsWithDigit] using plain
      simp [countDigits, other]
  | cons d ds ih =>
    obtain ⟨own, digits⟩ := List.forall_mem_cons.mp digits
    rw [List.cons_append, countDigits, if_pos own, ih digits, List.length_cons]
    rw [show n + 1 + ds.length = n + (ds.length + 1) by omega]

theorem unsignedLeading {d : Char} {ds : List Char} (other : d ≠ '0') (digits : Digits (d :: ds))
    (negative : Bool) : ∃ (value : Nat) (left : List Char),
      (left = [] → value = Nat.ofDigitChars 10 (d :: ds) 0) ∧
      ∀ rest, startsWithDigit rest = false →
        unsigned negative (d :: ds ++ rest) = tail negative value left.length rest := by
  obtain ⟨value, more, left, others, counted, gathered⟩ := gatherThen digits significandLimit 0 0
  refine ⟨value, left, fun none => (counted none).2, fun rest plain => ?_⟩
  have own : (digit? d).isNone = false := by simpa using digits d List.mem_cons_self
  have read := gathered rest plain
  rw [List.cons_append] at read
  rw [List.cons_append, unsigned]
  simp only [if_neg other, own, read, countDigitsPast others plain, Nat.zero_add]
  rfl

theorem unsignedCertain {whole fraction exponent : List Char} (front : Whole whole)
    (middle : Fraction fraction) (back : Exponent exponent) (negative : Bool) :
    Certain (unsigned negative) (whole ++ (fraction ++ exponent)) := by
  cases front with
  | zero =>
    obtain ⟨v, range, read⟩ := tailCertain middle back negative 0 0
    refine ⟨v, range, fun rest stops => ?_⟩
    have plain := fractionPlain middle back stops
    rw [← read rest stops]
    simp [unsigned, List.append_assoc] at plain ⊢
    simp [plain]
  | leading other digits =>
    obtain ⟨value, left, -, past⟩ := unsignedLeading other digits negative
    obtain ⟨v, range, read⟩ := tailCertain middle back negative value left.length
    refine ⟨v, range, fun rest stops => ?_⟩
    rw [List.append_assoc, past _ (fractionPlain middle back stops), read rest stops]

theorem readCertain {literal : List Char} (spelled : Spelled literal) :
    Certain read literal := by
  obtain ⟨sort, front, middle, back⟩ := spelled
  rcases sort with rfl | rfl
  · obtain ⟨v, range, certain⟩ := unsignedCertain front middle back false
    refine ⟨v, range, fun rest stops => ?_⟩
    rw [← certain rest stops, List.nil_append, List.append_assoc, readUnsigned front]
  · exact unsignedCertain front middle back true

theorem decimalNotInt {negative : Bool} {significand : Nat} {power k : Int} :
    decimal negative significand power ≠ .ok (.int k) := by
  unfold decimal
  split <;> exact nofun

theorem exponentNotInt {negative : Bool} {significand : Nat} {before k : Int}
    {cs rest : List Char} : exponent negative significand before cs ≠ .ok (.int k, rest) := by
  intro read
  unfold exponent at read
  dsimp only at read
  repeat' split at read
  all_goals first
    | cases read; done
    | rename_i scaled; cases read; exact decimalNotInt scaled

theorem afterDigitsNotInt {negative : Bool} {significand : Nat} {before k : Int}
    {cs rest : List Char} : afterDigits negative significand before cs ≠ .ok (.int k, rest) := by
  intro read
  unfold afterDigits at read
  split at read
  · exact exponentNotInt read
  · exact exponentNotInt read
  · split at read
    · rename_i scaled
      cases read
      exact decimalNotInt scaled
    · cases read

theorem fractionNotInt {negative : Bool} {significand : Nat} {before k : Int}
    {cs rest : List Char} : fraction negative significand before cs ≠ .ok (.int k, rest) := by
  intro read
  unfold fraction at read
  dsimp only at read
  split at read
  · exact afterDigitsNotInt read
  · split at read
    · split at read <;> cases read
    · exact afterDigitsNotInt read

theorem tailInt {negative : Bool} {significand dropped : Nat} {cs rest : List Char} {k : Int}
    (came : tail negative significand dropped cs = .ok (.int k, rest)) :
    dropped = 0 ∧ integer negative significand = .int k ∧
      ∀ c, cs.head? = some c → c ≠ '.' ∧ c ≠ 'e' ∧ c ≠ 'E' := by
  unfold tail at came
  split at came
  · exact absurd came fractionNotInt
  · exact absurd came exponentNotInt
  · exact absurd came exponentNotInt
  · rename_i dot small large
    split at came
    · rename_i none
      have same := congrArg Prod.fst (Except.ok.inj came)
      refine ⟨none, same, fun c head => ?_⟩
      obtain ⟨ahead, begins⟩ := List.head?_eq_some_iff.mp head
      refine ⟨?_, ?_, ?_⟩
      · rintro rfl
        exact dot ahead begins
      · rintro rfl
        exact small ahead begins
      · rintro rfl
        exact large ahead begins
    · exact absurd came afterDigitsNotInt

theorem bareInt {fraction exponent rest : List Char} (middle : Fraction fraction)
    (back : Exponent exponent)
    (head : ∀ c, (fraction ++ exponent ++ rest).head? = some c → c ≠ '.' ∧ c ≠ 'e' ∧ c ≠ 'E') :
    fraction = [] ∧ exponent = [] := by
  cases middle with
  | point some digits => exact absurd rfl (head '.' rfl).1
  | none =>
    cases back with
    | none => exact ⟨rfl, rfl⟩
    | marked mark sort some digits =>
      rcases mark with rfl | rfl
      · exact absurd rfl (head 'e' rfl).2.1
      · exact absurd rfl (head 'E' rfl).2.2

theorem unsignedInt {negative : Bool} {whole fraction exponent rest after : List Char} {k : Int}
    (front : Whole whole) (middle : Fraction fraction) (back : Exponent exponent)
    (stops : Stops rest)
    (came : unsigned negative (whole ++ (fraction ++ exponent) ++ rest) = .ok (.int k, after)) :
    fraction = [] ∧ exponent = [] ∧
      integer negative (Nat.ofDigitChars 10 whole 0) = .int k := by
  have plain := fractionPlain middle back stops
  rw [List.append_assoc] at came
  cases front with
  | zero =>
    simp only [List.cons_append, List.nil_append, unsigned, plain] at came
    obtain ⟨-, same, head⟩ := tailInt came
    obtain ⟨rfl, rfl⟩ := bareInt middle back head
    exact ⟨rfl, rfl, same⟩
  | leading other digits =>
    obtain ⟨value, left, counted, past⟩ := unsignedLeading other digits negative
    rw [past _ plain] at came
    obtain ⟨none, same, head⟩ := tailInt came
    obtain ⟨rfl, rfl⟩ := bareInt middle back head
    rw [counted (List.length_eq_zero_iff.mp none)] at same
    exact ⟨rfl, rfl, same⟩

theorem readInt {literal rest after : List Char} {k : Int} (spelled : Spelled literal)
    (stops : Stops rest) (natural : 0 ≤ k)
    (came : read (literal ++ rest) = .ok (.int k, after)) :
    (∀ c ∈ literal, c.isDigit = true) ∧ k = Nat.ofDigitChars 10 literal 0 := by
  obtain ⟨sort, front, middle, back⟩ := spelled
  rcases sort with rfl | rfl
  · rw [List.nil_append, List.append_assoc, readUnsigned front, ← List.append_assoc] at came
    obtain ⟨rfl, rfl, whole⟩ := unsignedInt front middle back stops came
    cases whole
    simpa using wholeDigits front
  · obtain ⟨-, -, whole⟩ := unsignedInt front middle back stops came
    unfold integer at whole
    split at whole
    · contradiction
    · split at whole
      · cases whole
        omega
      · cases whole

theorem readCount {literal rest : List Char} (spelled : Spelled literal)
    (digits : ∀ c ∈ literal, c.isDigit = true)
    (within : Nat.ofDigitChars 10 literal 0 ≤ significandLimit) (stops : Stops rest) :
    read (literal ++ rest) = .ok (.int (Nat.ofDigitChars 10 literal 0), rest) := by
  obtain @⟨sign, whole, fraction, exponent, sort, front, middle, back⟩ := spelled
  rcases sort with rfl | rfl
  · have head (c : Char) (head : (fraction ++ exponent ++ []).head? = some c) :
        c ≠ '.' ∧ c ≠ 'e' ∧ c ≠ 'E' := by
      rw [List.append_nil] at head
      have digit := digits c <|
        List.mem_append_right _ (List.mem_append_right _ (List.mem_of_head? head))
      refine ⟨?_, ?_, ?_⟩ <;> rintro rfl <;> cases digit
    obtain ⟨rfl, rfl⟩ := bareInt middle back head
    simp only [List.nil_append, List.append_nil] at within ⊢
    rw [readUnsigned front, wholeCount false front within stops]
    rfl
  · exact absurd (digits '-' List.mem_cons_self) (by decide)

end RegistrySeeding.Json.Numeral
