import RegistrySeeding.Proofs.Json.Faithful
import RegistrySeeding.Time.Codec

/-! Dates with a time, read and written. An instant that was read is a proper one; a proper one in
the years of four digits is read back from its text. -/
namespace RegistrySeeding.Time
open Json (bindOk)

structure Instant.Proper (t : Instant) : Prop where
  date : t.date.valid = true
  second : t.second < daySeconds
  nano : t.nano < 1000000000 ∨ t.second % 60 = 59 ∧ t.nano < 2000000000

def Instant.FourDigitYear (t : Instant) : Prop := 0 ≤ t.date.year ∧ t.date.year ≤ 9999

namespace Reader
open Text (dropBlankStart isBlank)

-- Not by definition, so that a rewrite with it leaves no conversion of the terms around it.
theorem okBind {ε α β : Type} (x : α) (next : α → Except ε β) :
    (Except.ok x >>= next) = next x := by
  simp only [bind, Except.bind]

theorem digitOf {c : Char} (digit : c.isDigit = true) : isDigit c = true := by
  simp only [Char.isDigit, Bool.and_eq_true, decide_eq_true_eq] at digit
  simp only [isDigit, Bool.and_eq_true, decide_eq_true_eq]
  exact digit

theorem digitBounds {c : Char} (digit : isDigit c = true) : 48 ≤ c.toNat ∧ c.toNat ≤ 57 := by
  simp only [isDigit, Bool.and_eq_true, decide_eq_true_eq] at digit
  exact digit

theorem digitSolid {c : Char} (digit : isDigit c = true) : isBlank c = false := by
  have bounds := digitBounds digit
  simp [isBlank, Text.blankRanges]
  omega

theorem valueOfDigits (ds : List Char) : valueOf ds = Nat.ofDigitChars 10 ds 0 := by
  unfold valueOf Nat.ofDigitChars
  congr 1
  funext n c
  rw [Nat.mul_comm]

theorem foldBelow {ds : List Char} (digits : ∀ c ∈ ds, isDigit c = true) (n : Nat) :
    ds.foldl (fun n c => n * 10 + (c.toNat - '0'.toNat)) n < (n + 1) * 10 ^ ds.length := by
  induction ds generalizing n with
  | nil => simp
  | cons d ds ih =>
    have small : d.toNat - '0'.toNat ≤ 9 := by
      have bounds := digitBounds (digits d List.mem_cons_self)
      change d.toNat - 48 ≤ 9
      omega
    calc
      _ < (n * 10 + (d.toNat - '0'.toNat) + 1) * 10 ^ ds.length :=
        ih (fun c inside => digits c (List.mem_cons_of_mem d inside)) _
      _ ≤ ((n + 1) * 10) * 10 ^ ds.length := Nat.mul_le_mul_right _ (by omega)
      _ = (n + 1) * 10 ^ (ds.length + 1) := by rw [Nat.pow_succ', Nat.mul_assoc]

theorem valueBelow {ds : List Char} (digits : ∀ c ∈ ds, isDigit c = true) :
    valueOf ds < 10 ^ ds.length := by
  have below := foldBelow digits 0
  rwa [Nat.zero_add, Nat.one_mul] at below

def padded (width n : Nat) : List Char :=
  List.replicate (width - (Nat.toDigits 10 n).length) '0' ++ Nat.toDigits 10 n

theorem padZerosList (width n : Nat) : (padZeros width n).toList = padded width n := by
  unfold padZeros padded
  exact String.toList_ofList

theorem paddedDigits (width n : Nat) : ∀ c ∈ padded width n, isDigit c = true := by
  intro c inside
  rcases List.mem_append.mp inside with zero | digit
  · rw [(List.mem_replicate.mp zero).2]
    rfl
  · exact digitOf (Nat.isDigit_of_mem_toDigits (by omega) (by omega) digit)

theorem paddedLength {width n : Nat} (some : 0 < width) (small : n < 10 ^ width) :
    (padded width n).length = width := by
  have short := (Nat.length_toDigits_le_iff (by omega) some).mpr small
  rw [padded, List.length_append, List.length_replicate]
  omega

theorem paddedValue (width n : Nat) : valueOf (padded width n) = n := by
  rw [valueOfDigits, padded]
  generalize width - (Nat.toDigits 10 n).length = zeros
  induction zeros with
  | zero => exact Nat.ofDigitChars_ten_toDigits
  | succ zeros ih => exact ih

theorem numberPadded {most width n : Nat} {rest : List Char} (some : 0 < width)
    (small : n < 10 ^ width) (within : width ≤ most)
    (ends : width = most ∨ ∀ c ∈ rest.head?, isDigit c = false) :
    number most (padded width n ++ rest) = .ok (n, rest) := by
  have digits := paddedDigits width n
  have length := paddedLength some small
  have taken : ((padded width n ++ rest).take most).takeWhile isDigit = padded width n := by
    rw [List.take_append, length, List.take_of_length_le (by omega),
      List.takeWhile_append_of_pos digits]
    rcases ends with rfl | stops
    · simp
    · cases rest with
      | nil => simp
      | cons c rest =>
        have solid : isDigit c = false := stops c rfl
        cases most - width <;> simp [solid]
  have past : (padded width n ++ rest).drop (padded width n).length = rest := List.drop_left
  have value := paddedValue width n
  generalize padded width n = ds at *
  cases ds with
  | nil => simp at length; omega
  | cons d ds =>
    unfold number
    simp only [List.cons_append] at taken past ⊢
    simp only [digits d List.mem_cons_self, if_true, taken, past, value]

theorem solidHere {c : Char} (solid : isBlank c = false) (rest : List Char) :
    dropBlankStart (c :: rest) = c :: rest :=
  List.dropWhile_cons_of_neg (by simp [solid])

theorem solidPadded {width n : Nat} (some : 0 < width) (small : n < 10 ^ width)
    (rest : List Char) : dropBlankStart (padded width n ++ rest) = padded width n ++ rest := by
  have digits := paddedDigits width n
  have length := paddedLength some small
  cases form : padded width n with
  | nil => simp [form] at length; omega
  | cons d ds =>
    rw [form] at digits
    exact solidHere (digitSolid (digits d List.mem_cons_self)) _

theorem boundedPadded {low high n : Nat} (least : low ≤ n) (most : n ≤ high) (short : n < 10 ^ 2)
    (rest : List Char) : bounded low high (padded 2 n ++ rest) = .ok (n, rest) := by
  have read : number 2 (padded 2 n ++ rest) = .ok (n, rest) :=
    numberPadded (by omega) short (Nat.le_refl 2) (.inl rfl)
  unfold bounded
  rw [solidPadded (by omega) short, read]
  simp [within, least, most, bind, Except.bind, pure, Except.pure]

theorem yearPadded {y : Nat} (small : y < 10 ^ 4) (rest : List Char) :
    year (padded 4 y ++ rest) = .ok ((y : Int), rest) := by
  have read : number 4 (padded 4 y ++ rest) = .ok (y, rest) :=
    numberPadded (by omega) small (Nat.le_refl 4) (.inl rfl)
  have digits := paddedDigits 4 y
  have length : (padded 4 y).length = 4 := paddedLength (by omega) small
  have inRange : -0x80000000 ≤ (y : Int) ∧ (y : Int) < 0x80000000 := by omega
  unfold year
  rw [solidPadded (by omega) small]
  cases form : padded 4 y with
  | nil => simp [form] at length
  | cons d ds =>
    rw [form] at read digits
    have bounds := digitBounds (digits d List.mem_cons_self)
    have minus : d ≠ '-' := by
      rintro rfl
      exact absurd bounds.1 (by decide)
    have plus : d ≠ '+' := by
      rintro rfl
      exact absurd bounds.1 (by decide)
    rw [List.cons_append] at read ⊢
    split
    · rename_i same
      cases same
      exact absurd rfl minus
    · rename_i same
      cases same
      exact absurd rfl plus
    · rw [read, okBind]
      simp only [pure, Except.pure]
      rw [okBind, if_pos inRange]

theorem separatorHere {mark : Char} (solid : isBlank mark = false) (rest : List Char) :
    separator mark (mark :: rest) = .ok rest := by
  unfold separator
  rw [solidHere solid]
  exact if_pos rfl

theorem dateWritten {y m d : Nat} (year : y < 10 ^ 4) (month : 1 ≤ m ∧ m ≤ 12)
    (day : 1 ≤ d ∧ d ≤ 31) (rest : List Char) :
    date (padded 4 y ++ '-' :: (padded 2 m ++ '-' :: (padded 2 d ++ rest))) =
      .ok (⟨y, m, d⟩, rest) := by
  unfold date
  simp only [yearPadded year, boundedPadded month.1 month.2 (by omega),
    boundedPadded day.1 day.2 (by omega), separatorHere (rfl : isBlank '-' = false), okBind]
  rfl

theorem fractionPadded {width n nano : Nat} (some : 0 < width) (within : width ≤ 9)
    (small : n < 10 ^ width) (exact : n * 10 ^ (9 - width) = nano) :
    fraction (("." ++ padZeros width n).toList ++ ['Z']) = .ok (nano, ['Z']) := by
  have read : number 9 (padded width n ++ ['Z']) = .ok (n, ['Z']) :=
    numberPadded some small within (.inr (by simp [isDigit]))
  have length := paddedLength some small
  rw [String.toList_append, padZerosList]
  change fraction ('.' :: (padded width n ++ ['Z'])) = _
  unfold fraction
  simp only [read, okBind, List.length_append, length, List.length_singleton,
    Nat.add_sub_cancel]
  rw [Nat.pow_eq, exact]
  rfl

theorem fractionWritten {nano : Nat} (small : nano < 1000000000) :
    fraction ((fractionText nano).toList ++ ['Z']) = .ok (nano, ['Z']) := by
  unfold fractionText
  split
  · rename_i zero
    rw [zero]
    rfl
  · split
    · exact fractionPadded (by omega) (by omega) (by omega) (by omega)
    · split
      · exact fractionPadded (by omega) (by omega) (by omega) (by omega)
      · exact fractionPadded (by omega) (by omega) (by omega) (by omega)

theorem clockWritten {h m s nano : Nat} (hour : h ≤ 23) (minute : m ≤ 59) (second : s ≤ 60)
    (small : nano < 1000000000) :
    clock (padded 2 h ++ ':' :: (padded 2 m ++ ':' :: (padded 2 s ++
        ((fractionText nano).toList ++ ['Z'])))) =
      .ok ((h * 3600 + m * 60 + (s - s / 60), nano + s / 60 * 1000000000), ['Z']) := by
  unfold clock
  simp only [boundedPadded (Nat.zero_le h) hour (by omega),
    boundedPadded (Nat.zero_le m) minute (by omega),
    boundedPadded (Nat.zero_le s) second (by omega), separatorHere (rfl : isBlank ':' = false),
    fractionWritten small, okBind]
  rfl

theorem dateBounds {d : Date} (valid : d.valid = true) :
    (1 ≤ d.month ∧ d.month ≤ 12) ∧ 1 ≤ d.day ∧ d.day ≤ 31 := by
  simp only [Date.valid, Bool.and_eq_true, decide_eq_true_eq] at valid
  have short : monthLength d.year d.month ≤ 31 := by
    unfold monthLength
    split
    · split <;> omega
    · split <;> omega
  omega

theorem textForm (t : Instant) (years : t.FourDigitYear) :
    t.text.toList =
      padded 4 t.date.year.toNat ++ '-' :: (padded 2 t.date.month ++ '-' :: (padded 2 t.date.day ++
        'T' :: (padded 2 (t.second / 3600) ++ ':' :: (padded 2 (t.second / 60 % 60) ++
          ':' :: (padded 2 (t.second % 60 + t.nano / 1000000000) ++
            ((fractionText (t.nano % 1000000000)).toList ++ ['Z'])))))) := by
  unfold Instant.FourDigitYear at years
  unfold Instant.text yearText
  rw [if_pos years]
  simp [String.toList_append, padZerosList]

theorem dividerHere (rest : List Char) : divider ('T' :: rest) = .ok rest := rfl

theorem offsetHere : offset ['Z'] = .ok (0, []) := rfl

theorem localHere (t : Instant) (inDay : t.second < daySeconds) : Instant.ofLocal t 0 = t := by
  unfold Instant.ofLocal
  simp only [Int.sub_zero, Int.toNat_natCast]
  rw [if_neg (by omega), if_neg (by omega)]

theorem instantWritten {t : Instant} (proper : t.Proper) (years : t.FourDigitYear) :
    instant t.text.toList = .ok t := by
  obtain ⟨valid, inDay, fine⟩ := proper
  have ⟨month, day⟩ := dateBounds valid
  have within : t.second < 86400 := inDay
  have sameDate : (⟨t.date.year.toNat, t.date.month, t.date.day⟩ : Date) = t.date := by
    rw [Int.toNat_of_nonneg years.1]
  -- A leap second is written as the sixtieth, and read as the fraction it was.
  have sameSecond : t.second / 3600 * 3600 + t.second / 60 % 60 * 60 +
      (t.second % 60 + t.nano / 1000000000 - (t.second % 60 + t.nano / 1000000000) / 60) =
        t.second := by omega
  have sameNano : t.nano % 1000000000 +
      (t.second % 60 + t.nano / 1000000000) / 60 * 1000000000 = t.nano := by omega
  have hour : t.second / 3600 ≤ 23 := by omega
  have minute : t.second / 60 % 60 ≤ 59 := by omega
  have inMinute : t.second % 60 + t.nano / 1000000000 ≤ 60 := by omega
  have part : t.nano % 1000000000 < 1000000000 := by omega
  have inFour := years.2
  rw [textForm t years]
  unfold instant
  simp only [dateWritten (y := t.date.year.toNat) (by omega) month day, dividerHere,
    clockWritten hour minute inMinute part, offsetHere, okBind, sameDate, sameSecond, sameNano,
    localHere t inDay, valid]
  rfl

theorem numberRead {most n : Nat} {cs rest : List Char} (read : number most cs = .ok (n, rest)) :
    ∃ count, count ≤ most ∧ n < 10 ^ count ∧ cs.length = count + rest.length := by
  unfold number at read
  split at read
  · cases read
  · split at read
    · cases read
      rename_i c cs _
      have short := (List.takeWhile_sublist isDigit (l := (c :: cs).take most)).length_le
      have digits : ∀ d ∈ ((c :: cs).take most).takeWhile isDigit, isDigit d = true :=
        fun d inside => List.all_eq_true.mp List.all_takeWhile d inside
      rw [List.length_take] at short
      exact ⟨_, by omega, valueBelow digits, by rw [List.length_drop]; omega⟩
    · cases read

theorem boundedRead {low high n : Nat} {cs rest : List Char}
    (read : bounded low high cs = .ok (n, rest)) : n ≤ high := by
  obtain ⟨⟨found, after⟩, -, read⟩ := bindOk read
  obtain ⟨kept, checked, read⟩ := bindOk read
  cases read
  unfold within at checked
  split at checked
  · rename_i fits
    cases checked
    exact fits.2
  · cases checked

theorem fractionRead {n : Nat} {cs rest : List Char} (read : fraction cs = .ok (n, rest)) :
    n < 1000000000 := by
  unfold fraction at read
  split at read
  · rename_i digits
    obtain ⟨⟨found, after⟩, number, read⟩ := bindOk read
    obtain ⟨count, short, small, lengths⟩ := numberRead number
    cases read
    rw [lengths, Nat.add_sub_cancel]
    calc
      found * 10 ^ (9 - count) < 10 ^ count * 10 ^ (9 - count) :=
        Nat.mul_lt_mul_of_pos_right small (Nat.pow_pos (by omega))
      _ = 10 ^ 9 := by rw [← Nat.pow_add, Nat.add_sub_cancel' short]
  · cases read
    omega

theorem clockRead {second nano : Nat} {cs rest : List Char}
    (read : clock cs = .ok ((second, nano), rest)) :
    second < daySeconds ∧
      (nano < 1000000000 ∨ second % 60 = 59 ∧ nano < 2000000000) := by
  obtain ⟨⟨h, _⟩, hour, read⟩ := bindOk read
  obtain ⟨_, -, read⟩ := bindOk read
  obtain ⟨⟨m, _⟩, minute, read⟩ := bindOk read
  obtain ⟨_, -, read⟩ := bindOk read
  obtain ⟨⟨s, _⟩, inMinute, read⟩ := bindOk read
  obtain ⟨⟨part, _⟩, ofSecond, read⟩ := bindOk read
  cases read
  have hour := boundedRead hour
  have minute := boundedRead minute
  have inMinute := boundedRead inMinute
  have ofSecond := fractionRead ofSecond
  unfold daySeconds
  rcases Nat.lt_or_ge s 60 with ordinary | leap
  · omega
  · obtain rfl : s = 60 := by omega
    omega

theorem offsetSizeRead {n : Nat} {cs rest : List Char} (read : offsetSize cs = .ok (n, rest)) :
    n % 60 = 0 := by
  obtain ⟨⟨⟨a, b⟩, _⟩, -, read⟩ := bindOk read
  dsimp only at read
  split at read
  · cases read
  · obtain ⟨⟨⟨c, d⟩, _⟩, -, read⟩ := bindOk read
    dsimp only at read
    split at read
    · cases read
    · split at read
      · cases read
      · cases read
        omega

theorem offsetRead {east : Int} {cs rest : List Char} (read : offset cs = .ok (east, rest)) :
    east % 60 = 0 := by
  unfold offset at read
  split at read
  · cases read
  · split at read
    · cases read
      rfl
    · split at read
      · cases read
        rfl
      · split at read
        · obtain ⟨⟨n, _⟩, size, read⟩ := bindOk read
          have whole := offsetSizeRead size
          cases read
          omega
        · split at read
          · obtain ⟨⟨n, _⟩, size, read⟩ := bindOk read
            have whole := offsetSizeRead size
            cases read
            omega
          · cases read

theorem localKeeps (wall : Instant) {east : Int} (inDay : wall.second < daySeconds)
    (whole : east % 60 = 0) (near : east.natAbs < daySeconds) :
    (Instant.ofLocal wall east).second < daySeconds ∧
      (Instant.ofLocal wall east).second % 60 = wall.second % 60 ∧
      (Instant.ofLocal wall east).nano = wall.nano := by
  unfold Instant.ofLocal
  unfold daySeconds at *
  dsimp only
  split
  · dsimp only
    omega
  · split
    · dsimp only
      omega
    · dsimp only
      omega

theorem instantRead {t : Instant} {cs : List Char} (read : instant cs = .ok t) : t.Proper := by
  obtain ⟨⟨day, _⟩, -, read⟩ := bindOk read
  obtain ⟨_, -, read⟩ := bindOk read
  obtain ⟨⟨⟨second, nano⟩, _⟩, time, read⟩ := bindOk read
  obtain ⟨⟨east, _⟩, apart, read⟩ := bindOk read
  have ⟨inDay, fine⟩ := clockRead time
  have whole := offsetRead apart
  dsimp only at read
  split at read
  · cases read
  · split at read
    · cases read
    · split at read
      · cases read
      · split at read
        · rename_i near valid
          have ⟨within, same, nanos⟩ := localKeeps ⟨day, second, nano⟩ inDay whole (by omega)
          cases read
          exact ⟨valid, within, by rw [same, nanos]; exact fine⟩
        · cases read

end Reader

theorem Instant.faithful :
    Instant.codec.Faithful (fun _ t => t.Proper) Instant.FourDigitYear where
  sound := by
    intro levels span cs rest t read
    obtain ⟨⟨s, mid⟩, -, read⟩ := bindOk read
    dsimp only at read
    split at read
    · rename_i t found
      cases read
      exact Reader.instantRead found
    · cases read
  skips blank budget cs := by
    simp only [Instant.codec, Json.Codec.readStringSkips blank]
  taken {levels span depth l} t proper years _ rest stops := by
    have quoted := Json.Codec.readStringTaken "an RFC 3339 formatted date and time string" t.text
      rest stops
    have read : Instant.ofText t.text = .ok t := Reader.instantWritten proper years
    change Instant.codec.read _ (Json.Writer.quote t.text ++ rest) = _
    simp only [Instant.codec, quoted]
    rw [Reader.okBind]
    simp only [read, pure, Except.pure]

end RegistrySeeding.Time
