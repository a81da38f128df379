import RegistrySeeding.Proofs.Json.Numerals

/-! The text of a binary64 value as a number of the format: its shortest decimal is never zero, so
its digits begin with one that is not, wherever the layout puts the point. -/
namespace RegistrySeeding.Decimal
open Json.Numeral (Digits Whole Fraction Exponent Spelled writtenDigits writtenHead wholeWritten)

theorem nothingReadsBack {x : Binary} (pos : 0 < x.significand) (grid : Int) :
    x.readsBack ⟨0, grid⟩ = false := by
  have below (low : Nat) (some : 0 < low) :
      compareScaled 0 grid low (x.exponent - 2) = .lt := by
    have two := Nat.pow_pos (n := (x.exponent - 2).toNat) (show 0 < 2 by omega)
    have ten := Nat.pow_pos (n := (-grid).toNat) (show 0 < 10 by omega)
    have scaled := Nat.mul_pos (Nat.mul_pos some two) ten
    simp only [compareScaled, Nat.zero_mul]
    exact Nat.compare_eq_lt.mpr scaled
  unfold Binary.readsBack
  cases x.narrowBelow with
  | true => simp [below (4 * x.significand - 1) (by omega)]
  | false => simp [below (4 * x.significand - 2) (by omega)]

theorem onGridPos {x : Binary} (pos : 0 < x.significand) {grid : Int} {d : Scaled}
    (found : x.onGrid grid = some d) : 0 < d.digits := by
  have nonzero {n : Nat} (reads : x.readsBack ⟨n, grid⟩ = true) : 0 < n := by
    rcases Nat.eq_zero_or_pos n with rfl | some
    · simp [nothingReadsBack pos] at reads
    · exact some
  unfold Binary.onGrid at found
  simp only at found
  split at found
  · rename_i reads _
    cases Option.some.inj found
    exact nonzero reads
  · cases Option.some.inj found
    exact Nat.succ_pos _
  · contradiction
  · rename_i reads _
    split at found
    · cases Option.some.inj found
      exact nonzero reads
    · cases Option.some.inj found
      exact Nat.succ_pos _
    · split at found
      · cases Option.some.inj found
        exact nonzero reads
      · cases Option.some.inj found
        exact Nat.succ_pos _

theorem shortestPos {x : Binary} (pos : 0 < x.significand) : 0 < x.shortest.digits := by
  unfold Binary.shortest
  simp only
  cases found : (List.range 17).findSome? fun n : Nat => x.onGrid (x.scale - (n + 1)) with
  | none =>
    have two := Nat.pow_pos (n := x.exponent.toNat) (show 0 < 2 by omega)
    have five := Nat.pow_pos (n := (-x.exponent).toNat) (show 0 < 5 by omega)
    exact Nat.mul_pos (Nat.mul_pos pos two) five
  | some d =>
    obtain ⟨n, _, here⟩ := List.exists_of_findSome?_eq_some found
    exact onGridPos pos here

theorem ofBitsPos {bits : UInt64} (some : bits &&& 0x7FFFFFFFFFFFFFFF ≠ 0) :
    0 < (Binary.ofBits (bits &&& 0x7FFFFFFFFFFFFFFF)).significand := by
  generalize magnitude : bits &&& 0x7FFFFFFFFFFFFFFF = m at some
  have bound : m.toNat < 2 ^ 63 := by
    have masked : m.toNat = bits.toNat &&& (2 ^ 63 - 1) := by
      rw [← magnitude, UInt64.toNat_and]
      rfl
    rw [masked, Nat.and_two_pow_sub_one_eq_mod]
    exact Nat.mod_lt _ (by omega)
  have nonzero : m.toNat ≠ 0 := by
    intro zero
    exact some (UInt64.toNat_inj.mp zero)
  have upper : ((m >>> 52) &&& 0x7FF).toNat = m.toNat / 2 ^ 52 := by
    have shifted : ((m >>> 52) &&& 0x7FF).toNat = (m.toNat / 2 ^ 52) &&& (2 ^ 11 - 1) := by
      rw [UInt64.toNat_and, UInt64.toNat_shiftRight, Nat.shiftRight_eq_div_pow]
      rfl
    rw [shifted, Nat.and_two_pow_sub_one_eq_mod, Nat.mod_eq_of_lt (by omega)]
  have lower : (m &&& 0xFFFFFFFFFFFFF).toNat = m.toNat % 2 ^ 52 := by
    rw [← Nat.and_two_pow_sub_one_eq_mod, UInt64.toNat_and]
    rfl
  unfold Binary.ofBits
  simp only [upper]
  split
  · change 0 < (m &&& 0xFFFFFFFFFFFFF).toNat
    rw [lower]
    omega
  · exact Nat.add_pos_left (by omega) _

theorem significantForm {d : Scaled} (pos : 0 < d.digits) :
    ∃ c cs, d.significant.1 = c :: cs ∧ c ≠ '0' ∧ Digits (c :: cs) := by
  obtain ⟨c, cs, head, other⟩ := writtenHead pos
  have digits := writtenDigits d.digits
  rw [head] at digits
  -- Only zeros are dropped from the end, so the drop stops at the first digit at the latest.
  have kept : ∃ ds, d.significant.1 = c :: ds ∧ ds.Sublist cs := by
    have whole : d.significant.1 =
        ((cs.reverse ++ [c]).dropWhile (· = '0')).reverse := by
      simp only [Scaled.significant, head, List.reverse_cons]
    rw [whole, List.dropWhile_append]
    split
    · refine ⟨[], ?_, List.nil_sublist cs⟩
      simp [other]
    · refine ⟨(cs.reverse.dropWhile (· = '0')).reverse, by simp, ?_⟩
      have part := (List.dropWhile_sublist (· = '0') (l := cs.reverse)).reverse
      rwa [List.reverse_reverse] at part
  obtain ⟨ds, same, part⟩ := kept
  refine ⟨c, ds, same, other, ?_⟩
  intro x inside
  rcases List.mem_cons.mp inside with rfl | later
  · exact digits _ List.mem_cons_self
  · exact digits x (List.mem_cons_of_mem c (part.subset later))

theorem zeroDigits (n : Nat) : Digits (List.replicate n '0') := by
  intro c inside
  rw [List.eq_of_mem_replicate inside]
  rfl

theorem digitsAppend {xs ys : List Char} (first : Digits xs) (second : Digits ys) :
    Digits (xs ++ ys) := by
  intro c inside
  rcases List.mem_append.mp inside with early | late
  · exact first c early
  · exact second c late

theorem layoutForm {c : Char} {cs : List Char} (other : c ≠ '0') (digits : Digits (c :: cs))
    (point : Int) {sign : List Char} (sort : sign = [] ∨ sign = ['-']) :
    Spelled (sign ++ layout (c :: cs) point) := by
  have rest : Digits cs := fun x inside => digits x (List.mem_cons_of_mem c inside)
  have whole {ds : List Char} (later : Digits ds) : Whole (c :: ds) := by
    refine .leading other ?_
    intro x inside
    rcases List.mem_cons.mp inside with rfl | last
    · exact digits _ List.mem_cons_self
    · exact later x last
  have taken (n : Nat) : Digits (cs.take n) := fun x inside => rest x (List.mem_of_mem_take inside)
  have dropped (n : Nat) : Digits (cs.drop n) := fun x inside => rest x (List.mem_of_mem_drop inside)
  unfold layout
  simp only
  split
  · have zeros := zeroDigits (point - (c :: cs).length).toNat
    have form := Spelled.parts sort (whole (digitsAppend rest zeros))
      (@Fraction.point ['0'] (by simp) (zeroDigits 1)) .none
    simpa using form
  split
  · rename_i short inside
    simp only [Bool.and_eq_true, decide_eq_true_eq, List.length_cons] at short inside
    obtain ⟨n, places⟩ : ∃ n, point.toNat = n + 1 := ⟨point.toNat - 1, by omega⟩
    have left : cs.drop n ≠ [] := by
      intro none
      have size := List.drop_eq_nil_iff.mp none
      omega
    have form := Spelled.parts sort (whole (taken n)) (.point left (dropped n)) .none
    simpa [places] using form
  split
  · have small : Digits (List.replicate (-point).toNat '0' ++ c :: cs) :=
      digitsAppend (zeroDigits _) digits
    have form := Spelled.parts sort .zero (.point (by simp) small) .none
    simpa using form
  · have mark : (if point - 1 < 0 then ['e', '-'] else ['e', '+']) =
        'e' :: (if point - 1 < 0 then ['-'] else ['+']) := by
      split <;> rfl
    have down : (if point - 1 < 0 then ['-'] else ['+']) = [] ∨
        (if point - 1 < 0 then ['-'] else ['+']) = ['+'] ∨
          (if point - 1 < 0 then ['-'] else ['+']) = ['-'] := by
      split <;> simp
    have power := Exponent.marked (.inl rfl) down Nat.toDigits_ne_nil
      (writtenDigits (point - 1).natAbs)
    have alone : Whole [c] := whole (by simp [Digits])
    rw [mark]
    cases cs with
    | nil => simpa using Spelled.parts sort alone .none power
    | cons d ds => simpa using Spelled.parts sort alone (.point (by simp) rest) power

theorem textForm (x : Float) : Spelled (text x) := by
  unfold text
  simp only
  have sort : (if x.toBits >>> 63 = 1 then ['-'] else []) = [] ∨
      (if x.toBits >>> 63 = 1 then ['-'] else []) = ['-'] := by
    split <;> simp
  split
  · have zero := Spelled.parts sort .zero (@Fraction.point ['0'] (by simp) (zeroDigits 1)) .none
    simpa using zero
  · rename_i some
    obtain ⟨c, cs, same, other, digits⟩ := significantForm (shortestPos (ofBitsPos some))
    rw [same]
    exact layoutForm other digits _ sort

end RegistrySeeding.Decimal
