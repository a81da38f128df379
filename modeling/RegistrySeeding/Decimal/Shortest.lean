/-! The fewest decimal digits that read back to a binary64 value, found by exact arithmetic on
its bits. A decimal stands for the value when it lies among the reals that round to it; of two
neighbours on the coarsest grid that has one, the nearer is taken and a tie goes to the even. -/
namespace RegistrySeeding.Decimal

structure Binary where
  significand : Nat
  exponent : Int
  narrowBelow : Bool
  deriving DecidableEq, Repr

def Binary.ofBits (bits : UInt64) : Binary :=
  let e := ((bits >>> 52) &&& 0x7FF).toNat
  let f := (bits &&& 0xFFFFFFFFFFFFF).toNat
  if e = 0 then ⟨f, -1074, false⟩ else ⟨0x10000000000000 + f, (e : Int) - 1075, f = 0 && e > 1⟩

structure Scaled where
  digits : Nat
  exponent : Int
  deriving DecidableEq, Repr

def compareScaled (a : Nat) (i : Int) (n : Nat) (j : Int) : Ordering :=
  compare (a * Nat.pow 10 i.toNat * Nat.pow 2 (-j).toNat)
    (n * Nat.pow 2 j.toNat * Nat.pow 10 (-i).toNat)

def Binary.readsBack (x : Binary) (d : Scaled) : Bool :=
  -- The ends count when the significand is even.
  let low := if x.narrowBelow then 4 * x.significand - 1 else 4 * x.significand - 2
  let high := 4 * x.significand + 2
  let closed := x.significand % 2 = 0
  let atLow := compareScaled d.digits d.exponent low (x.exponent - 2)
  let atHigh := compareScaled d.digits d.exponent high (x.exponent - 2)
  (atLow = .gt || (closed && atLow = .eq)) && (atHigh = .lt || (closed && atHigh = .eq))

def Binary.scale (x : Binary) : Int :=
  let guess := ((x.significand.log2 : Int) + x.exponent) * 30103 / 100000
  if compareScaled 1 guess x.significand x.exponent = .gt then guess
  else if compareScaled 1 (guess + 1) x.significand x.exponent = .gt then guess + 1
  else guess + 2

def Binary.onGrid (x : Binary) (grid : Int) : Option Scaled :=
  let num := x.significand * Nat.pow 2 x.exponent.toNat * Nat.pow 10 (-grid).toNat
  let den := Nat.pow 2 (-x.exponent).toNat * Nat.pow 10 grid.toNat
  let below := num / den
  let above := below + 1
  match x.readsBack ⟨below, grid⟩, x.readsBack ⟨above, grid⟩ with
  | true, false => some ⟨below, grid⟩
  | false, true => some ⟨above, grid⟩
  | false, false => none
  | true, true =>
    match compare (2 * num) ((below + above) * den) with
    | .lt => some ⟨below, grid⟩
    | .gt => some ⟨above, grid⟩
    | .eq => some (if below % 2 = 0 then ⟨below, grid⟩ else ⟨above, grid⟩)

def Binary.exact (x : Binary) : Scaled :=
  ⟨x.significand * Nat.pow 2 x.exponent.toNat * Nat.pow 5 (-x.exponent).toNat, min x.exponent 0⟩

def Binary.shortest (x : Binary) : Scaled :=
  let k := x.scale
  ((List.range 17).findSome? fun n : Nat => x.onGrid (k - (n + 1))).getD x.exact

def Scaled.significant (d : Scaled) : List Char × Int :=
  let ds := Nat.toDigits 10 d.digits
  ((ds.reverse.dropWhile (· = '0')).reverse, ds.length + d.exponent)

def layout (digits : List Char) (point : Int) : List Char :=
  let n : Int := digits.length
  if n ≤ point && point ≤ 16 then
    digits ++ List.replicate (point - n).toNat '0' ++ ['.', '0']
  else if 0 < point && point ≤ 16 then
    digits.take point.toNat ++ '.' :: digits.drop point.toNat
  else if -5 < point && point ≤ 0 then
    ['0', '.'] ++ List.replicate (-point).toNat '0' ++ digits
  else
    let power := point - 1
    let mark := if power < 0 then ['e', '-'] else ['e', '+']
    let fraction := if digits.length ≤ 1 then [] else '.' :: digits.drop 1
    digits.take 1 ++ fraction ++ mark ++ Nat.toDigits 10 power.natAbs

def text (x : Float) : List Char :=
  let bits := x.toBits
  let sign := if bits >>> 63 = 1 then ['-'] else []
  let magnitude := bits &&& 0x7FFFFFFFFFFFFFFF
  if magnitude = 0 then sign ++ ['0', '.', '0']
  else
    let (digits, point) := (Binary.ofBits magnitude).shortest.significant
    sign ++ layout digits point

end RegistrySeeding.Decimal
