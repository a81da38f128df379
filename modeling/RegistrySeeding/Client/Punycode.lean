import RegistrySeeding.Text.Digit
import RegistrySeeding.Text.Split

/-! Labels of host names beyond ASCII, written in letters and digits: the ASCII characters first,
then where each other character belongs, as the distance from the one before it in the order of
code points and places. A distance is a number of mixed radix whose thresholds adapt to the
distances so far. -/
namespace RegistrySeeding.Punycode

def digit (n : Nat) : Char := if n < 26 then Char.ofNat (0x61 + n) else Char.ofNat (0x16 + n)

def digit? (c : Char) : Option Nat :=
  if 'a' ≤ c ∧ c ≤ 'z' then some (c.toNat - 'a'.toNat)
  else if 'A' ≤ c ∧ c ≤ 'Z' then some (c.toNat - 'A'.toNat)
  else (Text.digit? c).map (26 + ·)

def threshold (bias place : Nat) : Nat :=
  if place ≤ bias then 1 else min 26 (place - bias)

theorem thresholdPos (bias place : Nat) : 0 < threshold bias place := by
  unfold threshold
  split <;> omega

def digits (bias place distance : Nat) : List Char :=
  let t := threshold bias place
  if distance < t then [digit distance]
  else digit (t + (distance - t) % (36 - t)) :: digits bias (place + 36) ((distance - t) / (36 - t))
termination_by distance
decreasing_by
  have low := thresholdPos bias place
  have less := Nat.div_le_self (distance - threshold bias place) (36 - threshold bias place)
  omega

def settle (steps distance : Nat) : Nat :=
  if 455 < distance then settle (steps + 36) (distance / 35)
  else steps + 36 * distance / (distance + 38)

def adapt (distance count : Nat) (first : Bool) : Nat :=
  let distance := if first then distance / 700 else distance / 2
  settle 0 (distance + distance / count)

structure State where
  out : List Char := []
  distance : Nat := 0
  bias : Nat := 72
  placed : Nat

def State.pass (basic point : Nat) (state : State) (c : Char) : State :=
  if c.toNat < point then { state with distance := state.distance + 1 }
  else if c.toNat = point then
    { out := (digits state.bias 36 state.distance).reverse ++ state.out
      distance := 0
      bias := adapt state.distance (state.placed + 1) (state.placed = basic)
      placed := state.placed + 1 }
  else state

def State.place (label : List Char) (basic : Nat) : Nat → State → List Nat → State
  | _, state, [] => state
  | next, state, point :: points =>
    let skipped := { state with distance := state.distance + (point - next) * (state.placed + 1) }
    let state := label.foldl (State.pass basic point) skipped
    State.place label basic (point + 1) { state with distance := state.distance + 1 } points

def points (label : List Char) : List Nat :=
  ((label.map Char.toNat).filter (0x80 ≤ ·)).mergeSort.eraseDups

def encode (label : List Char) : List Char :=
  let basic := label.filter (·.toNat < 0x80)
  let state := State.place label basic.length 0x80 { placed := basic.length } (points label)
  basic ++ (if basic.isEmpty then [] else ['-']) ++ state.out.reverse

structure Reading where
  out : List Char
  position : Nat := 0
  point : Nat := 0x80
  bias : Nat := 72
  distance : Nat := 0
  weight : Nat := 1
  place : Nat := 36

def limit : Nat := UInt32.size

def Reading.put? (r : Reading) : Option Reading :=
  let count := r.out.length + 1
  let steps := r.position + r.distance
  let point := r.point + steps / count
  if point.isValidChar then
    some
      { out := r.out.insertIdx (steps % count) (Char.ofNat point)
        position := steps % count + 1
        point
        bias := adapt r.distance count (r.position = 0) }
  else none

def Reading.next? (r : Reading) (c : Char) : Option Reading := do
  let d ← digit? c
  let t := threshold r.bias r.place
  let distance := r.distance + d * r.weight
  if limit ≤ r.position + distance then none
  else if d < t then Reading.put? { r with distance }
  else if limit ≤ r.weight * (36 - t) then none
  else some { r with distance, weight := r.weight * (36 - t), place := r.place + 36 }

def decode? (code : List Char) : Option (List Char) := do
  let (basic, tail) := match Text.cutLast '-' code with
    | (some [], _) => ([], code)
    | (basic, tail) => (basic.getD [], tail)
  let r ← tail.foldlM Reading.next? { out := basic }
  if r.place = 36 then some r.out else none

end RegistrySeeding.Punycode
