import RegistrySeeding.Text.Digit
import RegistrySeeding.Text.Split

/-! Sets of code points and tables over them, held as text. A word is a code point in hexadecimal, a
range `300-36F`, or every other code point of one, `100-12E/2`; in a table the values follow a
colon, `BD:31.2044.32`. -/
namespace RegistrySeeding.Text

structure Span where
  first : Nat
  last : Nat
  step : Nat
  deriving DecidableEq, Repr

namespace Span

def holds (s : Span) (n : Nat) : Bool :=
  s.first ≤ n && n ≤ s.last && (n - s.first) % s.step = 0

def read? (word : List Char) : Option Span := do
  let (range, step) := cutFirst '/' word
  let (first, last) := cutFirst '-' range
  let low ← numeral? 16 first
  let high ← numeral? 16 (last.getD first)
  some ⟨low, high, ← numeral? 16 (step.getD ['1'])⟩

end Span

def words (table : String) : List (List Char) :=
  ((table.splitOn "\n").flatMap (·.splitOn " ")).filterMap fun word =>
    if word.isEmpty then none else some word.toList

def spans (table : String) : List Span := (words table).filterMap Span.read?

def inSpans (set : List Span) (n : Nat) : Bool := set.any (·.holds n)

structure Row where
  span : Span
  values : List Nat
  deriving DecidableEq, Repr

namespace Row

def read? (word : List Char) : Option Row := do
  let (keys, values) := cutFirst ':' word
  some ⟨← Span.read? keys, ← (pieces '.' (← values)).mapM (numeral? 16)⟩

end Row

def rows (table : String) : List Row := (words table).filterMap Row.read?

def rowOf? (table : List Row) (n : Nat) : Option Row := table.find? (·.span.holds n)

end RegistrySeeding.Text
