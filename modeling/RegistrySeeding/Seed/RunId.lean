/-! Run identifiers: 128 bits, the milliseconds of the clock first, then version seven, the
variant and noise, written as five groups of hexadecimal digits. -/
namespace RegistrySeeding.RunId

def digits : Nat → Nat → List Char
  | 0, _ => []
  | count + 1, n => digits count (n / 16) ++ [Nat.digitChar (n % 16)]

def text (millis noise : Nat) : String :=
  String.ofList <|
    digits 8 (millis / 0x10000) ++ '-' :: digits 4 millis
      ++ '-' :: '7' :: digits 3 noise
      ++ '-' :: digits 4 (0x8000 + noise / 0x1000 % 0x4000)
      ++ '-' :: digits 12 (noise / 0x4000000)

end RegistrySeeding.RunId
