import RegistrySeeding.Text.Digit
import RegistrySeeding.Text.Utf8

/-! Percent escapes: a byte as a percent sign and two hexadecimal digits, upper case when
written, either case when read. -/
namespace RegistrySeeding.Percent

def byte (b : UInt8) : List Char :=
  ['%', (Nat.digitChar (b.toNat / 16)).toUpper, (Nat.digitChar (b.toNat % 16)).toUpper]

def encode (escaped : Char → Bool) (cs : List Char) : String :=
  String.ofList <| cs.flatMap fun c =>
    if 0x7F ≤ c.toNat || c.toNat < 0x20 || escaped c then (Text.Utf8.encodeChar c).flatMap byte
    else [c]

def decode : List Char → List UInt8
  | '%' :: a :: b :: rest =>
    match Text.hexDigit? a, Text.hexDigit? b with
    | some x, some y => UInt8.ofNat (x * 16 + y) :: decode rest
    | _, _ => 0x25 :: decode (a :: b :: rest)
  | c :: rest => Text.Utf8.encodeChar c ++ decode rest
  | [] => []

def decodeText? (cs : List Char) : Option String := Text.Utf8.decode? (decode cs)

end RegistrySeeding.Percent
