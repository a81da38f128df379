import RegistrySeeding.Json.Codec
import RegistrySeeding.Time.Rfc3339

/-! Instants in documents: a string, whose own faults are reported as they are. -/
namespace RegistrySeeding.Time.Instant

def codec : Json.Codec Instant where
  read _ cs := do
    let (s, rest) ← Json.Codec.readString "an RFC 3339 formatted date and time string" cs
    match Instant.ofText s with
    | .ok t => return (t, rest)
    | .error fault => .error (.before rest (.refused fault.message))
  write t := .string t.text

end RegistrySeeding.Time.Instant
