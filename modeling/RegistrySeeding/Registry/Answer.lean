import RegistrySeeding.Error
import RegistrySeeding.Json.Record
import RegistrySeeding.Registry.Status
import RegistrySeeding.Text.Blank

/-! What a registry answers to a create call. A record that already exists is a conflict, a
cancelled call is no answer at all, and every other error is a failure of that record. -/
namespace RegistrySeeding
open Json (Codec)

structure Failure where
  code : Status
  message : String
  deriving DecidableEq, Repr

namespace Failure

def record : Json.Record Failure where
  title := "RegistryFailure"
  fields :=
    .cons { name := "code", codec := Status.codec } <|
    .cons { name := "message", codec := Codec.string } .nil
  make := fun (code, message, ()) => ⟨code, message⟩
  parts f := (f.code, f.message, ())

def codec : Codec Failure := record.codec

def text (f : Failure) : String := f.code.name ++ ": " ++ f.message

end Failure

inductive Answer where
  | created (id : Option String)
  | conflict (detail : String)
  | failed (failure : Failure)
  deriving DecidableEq, Repr

namespace Answer

def ofCreated (id : Option String) : Answer := created (id.bind Text.nonBlank)

def ofStatus (code : Status) (message : String) : Except Error Answer :=
  match code with
  | .alreadyExists => .ok (conflict message)
  | .canceled => .error .cancelled
  | code => .ok (failed ⟨code, message⟩)

end Answer

structure RegisteredAsset where
  assetId : String
  symbol : String
  deriving DecidableEq, Repr

namespace RegisteredAsset

def record : Json.Record RegisteredAsset where
  title := "RegisteredAsset"
  fields :=
    .cons { name := "assetId", codec := Codec.string } <|
    .cons { name := "symbol", codec := Codec.string } .nil
  make := fun (id, symbol, ()) => ⟨id, symbol⟩
  parts a := (a.assetId, a.symbol, ())

def codec : Codec RegisteredAsset := record.codec

end RegisteredAsset
end RegistrySeeding
