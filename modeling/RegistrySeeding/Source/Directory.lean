import RegistrySeeding.Registry.Basic
import RegistrySeeding.Source.Files

/-! Records kept as documents in a data directory, one list a file. A file is looked at only when
its collection is loaded; one bad record spoils its whole collection. -/
namespace RegistrySeeding

def Stage.fileName (stage : Stage) : String := stage.name ++ ".json"

namespace Source
open Json (Codec)

def decodeRecords {α : Type} (stage : Stage) (codec : Codec α) (path text : String) :
    Except Error (List α) :=
  match codec.list.decode text with
  | .ok records => .ok records
  | .error fault => .error (.sourceMalformed stage.label (path ++ ": " ++ fault.message))

def readRecords {α : Type} (files : Files) (stage : Stage) (codec : Codec α) (path : String) :
    Except Error (List α) :=
  match files.text path with
  | .ok text => decodeRecords stage codec path text
  | .error fault => .error (.sourceUnreadable (path ++ ": " ++ fault.message))

def loadLine (stage : Stage) (path : String) : Line :=
  ⟨.debug, "Reading " ++ stage.label ++ " records from " ++ path, []⟩

def load {σ α : Type} (files : Files) (directory : String) (stage : Stage) (codec : Codec α)
    (world : σ) : Exchange σ (List α) :=
  let path := joinPath directory stage.fileName
  { reply := .answered (readRecords files stage codec path) false
    lines := [loadLine stage path]
    world }

def ofDirectory {σ : Type} (files : Files) (directory : String) : Source σ where
  chains := load files directory .chains Chain.codec
  assets := load files directory .assets Asset.codec
  deployments := load files directory .deployments Deployment.codec

end Source
end RegistrySeeding
