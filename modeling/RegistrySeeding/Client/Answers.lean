import RegistrySeeding.Log
import RegistrySeeding.Registry.Answer

/-! Documents that the registry sends: a page of a listing and an error. Unknown members are
skipped; an identifier may come under either of two names. -/
namespace RegistrySeeding.Client
open Json (Codec)

structure ListedAsset where
  id : String
  symbol : String
  deriving DecidableEq, Repr

def ListedAsset.record : Json.Record ListedAsset where
  title := "ApiAsset"
  fields :=
    .cons { name := "id", aliases := ["assetId"], codec := Codec.string } <|
    .cons { name := "symbol", codec := Codec.string } .nil
  make := fun (id, symbol, ()) => ⟨id, symbol⟩
  parts a := (a.id, a.symbol, ())

def ListedAsset.registered (a : ListedAsset) : RegisteredAsset := ⟨a.id, a.symbol⟩

structure Page where
  assets : List ListedAsset
  nextPageToken : String
  deriving DecidableEq, Repr

def Page.record : Json.Record Page where
  title := "ApiListAssetsResponse"
  fields :=
    .cons (.withDefault "assets" ListedAsset.record.codec.list []) <|
    .cons (.withDefault "nextPageToken" Codec.string "") .nil
  make := fun (assets, token, ()) => ⟨assets, token⟩
  parts p := (p.assets, p.nextPageToken, ())

structure ErrorBody where
  code : Option String
  message : Option String
  error : Option String
  deriving DecidableEq, Repr

def ErrorBody.record : Json.Record ErrorBody where
  title := "ApiErrorResponse"
  fields :=
    .cons (.withDefault "code" Codec.string.option none) <|
    .cons (.withDefault "message" Codec.string.option none) <|
    .cons (.withDefault "error" Codec.string.option none) .nil
  make := fun (code, message, error, ()) => ⟨code, message, error⟩
  parts e := (e.code, e.message, e.error, ())

structure PageRequest where
  pageSize : UInt32
  pageToken : String
  deriving DecidableEq, Repr

def PageRequest.json (r : PageRequest) : Json :=
  .object (("pageSize", .number (.int r.pageSize.toNat))
    :: if r.pageToken.isEmpty then [] else [("pageToken", .string r.pageToken)])

def succeeded (status : Nat) : Bool := 200 ≤ status && status < 300

def createdId (recordName body : String) : Option String × List Line :=
  match Json.Reader.document Json.Reader.value body with
  | .error fault =>
    (none, [⟨.warn, "[RegistryApi] Unreadable create response: " ++ fault.message, []⟩])
  | .ok value => (((value.member? recordName).bind (·.member? "id")).bind Json.text?, [])

/-- Code and message of an error answer. A code in the body wins over the status; a body that is
no error document is quoted, two hundred characters of it. -/
def errorStatus (status : Nat) (body : String) : Status × String :=
  match ErrorBody.record.codec.decode body with
  | .ok e =>
    ((e.code.map Status.ofWire).getD (Status.ofHttp status),
      (e.message.or e.error).getD ("HTTP " ++ toString status))
  | .error _ =>
    (Status.ofHttp status,
      "HTTP " ++ toString status ++ ": " ++ String.ofList (body.toList.take 200))

end RegistrySeeding.Client
