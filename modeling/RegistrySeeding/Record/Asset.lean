import RegistrySeeding.Json.Choice
import RegistrySeeding.Json.Record
import RegistrySeeding.Text.Blank

/-! A tradable asset as the record source describes it, and the registry request made of it. An
asset is known by its symbol; one whose symbol is blank has no request. -/
namespace RegistrySeeding
open Json (Codec)

inductive AssetKind where
  | native
  | fungibleToken
  | unspecified
  deriving DecidableEq, Repr

namespace AssetKind

def name : AssetKind → String
  | native => "ASSET_TYPE_NATIVE"
  | fungibleToken => "ASSET_TYPE_FUNGIBLE_TOKEN"
  | unspecified => "ASSET_TYPE_UNSPECIFIED"

def choice : Json.Choice AssetKind := ⟨name, [native, fungibleToken, unspecified]⟩

def codec : Codec AssetKind := choice.codec

def sourceTypes : List (String × AssetKind) :=
  [("ASSET_TYPE_NATIVE", native), ("ASSET_TYPE_ERC20", fungibleToken),
   ("ASSET_TYPE_BEP20", fungibleToken), ("ASSET_TYPE_SPL", fungibleToken)]

def ofSourceType (sourceType : String) : AssetKind :=
  (sourceTypes.lookup sourceType).getD unspecified

end AssetKind

structure Asset where
  id : String
  symbol : String
  name : String
  sourceType : String
  category : Option String
  description : Option String
  logoUrl : Option String
  websiteUrl : Option String
  externalReferenceId : Option String
  metadata : Option (List (String × Json))
  deriving Repr

structure AssetRequest where
  symbol : String
  name : String
  assetType : AssetKind
  category : Option String
  description : Option String
  logoUrl : Option String
  deriving DecidableEq, Repr

namespace Asset

def record : Json.Record Asset where
  title := "AssetCandidate"
  fields :=
    .cons (.withDefault "id" Codec.string "") <|
    .cons { name := "symbol", codec := Codec.string } <|
    .cons { name := "name", codec := Codec.string } <|
    .cons { name := "type", codec := Codec.string } <|
    .cons (.withDefault "category" Codec.string.option none) <|
    .cons (.withDefault "description" Codec.string.option none) <|
    .cons (.withDefault "logo_url" Codec.string.option none) <|
    .cons (.withDefault "website_url" Codec.string.option none) <|
    .cons (.withDefault "coingecko_id" Codec.string.option none) <|
    .cons (.withDefault "metadata" Codec.object.option none) .nil
  make := fun (id, symbol, name, kind, category, description, logo, site, reference, data, ()) =>
    ⟨id, symbol, name, kind, category, description, logo, site, reference, data⟩
  parts a :=
    (a.id, a.symbol, a.name, a.sourceType, a.category, a.description, a.logoUrl, a.websiteUrl,
     a.externalReferenceId, a.metadata, ())

def codec : Codec Asset := record.codec

def key (a : Asset) : String := a.symbol

def kind (a : Asset) : AssetKind := AssetKind.ofSourceType a.sourceType

def request (a : Asset) : Except String AssetRequest :=
  if Text.blank a.symbol then
    .error ("asset symbol must not be empty (source id '" ++ a.id ++ "')")
  else
    .ok ⟨a.symbol, a.name, a.kind, a.category.bind Text.nonBlank, a.description.bind Text.nonBlank,
      a.logoUrl.bind Text.nonBlank⟩

end Asset

namespace AssetRequest

def record : Json.Record AssetRequest where
  title := "CreateAssetRequest"
  fields :=
    .cons { name := "symbol", codec := Codec.string } <|
    .cons { name := "name", codec := Codec.string } <|
    .cons { name := "assetType", codec := AssetKind.codec } <|
    .cons (.optional "category" Codec.string) <|
    .cons (.optional "description" Codec.string) <|
    .cons (.optional "logoUrl" Codec.string) .nil
  make := fun (symbol, name, kind, category, description, logo, ()) =>
    ⟨symbol, name, kind, category, description, logo⟩
  parts r := (r.symbol, r.name, r.assetType, r.category, r.description, r.logoUrl, ())

def codec : Codec AssetRequest := record.codec

end AssetRequest
end RegistrySeeding
