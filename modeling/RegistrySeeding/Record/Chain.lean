import RegistrySeeding.Json.Record
import RegistrySeeding.Text.Blank

/-! A blockchain network as the record source describes it, and the registry request made of it.
The registry knows a chain by its type, messages know it by its identifier. -/
namespace RegistrySeeding
open Json (Codec)

structure Chain where
  chainId : String
  name : String
  chainType : String
  nativeAssetSymbol : String
  rpcUrls : List String
  blockExplorerUrl : String
  deriving DecidableEq, Repr

structure ChainRequest where
  chainId : String
  name : String
  blockExplorerUrl : Option String
  deriving DecidableEq, Repr

namespace Chain

def record : Json.Record Chain where
  title := "ChainCandidate"
  fields :=
    .cons { name := "chain_id", codec := Codec.string } <|
    .cons { name := "name", codec := Codec.string } <|
    .cons { name := "chain_type", codec := Codec.string } <|
    .cons { name := "native_asset_symbol", codec := Codec.string } <|
    .cons { name := "rpc_urls", codec := Codec.list Codec.string } <|
    .cons { name := "block_explorer_url", codec := Codec.string } .nil
  make := fun (id, name, kind, native, urls, explorer, ()) =>
    ⟨id, name, kind, native, urls, explorer⟩
  parts c :=
    (c.chainId, c.name, c.chainType, c.nativeAssetSymbol, c.rpcUrls, c.blockExplorerUrl, ())

def codec : Codec Chain := record.codec

def key (c : Chain) : String := c.chainId

def request (c : Chain) : ChainRequest :=
  ⟨c.chainType, c.name, Text.nonBlank c.blockExplorerUrl⟩

end Chain

namespace ChainRequest

def record : Json.Record ChainRequest where
  title := "CreateChainRequest"
  fields :=
    .cons { name := "chainId", codec := Codec.string } <|
    .cons { name := "name", codec := Codec.string } <|
    .cons (.optional "blockExplorerUrl" Codec.string) .nil
  make := fun (id, name, explorer, ()) => ⟨id, name, explorer⟩
  parts r := (r.chainId, r.name, r.blockExplorerUrl, ())

def codec : Codec ChainRequest := record.codec

end ChainRequest
end RegistrySeeding
