import RegistrySeeding.Json.Record

/-! A contract deployment as the record source describes it, and the registry request made of
it once the identifier of its asset is known. -/
namespace RegistrySeeding
open Json (Codec)

def zeroAddress : String := "0x0000000000000000000000000000000000000000"

def nativeAddress : String := "native"

def registryAddress (address : String) (isNative : Bool) : String :=
  if isNative && address == zeroAddress then nativeAddress else address

structure Deployment where
  assetSymbol : String
  chainId : String
  contractAddress : String
  decimals : UInt32
  isNative : Bool
  deriving DecidableEq, Repr

structure DeploymentRequest where
  assetId : String
  chainId : String
  contractAddress : String
  decimals : UInt32
  isNative : Bool
  deriving DecidableEq, Repr

namespace Deployment

def record : Json.Record Deployment where
  title := "DeploymentCandidate"
  fields :=
    .cons { name := "asset_symbol", codec := Codec.string } <|
    .cons { name := "chain_id", codec := Codec.string } <|
    .cons { name := "contract_address", codec := Codec.string } <|
    .cons { name := "decimals", codec := Codec.uint32 } <|
    .cons { name := "is_native", codec := Codec.bool } .nil
  make := fun (symbol, chain, address, decimals, native, ()) =>
    ⟨symbol, chain, address, decimals, native⟩
  parts d := (d.assetSymbol, d.chainId, d.contractAddress, d.decimals, d.isNative, ())

def codec : Codec Deployment := record.codec

def key (d : Deployment) : String := d.assetSymbol ++ "@" ++ d.chainId

def request (d : Deployment) (assetId : String) : DeploymentRequest :=
  ⟨assetId, d.chainId, registryAddress d.contractAddress d.isNative, d.decimals, d.isNative⟩

end Deployment

namespace DeploymentRequest

def record : Json.Record DeploymentRequest where
  title := "CreateDeploymentRequest"
  fields :=
    .cons { name := "assetId", codec := Codec.string } <|
    .cons { name := "chainId", codec := Codec.string } <|
    .cons { name := "contractAddress", codec := Codec.string } <|
    .cons { name := "decimals", codec := Codec.uint32 } <|
    .cons { name := "isNative", codec := Codec.bool } .nil
  make := fun (asset, chain, address, decimals, native, ()) =>
    ⟨asset, chain, address, decimals, native⟩
  parts r := (r.assetId, r.chainId, r.contractAddress, r.decimals, r.isNative, ())

def codec : Codec DeploymentRequest := record.codec

end DeploymentRequest
end RegistrySeeding
