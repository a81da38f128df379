import RegistrySeeding.Registry.Basic

/-! The uniqueness contract of the registry, over lists that only grow: an absent key is appended
and created, a present key is a conflict. Assets get numbered identifiers. -/
namespace RegistrySeeding

structure Ledger where
  chains : List String := []
  assets : List RegisteredAsset := []
  deployments : List (String × String) := []
  deriving DecidableEq, Repr

namespace Ledger

def nextId (ledger : Ledger) : String := "asset-" ++ toString (ledger.assets.length + 1)

def hasSymbol (ledger : Ledger) (symbol : String) : Bool :=
  ledger.assets.any fun a => a.symbol == symbol

def submit (ledger : Ledger) : Submission → Answer × Ledger
  | .chain r =>
    if ledger.chains.contains r.chainId then (.conflict "chain exists", ledger)
    else (.created none, { ledger with chains := ledger.chains ++ [r.chainId] })
  | .asset r =>
    if ledger.hasSymbol r.symbol then (.conflict "asset exists", ledger)
    else
      (.created (some ledger.nextId),
        { ledger with assets := ledger.assets ++ [⟨ledger.nextId, r.symbol⟩] })
  | .deployment r =>
    let key := (r.assetId, r.chainId)
    if ledger.deployments.contains key then (.conflict "deployment exists", ledger)
    else (.created none, { ledger with deployments := ledger.deployments ++ [key] })

theorem submitKeepsChains (ledger : Ledger) (s : Submission) :
    ledger.chains <+: (ledger.submit s).2.chains := by
  cases s <;> simp only [submit] <;> split <;> simp

theorem submitKeepsAssets (ledger : Ledger) (s : Submission) :
    ledger.assets <+: (ledger.submit s).2.assets := by
  cases s <;> simp only [submit] <;> split <;> simp

theorem submitKeepsDeployments (ledger : Ledger) (s : Submission) :
    ledger.deployments <+: (ledger.submit s).2.deployments := by
  cases s <;> simp only [submit] <;> split <;> simp

def registry : Registry Ledger where
  submit s ledger :=
    let (answer, next) := ledger.submit s
    .plain (.ok answer) next
  list ledger := .plain (.ok ledger.assets) ledger

end Ledger
end RegistrySeeding
