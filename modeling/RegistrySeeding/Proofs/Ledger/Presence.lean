import RegistrySeeding.Proofs.Seed.CleanRun
import RegistrySeeding.Registry.Ledger

/-! What a ledger holds. A submission whose key is there is refused as a conflict and changes
nothing; any other is created and its key is there from then on. Keys are never lost. -/
namespace RegistrySeeding.Ledger

def holds (ledger : Ledger) : Submission → Bool
  | .chain r => ledger.chains.contains r.chainId
  | .asset r => ledger.hasSymbol r.symbol
  | .deployment r => ledger.deployments.contains (r.assetId, r.chainId)

def enter (ledger : Ledger) : Submission → Ledger
  | .chain r => { ledger with chains := ledger.chains ++ [r.chainId] }
  | .asset r => { ledger with assets := ledger.assets ++ [⟨ledger.nextId, r.symbol⟩] }
  | .deployment r => { ledger with deployments := ledger.deployments ++ [(r.assetId, r.chainId)] }

def answer (s : Submission) (ledger : Ledger) : Answer × Ledger := ledger.submit s

theorem registrySteady : registry.Steady answer Ledger.assets where
  submit _ _ := ⟨rfl, rfl⟩
  list _ := ⟨rfl, rfl⟩

theorem submitHeld {ledger : Ledger} {s : Submission} (held : ledger.holds s = true) :
    (ledger.submit s).1.verdict = .duplicate ∧ (ledger.submit s).2 = ledger := by
  cases s <;> simp only [holds] at held <;> rw [submit, if_pos held] <;> exact ⟨rfl, rfl⟩

theorem submitFresh {ledger : Ledger} {s : Submission} (fresh : ledger.holds s = false) :
    (ledger.submit s).1.verdict = .created ∧ (ledger.submit s).2 = ledger.enter s := by
  have absent : ¬ ledger.holds s = true := by simp [fresh]
  cases s <;> simp only [holds] at absent <;> rw [submit, if_neg absent] <;> exact ⟨rfl, rfl⟩

theorem hasSymbolIff {ledger : Ledger} {symbol : String} :
    ledger.hasSymbol symbol = true ↔ symbol ∈ ledger.assets.map (·.symbol) := by
  simp [hasSymbol]

theorem holdsEntered (ledger : Ledger) (s : Submission) : (ledger.enter s).holds s = true := by
  cases s <;> simp [enter, holds, hasSymbol]

theorem holdsSubmitted (ledger : Ledger) (s : Submission) : (ledger.submit s).2.holds s = true := by
  cases h : ledger.holds s with
  | true => rw [(submitHeld h).2, h]
  | false => rw [(submitFresh h).2, holdsEntered]

theorem holdsGrown {ledger next : Ledger} {s : Submission}
    (chains : ledger.chains <+: next.chains) (assets : ledger.assets <+: next.assets)
    (deployments : ledger.deployments <+: next.deployments) (held : ledger.holds s = true) :
    next.holds s = true := by
  cases s with
  | chain r => exact List.contains_iff_mem.mpr (chains.subset (List.contains_iff_mem.mp held))
  | asset r =>
    obtain ⟨a, member, same⟩ := List.any_eq_true.mp held
    exact List.any_eq_true.mpr ⟨a, assets.subset member, same⟩
  | deployment r =>
    exact List.contains_iff_mem.mpr (deployments.subset (List.contains_iff_mem.mp held))

theorem holdsKept {ledger : Ledger} {s : Submission} (t : Submission)
    (held : ledger.holds s = true) :
    (ledger.submit t).2.holds s = true :=
  holdsGrown (ledger.submitKeepsChains t) (ledger.submitKeepsAssets t)
    (ledger.submitKeepsDeployments t) held

end RegistrySeeding.Ledger
