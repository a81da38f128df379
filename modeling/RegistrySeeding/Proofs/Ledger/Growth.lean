import RegistrySeeding.Proofs.Ledger.Presence

/-! How a ledger may grow while records are seeded. Each of its lists is what it was at the start
and then keys that the records call for, none of them there before and none twice. Listed assets
only gain successors, so the identifier that a symbol stands for never changes. -/
namespace RegistrySeeding

def Appended {α κ : Type} (key : α → κ) (wanted : κ → Prop) (earlier later : List α) : Prop :=
  ∃ fresh, later = earlier ++ fresh ∧ (fresh.map key).Nodup ∧
    ∀ x ∈ fresh, key x ∉ earlier.map key ∧ wanted (key x)

section
variable {α κ : Type} {key : α → κ} {wanted : κ → Prop} {earlier later : List α}

theorem appendedRefl (key : α → κ) (wanted : κ → Prop) (earlier : List α) :
    Appended key wanted earlier earlier :=
  ⟨[], by simp, by simp, by simp⟩

theorem appendedOne (grown : Appended key wanted earlier later) {x : α}
    (absent : key x ∉ later.map key) (called : wanted (key x)) :
    Appended key wanted earlier (later ++ [x]) := by
  obtain ⟨fresh, rfl, unique, all⟩ := grown
  simp only [List.map_append, List.mem_append, not_or] at absent
  refine ⟨fresh ++ [x], by simp, ?_, ?_⟩
  · rw [List.map_append, List.nodup_append]
    refine ⟨unique, by simp, ?_⟩
    intro k member other single same
    have last : other = key x := by simpa using single
    exact absent.2 (last ▸ same ▸ member)
  · intro y member
    rcases List.mem_append.mp member with inside | last
    · exact all y inside
    · cases List.mem_singleton.mp last
      exact ⟨absent.1, called⟩

theorem appendedMono {called : κ → Prop} (grown : Appended key wanted earlier later)
    (weaker : ∀ k, wanted k → called k) : Appended key called earlier later := by
  obtain ⟨fresh, same, unique, all⟩ := grown
  exact ⟨fresh, same, unique, fun x member => ⟨(all x member).1, weaker _ (all x member).2⟩⟩

theorem appendedPrefix (grown : Appended key wanted earlier later) : earlier <+: later := by
  obtain ⟨fresh, same, _⟩ := grown
  exact ⟨fresh, same.symm⟩

theorem appendedKey (grown : Appended key wanted earlier later) {k : κ}
    (member : k ∈ later.map key) :
    k ∈ earlier.map key ∨ wanted k := by
  obtain ⟨fresh, rfl, _, all⟩ := grown
  rw [List.map_append] at member
  rcases List.mem_append.mp member with before | inside
  · exact Or.inl before
  · obtain ⟨x, here, rfl⟩ := List.mem_map.mp inside
    exact Or.inr (all x here).2

end

namespace Ledger

def idOf? (ledger : Ledger) (symbol : String) : Option String :=
  (ledger.assets.find? fun a => a.symbol == symbol).map (·.assetId)

theorem resolveListing (ledger : Ledger) (symbol : String) :
    (Index.ofListing ledger.assets).1.resolve symbol = ledger.idOf? symbol := by
  rw [Index.ofListing, Index.resolveExtend]
  simp [Index.resolve, idOf?]

theorem idOfStable {ledger next : Ledger} {symbol id : String}
    (assets : ledger.assets <+: next.assets) (found : ledger.idOf? symbol = some id) :
    next.idOf? symbol = some id := by
  obtain ⟨more, same⟩ := assets
  obtain ⟨a, first, rfl⟩ := Option.map_eq_some_iff.mp found
  rw [idOf?, ← same, List.find?_append, first]
  rfl

def Wanted (records : Records) (ledger : Ledger) : Submission → Prop
  | .chain r => ∃ c ∈ records.chains, c.chainType = r.chainId
  | .asset r => ∃ a ∈ records.assets, Text.blank a.symbol = false ∧ a.symbol = r.symbol
  | .deployment r =>
    ∃ d ∈ records.deployments, ledger.idOf? d.assetSymbol = some r.assetId ∧ d.chainId = r.chainId

structure Grown (records : Records) (initial ledger : Ledger) : Prop where
  chains : Appended id (fun chainId => ∃ c ∈ records.chains, c.chainType = chainId)
    initial.chains ledger.chains
  assets : Appended (·.symbol)
    (fun symbol => ∃ a ∈ records.assets, Text.blank a.symbol = false ∧ a.symbol = symbol)
    initial.assets ledger.assets
  deployments : Appended id
    (fun pair => ∃ d ∈ records.deployments,
      ledger.idOf? d.assetSymbol = some pair.1 ∧ d.chainId = pair.2)
    initial.deployments ledger.deployments

theorem grownRefl (records : Records) (ledger : Ledger) : Grown records ledger ledger :=
  ⟨appendedRefl _ _ _, appendedRefl _ _ _, appendedRefl _ _ _⟩

theorem grownEnter {records : Records} {initial ledger : Ledger} {s : Submission}
    (grown : Grown records initial ledger) (wanted : Wanted records ledger s)
    (absent : ledger.holds s = false) : Grown records initial (ledger.enter s) := by
  cases s with
  | chain r =>
    refine ⟨appendedOne grown.chains ?_ wanted, grown.assets, grown.deployments⟩
    simpa [holds] using absent
  | asset r =>
    refine ⟨grown.chains, appendedOne grown.assets ?_ wanted, ?_⟩
    · simpa [holds, hasSymbol] using absent
    · refine appendedMono grown.deployments ?_
      rintro pair ⟨d, member, found, same⟩
      exact ⟨d, member, idOfStable (List.prefix_append _ _) found, same⟩
  | deployment r =>
    refine ⟨grown.chains, grown.assets, appendedOne grown.deployments ?_ wanted⟩
    simpa [holds] using absent

theorem grownSubmit {records : Records} {initial ledger : Ledger} {s : Submission}
    (grown : Grown records initial ledger) (wanted : Wanted records ledger s) :
    Grown records initial (ledger.submit s).2 := by
  cases present : ledger.holds s with
  | true => rw [(submitHeld present).2]; exact grown
  | false => rw [(submitFresh present).2]; exact grownEnter grown wanted present

end Ledger
end RegistrySeeding
