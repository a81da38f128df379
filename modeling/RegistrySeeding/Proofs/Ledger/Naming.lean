import RegistrySeeding.Proofs.Ledger.FreshKeys

/-! Identifiers and symbols as names of the same assets. Where neither comes twice, each stands for
exactly one of the other; numbering the symbols of a list keeps it so. -/
namespace RegistrySeeding

theorem foundByKey {α κ : Type} [DecidableEq κ] {key : α → κ} {xs : List α}
    (apart : (xs.map key).Nodup) {k : κ} {x : α} :
    xs.find? (fun y => key y == k) = some x ↔ x ∈ xs ∧ key x = k := by
  induction xs with
  | nil => simp
  | cons head rest ih =>
    obtain ⟨absent, apart⟩ := List.nodup_cons.mp (List.map_cons ▸ apart)
    rw [List.find?_cons]
    by_cases same : key head = k
    · subst same
      have alone (y : α) (inside : y ∈ rest) : key y ≠ key head := by
        intro equal
        exact absent (equal ▸ List.mem_map_of_mem inside)
      constructor
      · intro found
        simp only [beq_self_eq_true, Option.some.injEq] at found
        exact found ▸ ⟨List.mem_cons_self, rfl⟩
      · rintro ⟨member, equal⟩
        rcases List.mem_cons.mp member with rfl | inside
        · simp
        · exact absurd equal (alone x inside)
    · have other : (key head == k) = false := by simpa using same
      rw [other, ih apart, List.mem_cons]
      constructor
      · rintro ⟨inside, equal⟩
        exact ⟨.inr inside, equal⟩
      · rintro ⟨rfl | inside, equal⟩
        · exact absurd equal same
        · exact ⟨inside, equal⟩

namespace Ledger

def symbolOf? (ledger : Ledger) (id : String) : Option String :=
  (ledger.assets.find? fun a => a.assetId == id).map (·.symbol)

def placed (ledger : Ledger) : List (Option String × String) :=
  ledger.deployments.map fun d => (ledger.symbolOf? d.1, d.2)

structure Named (ledger : Ledger) : Prop where
  ids : (ledger.assets.map (·.assetId)).Nodup
  symbols : (ledger.assets.map (·.symbol)).Nodup

section
variable {ledger : Ledger} {symbol id : String}

theorem idOfIff (named : ledger.Named) :
    ledger.idOf? symbol = some id ↔ ⟨id, symbol⟩ ∈ ledger.assets := by
  rw [idOf?, Option.map_eq_some_iff]
  constructor
  · rintro ⟨a, found, rfl⟩
    obtain ⟨inside, rfl⟩ := (foundByKey named.symbols).mp found
    exact inside
  · intro inside
    exact ⟨_, (foundByKey named.symbols).mpr ⟨inside, rfl⟩, rfl⟩

theorem symbolOfIff (named : ledger.Named) :
    ledger.symbolOf? id = some symbol ↔ ⟨id, symbol⟩ ∈ ledger.assets := by
  rw [symbolOf?, Option.map_eq_some_iff]
  constructor
  · rintro ⟨a, found, rfl⟩
    obtain ⟨inside, rfl⟩ := (foundByKey named.ids).mp found
    exact inside
  · intro inside
    exact ⟨_, (foundByKey named.ids).mpr ⟨inside, rfl⟩, rfl⟩

theorem symbolOfId (named : ledger.Named) (found : ledger.idOf? symbol = some id) :
    ledger.symbolOf? id = some symbol :=
  (symbolOfIff named).mpr ((idOfIff named).mp found)

end

theorem numeralApart {m n : Nat} (same : "asset-" ++ toString m = "asset-" ++ toString n) :
    m = n := by
  have digits : Nat.toDigits 10 m = Nat.toDigits 10 n := by
    have texts := congrArg String.toList same
    simpa [Nat.toString_eq_ofList_toDigits] using texts
  rw [← Nat.ofDigitChars_ten_toDigits (n := m), digits, Nat.ofDigitChars_ten_toDigits]

theorem numberedIds (start : Nat) (symbols : List String) :
    (numbered start symbols).map (·.assetId) =
      (List.range' (start + 1) symbols.length).map fun n => "asset-" ++ toString n := by
  refine List.ext_getElem? fun i => ?_
  by_cases inside : i < symbols.length
  · simp [numbered, inside, Nat.add_right_comm]
  · simp [numbered, inside]

theorem numberedNamed {ledger : Ledger} {start : Nat} {symbols : List String}
    (entered : ledger.assets = numbered start symbols) (apart : symbols.Nodup) : ledger.Named := by
  constructor
  · rw [entered, numberedIds, List.Nodup, List.pairwise_map]
    refine List.Pairwise.imp ?_ (List.nodup_range' (s := start + 1) (n := symbols.length))
    intro m n different same
    exact different (numeralApart same)
  · rwa [entered, numberedSymbols]

end Ledger
end RegistrySeeding
