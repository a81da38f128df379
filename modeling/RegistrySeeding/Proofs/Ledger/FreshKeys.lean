import RegistrySeeding.Proofs.Ledger.Dealing
import RegistrySeeding.Proofs.Ledger.Growth
import RegistrySeeding.Proofs.Seed.Locality

/-! What one stage adds to a ledger. Each candidate is filed under a key or has none; a key that is
neither held nor filed earlier in the batch is created and appended, any other is a duplicate. -/
namespace RegistrySeeding

section
variable {κ : Type} [DecidableEq κ]

def fresh (held keys : List κ) : List κ := (keys.filter fun k => k ∉ held).eraseDups

theorem freshNil (held : List κ) : fresh held [] = [] := rfl

theorem freshHeld {held : List κ} {k : κ} (inside : k ∈ held) (rest : List κ) :
    fresh held (k :: rest) = fresh held rest := by
  simp [fresh, inside]

theorem freshCons {held : List κ} {k : κ} (absent : k ∉ held) (rest : List κ) :
    fresh held (k :: rest) = k :: fresh (held ++ [k]) rest := by
  have others : (rest.filter fun x => x ∉ held).filter (fun x => !x == k) =
      rest.filter fun x => x ∉ held ++ [k] := by
    rw [List.filter_filter]
    refine List.filter_congr fun x _ => ?_
    by_cases same : x = k <;> simp [same, absent]
  rw [fresh, List.filter_cons_of_pos (by simpa using absent), List.eraseDups_cons, others]
  rfl

theorem freshAppend (held early late : List κ) :
    fresh held (early ++ late) = fresh held early ++ fresh (held ++ fresh held early) late := by
  induction early generalizing held with
  | nil => rw [freshNil, List.append_nil]; rfl
  | cons k rest ih =>
    rw [List.cons_append]
    by_cases inside : k ∈ held
    · rw [freshHeld inside, freshHeld inside, ih]
    · rw [freshCons inside, freshCons inside, ih, List.append_assoc]
      rfl

theorem freshMem {held keys : List κ} {k : κ} : k ∈ fresh held keys ↔ k ∈ keys ∧ k ∉ held := by
  simp [fresh]

def fate (held : List κ) : Except String κ → Verdict
  | .error reason => .failed reason
  | .ok k => if k ∈ held then .duplicate else .created

theorem fateSame {held same : List κ} (members : ∀ k, k ∈ held ↔ k ∈ same)
    (filing : Except String κ) : fate held filing = fate same filing := by
  cases filing with
  | error reason => rfl
  | ok k => simp [fate, members]

end

section
variable {α κ : Type}

def filed (filing : α → Except String κ) (xs : List α) : List κ :=
  xs.filterMap fun x => (filing x).toOption

inductive Item.Files (held : Ledger → List κ) (item : Item) : Except String κ → Prop where
  | nowhere {reason} (work : item.work = .error reason) : Files held item (.error reason)
  | under {s k} (work : item.work = .ok s) (found : ∀ l, l.holds s = true ↔ k ∈ held l)
      (entered : ∀ l, held (l.enter s) = held l ++ [k]) : Files held item (.ok k)

theorem filedCons (filing : α → Except String κ) (x : α) (rest : List α) :
    filed filing (x :: rest) = (filing x).toOption.toList ++ filed filing rest := by
  unfold filed
  rw [List.filterMap_cons]
  cases filing x <;> rfl

namespace Ledger
variable [DecidableEq κ] {held : Ledger → List κ} {item : α → Item} {filing : α → Except String κ}

theorem dealFiled {item : Item} {filing : Except String κ} (files : item.Files held filing)
    (ledger : Ledger) :
    (item.deal answer ledger).1 = fate (held ledger) filing ∧
      held (item.deal answer ledger).2 = held ledger ++ fresh (held ledger) filing.toOption.toList := by
  cases files with
  | nowhere work =>
    rw [Item.deal, work]
    exact ⟨rfl, (List.append_nil _).symm⟩
  | @under s k work found entered =>
    rw [Item.deal, work]
    by_cases inside : k ∈ held ledger
    · obtain ⟨verdict, same⟩ := submitHeld ((found ledger).mpr inside)
      simp [answer, verdict, same, fate, Except.toOption, freshHeld, freshNil, inside]
    · have absent : ledger.holds s = false := by
        rw [Bool.eq_false_iff]
        exact fun present => inside ((found ledger).mp present)
      obtain ⟨verdict, same⟩ := submitFresh absent
      simp [answer, verdict, same, entered, fate, Except.toOption, freshCons, freshNil, inside]

theorem createdFate (held : List κ) (filing : Except String κ) :
    (if (fate held filing).isCreated then 1 else 0) =
      (fresh held filing.toOption.toList).length := by
  cases filing with
  | error reason => rfl
  | ok k =>
    by_cases inside : k ∈ held
    · simp [fate, Except.toOption, freshHeld, freshNil, inside, Verdict.isCreated]
    · simp [fate, Except.toOption, freshCons, freshNil, inside, Verdict.isCreated]

theorem afterFiled (files : ∀ x, (item x).Files held (filing x)) (ledger : Ledger) (xs : List α) :
    held (after answer ledger (xs.map item)) =
      held ledger ++ fresh (held ledger) (filed filing xs) ∧
    (verdicts answer ledger (xs.map item)).countP (fun n => n.2.isCreated) =
      (fresh (held ledger) (filed filing xs)).length := by
  induction xs generalizing ledger with
  | nil => exact ⟨(List.append_nil _).symm, rfl⟩
  | cons x rest ih =>
    obtain ⟨verdict, kept⟩ := dealFiled (files x) ledger
    -- What the head enters is held when the rest is dealt with, and is fresh there no more.
    obtain ⟨later, count⟩ := ih ((item x).deal answer ledger).2
    rw [kept] at later count
    rw [filedCons, freshAppend, ← List.append_assoc, List.length_append, ← createdFate, ← count,
      ← verdict, ← later, List.map_cons, verdicts, List.countP_cons, Nat.add_comm]
    exact ⟨rfl, rfl⟩

theorem verdictFiled (files : ∀ x, (item x).Files held (filing x)) (ledger : Ledger)
    (early late : List α) (x : α) :
    (verdicts answer ledger ((early ++ x :: late).map item))[early.length]? =
      some ((item x).key, fate (held ledger ++ filed filing early) (filing x)) := by
  have members (k : κ) : k ∈ held (after answer ledger (early.map item)) ↔
      k ∈ held ledger ++ filed filing early := by
    rw [(afterFiled files ledger early).1, List.mem_append, List.mem_append, freshMem]
    by_cases inside : k ∈ held ledger <;> simp [inside]
  have here := verdictAt answer ledger (early.map item) (late.map item) (item x)
  rw [List.length_map] at here
  rw [List.map_append, List.map_cons, here, (dealFiled (files x) _).1, fateSame members]

end Ledger
end

def Chain.filing (c : Chain) : Except String String := .ok c.chainType

def Asset.filing (a : Asset) : Except String String :=
  if Text.blank a.symbol then
    .error ("asset symbol must not be empty (source id '" ++ a.id ++ "')")
  else .ok a.symbol

def Deployment.filing (ledger : Ledger) (d : Deployment) : Except String (String × String) :=
  match ledger.idOf? d.assetSymbol with
  | some id => .ok (id, d.chainId)
  | none => .error assetNotFound

theorem Chain.itemFiles (c : Chain) : c.item.Files Ledger.chains c.filing :=
  .under rfl (fun _ => List.contains_iff_mem) fun _ => rfl

theorem Asset.itemFiles (a : Asset) :
    a.item.Files (fun ledger => ledger.assets.map (·.symbol)) a.filing := by
  unfold Asset.filing
  split
  · rename_i blank
    exact .nowhere (by simp [Asset.item, Asset.request, blank, Except.map])
  · rename_i shown
    refine .under (s := .asset ⟨a.symbol, a.name, a.kind, a.category.bind Text.nonBlank,
      a.description.bind Text.nonBlank, a.logoUrl.bind Text.nonBlank⟩) ?_
      (fun _ => Ledger.hasSymbolIff) fun _ => ?_
    · simp [Asset.item, Asset.request, shown, Except.map]
    · simp [Ledger.enter]

theorem Deployment.itemFiles {index : Index} {ledger : Ledger} (d : Deployment)
    (resolves : ∀ symbol, index.resolve symbol = ledger.idOf? symbol) :
    (d.item index).Files Ledger.deployments (d.filing ledger) := by
  unfold Deployment.filing
  cases found : ledger.idOf? d.assetSymbol with
  | none => exact .nowhere (by simp [Deployment.item, resolves, found])
  | some id =>
    exact .under (s := .deployment (d.request id)) (by simp [Deployment.item, resolves, found])
      (fun _ => List.contains_iff_mem) fun _ => rfl

namespace Ledger

def numbered (start : Nat) (symbols : List String) : List RegisteredAsset :=
  symbols.mapIdx fun i symbol => ⟨"asset-" ++ toString (start + i + 1), symbol⟩

theorem numberedLength (start : Nat) (symbols : List String) :
    (numbered start symbols).length = symbols.length := by
  rw [numbered, List.length_mapIdx]

theorem numberedConcat (start : Nat) (symbols : List String) (symbol : String) :
    numbered start (symbols ++ [symbol]) = numbered start symbols ++
      [⟨"asset-" ++ toString (start + symbols.length + 1), symbol⟩] := by
  rw [numbered, List.mapIdx_concat]
  rfl

theorem numberedSymbols (start : Nat) (symbols : List String) :
    (numbered start symbols).map (·.symbol) = symbols := by
  refine List.ext_getElem? fun i => ?_
  rw [List.getElem?_map, numbered, List.getElem?_mapIdx]
  cases symbols[i]? <;> rfl

theorem submitAssets (ledger : Ledger) (s : Submission) :
    (ledger.submit s).2.assets = ledger.assets ∨ ∃ r, s = .asset r ∧
      (ledger.submit s).2.assets = ledger.assets ++ [⟨ledger.nextId, r.symbol⟩] := by
  cases present : ledger.holds s with
  | true => exact .inl (congrArg assets (submitHeld present).2)
  | false =>
    rw [(submitFresh present).2]
    cases s with
    | chain r => exact .inl rfl
    | asset r => exact .inr ⟨r, rfl, rfl⟩
    | deployment r => exact .inl rfl

theorem afterNumbered (ledger : Ledger) (items : List Item) : ∃ symbols,
    (after answer ledger items).assets =
      ledger.assets ++ numbered ledger.assets.length symbols := by
  have step (l : Ledger) (s : Submission)
      (so : ∃ symbols, l.assets = ledger.assets ++ numbered ledger.assets.length symbols) :
      ∃ symbols, (l.submit s).2.assets =
        ledger.assets ++ numbered ledger.assets.length symbols := by
    obtain ⟨symbols, same⟩ := so
    rcases submitAssets l s with still | ⟨r, _, entered⟩
    · exact ⟨symbols, still.trans same⟩
    · refine ⟨symbols ++ [r.symbol], ?_⟩
      rw [entered, numberedConcat, nextId, same, List.length_append, numberedLength,
        List.append_assoc]
  exact afterKept answer (fun _ _ s _ l so => step l s so) ⟨[], (List.append_nil _).symm⟩

theorem afterEntered (ledger : Ledger) (batch : List Asset) :
    (after answer ledger (batch.map Asset.item)).assets = ledger.assets ++
      numbered ledger.assets.length
        (fresh (ledger.assets.map (·.symbol)) (filed Asset.filing batch)) := by
  obtain ⟨symbols, entered⟩ := afterNumbered ledger (batch.map Asset.item)
  have kept := (afterFiled Asset.itemFiles ledger batch).1
  rw [entered, List.map_append, numberedSymbols, List.append_cancel_left_eq] at kept
  rw [entered, kept]

theorem submitElsewhere (ledger : Ledger) (s : Submission) :
    (s.stage ≠ .chains → (ledger.submit s).2.chains = ledger.chains) ∧
    (s.stage ≠ .assets → (ledger.submit s).2.assets = ledger.assets) ∧
    (s.stage ≠ .deployments → (ledger.submit s).2.deployments = ledger.deployments) := by
  cases present : ledger.holds s with
  | true =>
    rw [(submitHeld present).2]
    exact ⟨fun _ => rfl, fun _ => rfl, fun _ => rfl⟩
  | false =>
    rw [(submitFresh present).2]
    cases s with
    | chain r => exact ⟨fun own => absurd rfl own, fun _ => rfl, fun _ => rfl⟩
    | asset r => exact ⟨fun _ => rfl, fun own => absurd rfl own, fun _ => rfl⟩
    | deployment r => exact ⟨fun _ => rfl, fun _ => rfl, fun own => absurd rfl own⟩

theorem afterElsewhere {stage : Stage} {items : List Item}
    (belong : ∀ item ∈ items, item.Belongs stage) (ledger : Ledger) :
    (stage ≠ .chains → (after answer ledger items).chains = ledger.chains) ∧
    (stage ≠ .assets → (after answer ledger items).assets = ledger.assets) ∧
    (stage ≠ .deployments → (after answer ledger items).deployments = ledger.deployments) := by
  have own {item : Item} (inside : item ∈ items) {s : Submission} (work : item.work = .ok s) :
      s.stage = stage := belong item inside s work
  have kept {β : Type} (part : Ledger → β)
      (step : ∀ l s, s.stage = stage → part (l.submit s).2 = part l) :
      part (after answer ledger items) = part ledger :=
    afterKept answer (fun _ inside s work l so => (step l s (own inside work)).trans so) rfl
  exact ⟨fun other => kept chains fun l s own => (submitElsewhere l s).1 (own ▸ other),
    fun other => kept assets fun l s own => (submitElsewhere l s).2.1 (own ▸ other),
    fun other => kept deployments fun l s own => (submitElsewhere l s).2.2 (own ▸ other)⟩

end Ledger
end RegistrySeeding
