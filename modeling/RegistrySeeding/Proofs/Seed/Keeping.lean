import RegistrySeeding.Proofs.Ledger.Growth

/-! What every run keeps, however it goes. The world is known by the ledger in it; only
submissions may change that, each by its default effect or not at all, whatever they answer. -/
namespace RegistrySeeding
variable {σ : Type}

namespace Activity
variable {ε α β : Type} {kept : σ → Prop}

def Keeps (kept : σ → Prop) (work : Activity σ ε α) (gives : α → σ → Prop) : Prop :=
  ∀ cancelled world, kept world → kept (work cancelled world).world ∧
    ∀ x, (work cancelled world).result = .ok x → gives x (work cancelled world).world

theorem keepsPure (x : α) : (pure x : Activity σ ε α).Keeps kept fun y _ => y = x := by
  intro cancelled world holds
  exact ⟨holds, fun y same => (Except.ok.inj same).symm⟩

theorem keepsLog (line : Line) : (log line : Activity σ ε Unit).Keeps kept fun _ _ => True :=
  fun _ _ holds => ⟨holds, fun _ _ => trivial⟩

theorem keepsAnnounce (event : Event) :
    (announce event : Activity σ ε Unit).Keeps kept fun _ _ => True :=
  fun _ _ holds => ⟨holds, fun _ _ => trivial⟩

theorem keepsWeaken {work : Activity σ ε α} {gives weaker : α → σ → Prop}
    (keeps : work.Keeps kept gives) (less : ∀ x world, gives x world → weaker x world) :
    work.Keeps kept weaker := by
  intro cancelled world holds
  obtain ⟨after, value⟩ := keeps cancelled world holds
  exact ⟨after, fun x same => less x _ (value x same)⟩

theorem keepsBind {work : Activity σ ε α} {next : α → Activity σ ε β} {gives : α → σ → Prop}
    {comes : β → σ → Prop} (first : work.Keeps kept gives)
    (second : ∀ x cancelled world, kept world → gives x world →
      kept (next x cancelled world).world ∧
        ∀ y, (next x cancelled world).result = .ok y → comes y (next x cancelled world).world) :
    (work >>= next).Keeps kept comes := by
  intro cancelled world holds
  obtain ⟨after, value⟩ := first cancelled world holds
  change kept (andThen work next cancelled world).world ∧ ∀ y,
    (andThen work next cancelled world).result = .ok y →
      comes y (andThen work next cancelled world).world
  simp only [andThen]
  cases came : (work cancelled world).result with
  | error e => exact ⟨after, by simp⟩
  | ok x => exact second x _ _ after (value x came)

theorem keepsThen {work : Activity σ ε α} {next : α → Activity σ ε β} {gives : α → σ → Prop}
    {comes : β → σ → Prop} (first : work.Keeps kept gives)
    (second : ∀ x, (next x).Keeps kept comes) :
    (work >>= next).Keeps kept comes :=
  keepsBind first fun x cancelled world holds _ => second x cancelled world holds

theorem keepsMapFailure {ε' : Type} {work : Activity σ ε α} {gives : α → σ → Prop} (f : ε → ε')
    (inner : work.Keeps kept gives) : (mapFailure f work).Keeps kept gives := by
  intro cancelled world holds
  obtain ⟨after, value⟩ := inner cancelled world holds
  refine ⟨after, fun x same => value x ?_⟩
  simp only [mapFailure] at same
  cases came : (work cancelled world).result with
  | error e => rw [came] at same; cases same
  | ok y => rw [came] at same; cases same; rfl

theorem keepsPerform {call : Call} {exchange : σ → Exchange σ α} {gives : α → σ → Prop}
    (one : ∀ world, kept world → kept (exchange world).world ∧ ∀ x requested,
      (exchange world).reply = .answered (.ok x) requested → gives x (exchange world).world) :
    (perform call exchange).Keeps kept gives := by
  intro cancelled world holds
  obtain ⟨after, value⟩ := one world holds
  simp only [perform]
  cases came : (exchange world).reply with
  | answered result requested =>
    refine ⟨after, fun x same => value x requested ?_⟩
    rw [came, ← same]
  | abandoned => exact ⟨after, by simp⟩

theorem keepsUnlessCancelled {interrupts : Interrupts σ} {work : Activity σ Error α}
    {gives : α → σ → Prop} (check : ∀ world, kept world → kept (interrupts.check world).2)
    (inner : work.Keeps kept gives) : (unlessCancelled interrupts work).Keeps kept gives := by
  intro cancelled world holds
  have after := check world holds
  simp only [unlessCancelled]
  split
  · exact ⟨after, by simp⟩
  · exact inner false _ after

theorem keepsAtStep {interrupts : Interrupts σ} {work : Activity σ Error α} {gives : α → σ → Prop}
    (step : Step) (check : ∀ world, kept world → kept (interrupts.check world).2)
    (inner : work.Keeps kept gives) : (atStep interrupts step work).Keeps kept gives :=
  keepsMapFailure _ (keepsUnlessCancelled check inner)

end Activity

def Exchange.Offers {α : Type} (ledger : σ → Ledger) (exchange : σ → Exchange σ α) (records : α) :
    Prop :=
  ∀ world, ledger (exchange world).world = ledger world ∧
    ∀ found requested, (exchange world).reply = .answered (.ok found) requested → found = records

/-- Anything may be answered to a submission, by any ending of the call, and with or without its
effect. A listing that comes back is the ledger's. -/
structure Unreliable (ledger : σ → Ledger) (records : Records) (source : Source σ)
    (registry : Registry σ) (interrupts : Interrupts σ) : Prop where
  chains : Exchange.Offers ledger source.chains records.chains
  assets : Exchange.Offers ledger source.assets records.assets
  deployments : Exchange.Offers ledger source.deployments records.deployments
  submit (s : Submission) (world : σ) : ledger (registry.submit s world).world = ledger world ∨
    ledger (registry.submit s world).world = ((ledger world).submit s).2
  list (world : σ) : ledger (registry.list world).world = ledger world ∧
    ∀ listing requested, (registry.list world).reply = .answered (.ok listing) requested →
      listing = (ledger world).assets
  check (world : σ) : ledger (interrupts.check world).2 = ledger world

section
variable {ledger : σ → Ledger} {records : Records} {source : Source σ} {registry : Registry σ}
  {interrupts : Interrupts σ} {kept : Ledger → Prop}
open Activity

theorem checkKeeps (served : Unreliable ledger records source registry interrupts) (world : σ)
    (holds : kept (ledger world)) : kept (ledger (interrupts.check world).2) := by
  rw [served.check world]
  exact holds

theorem judgeKeeps (served : Unreliable ledger records source registry interrupts) (item : Item)
    (submits : ∀ s, item.work = .ok s → ∀ l, kept l → kept (l.submit s).2) :
    (Stage.judge registry item.work).Keeps (fun world => kept (ledger world)) fun _ _ => True := by
  cases work : item.work with
  | error reason => exact keepsWeaken (keepsPure _) fun _ _ _ => trivial
  | ok s =>
    have called : (perform (.submit s) (registry.submit s)).Keeps (fun world => kept (ledger world))
        fun _ _ => True := by
      refine keepsPerform fun world holds => ⟨?_, fun _ _ _ => trivial⟩
      rcases served.submit s world with same | effect
      · rw [same]; exact holds
      · rw [effect]; exact submits s work _ holds
    exact keepsThen called fun answer => keepsWeaken (keepsPure _) fun _ _ _ => trivial

theorem submitAllKeeps (served : Unreliable ledger records source registry interrupts)
    (items : List Item) (tally : Tally)
    (submits : ∀ item ∈ items, ∀ s, item.work = .ok s → ∀ l, kept l → kept (l.submit s).2) :
    (Stage.submitAll registry interrupts items tally).Keeps (fun world => kept (ledger world))
      fun _ _ => True := by
  induction items generalizing tally with
  | nil => exact keepsWeaken (keepsPure _) fun _ _ _ => trivial
  | cons item rest ih =>
    refine keepsThen (keepsLog _) fun _ => ?_
    refine keepsThen (keepsUnlessCancelled (fun world => checkKeeps served world)
      (judgeKeeps served item (submits item List.mem_cons_self))) fun verdict => ?_
    refine keepsThen (keepsLog _) fun _ => keepsThen (keepsAnnounce _) fun _ => ?_
    exact ih _ fun i inside => submits i (List.mem_cons_of_mem _ inside)

theorem seedKeeps (kept : Ledger → Prop)
    (served : Unreliable ledger records source registry interrupts) (stage : Stage)
    (items : List Item)
    (submits : ∀ item ∈ items, ∀ s, item.work = .ok s → ∀ l, kept l → kept (l.submit s).2) :
    (Stage.seed registry interrupts stage items).Keeps (fun world => kept (ledger world))
      fun _ _ => True := by
  refine keepsThen (keepsLog _) fun _ => keepsThen (keepsAnnounce _) fun _ => ?_
  refine keepsThen (submitAllKeeps served items _ submits) fun tally => ?_
  refine keepsThen (keepsLog _) fun _ => keepsThen (keepsAnnounce _) fun _ => ?_
  exact keepsWeaken (keepsPure _) fun _ _ _ => trivial

theorem loadKeeps {α : Type} {exchange : σ → Exchange σ α} {found : α} (kept : Ledger → Prop)
    (step : Step) (stage : Stage) (served : Unreliable ledger records source registry interrupts)
    (offers : Exchange.Offers ledger exchange found) :
    (atStep interrupts step (perform (.load stage) exchange)).Keeps
      (fun world => kept (ledger world)) fun x _ => x = found := by
  refine keepsAtStep step (fun world => checkKeeps served world) (keepsPerform ?_)
  intro world holds
  obtain ⟨same, answered⟩ := offers world
  exact ⟨by rw [same]; exact holds, answered⟩

def Index.Agrees (index : Index) (ledger : Ledger) : Prop :=
  ∀ symbol id, index.resolve symbol = some id → ledger.idOf? symbol = some id

theorem indexKeeps (served : Unreliable ledger records source registry interrupts) :
    registry.index.Keeps (fun world => kept (ledger world))
      fun index world => index.Agrees (ledger world) := by
  have listed : (perform .list registry.list).Keeps (fun world => kept (ledger world))
      fun listing world => listing = (ledger world).assets := by
    refine keepsPerform fun world holds => ?_
    obtain ⟨same, truthful⟩ := served.list world
    rw [same]
    exact ⟨holds, truthful⟩
  refine keepsBind listed fun listing cancelled world holds truthful =>
    ⟨holds, fun index same => ?_⟩
  have built : (Index.ofListing listing).1 = index := Except.ok.inj same
  intro symbol id found
  rw [← built, truthful, Ledger.resolveListing] at found
  exact found

end
end RegistrySeeding
