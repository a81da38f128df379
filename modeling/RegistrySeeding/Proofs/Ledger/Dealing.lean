import RegistrySeeding.Proofs.Ledger.Presence
import RegistrySeeding.Proofs.Seed.Counting

/-! Candidates dealt with by a ledger. It fails no submission, so the failures of a stage are the
candidates that have no request. Afterwards it holds every submission of the stage, and a stage
whose submissions it holds already changes nothing and creates nothing. -/
namespace RegistrySeeding

namespace Item

def Held (ledger : Ledger) (item : Item) : Prop :=
  ∀ s, item.work = .ok s → ledger.holds s = true

def rejection? (stage : Stage) (item : Item) : Option ItemFailure :=
  match item.work with
  | .error reason => some ⟨stage, item.key, reason⟩
  | .ok _ => none

theorem dealHeld {ledger : Ledger} {item : Item} (held : item.Held ledger) :
    (item.deal Ledger.answer ledger).2 = ledger ∧
      (item.deal Ledger.answer ledger).1.isCreated = false := by
  cases work : item.work with
  | error reason => simp [deal, work, Verdict.isCreated]
  | ok s =>
    have same := Ledger.submitHeld (held s work)
    simp [deal, work, Ledger.answer, same, Verdict.isCreated]

theorem dealFailure (stage : Stage) (ledger : Ledger) (item : Item) :
    (item.deal Ledger.answer ledger).1.failure? stage item.key = item.rejection? stage := by
  cases work : item.work with
  | error reason => simp [deal, work, rejection?, Verdict.failure?]
  | ok s =>
    simp only [deal, work, rejection?, Ledger.answer]
    cases present : ledger.holds s with
    | true => rw [(Ledger.submitHeld present).1]; rfl
    | false => rw [(Ledger.submitFresh present).1]; rfl

end Item

namespace Ledger

theorem afterKeeps (ledger : Ledger) (items : List Item) (s : Submission)
    (held : ledger.holds s = true) : (after answer ledger items).holds s = true := by
  have step : ∀ item ∈ items, ∀ t, item.work = .ok t →
      ∀ l : Ledger, l.holds s = true → (answer t l).2.holds s = true :=
    fun _ _ t _ _ held => holdsKept t held
  exact afterKept answer step held

theorem afterHolds (ledger : Ledger) (items : List Item) :
    ∀ item ∈ items, item.Held (after answer ledger items) := by
  induction items generalizing ledger with
  | nil => simp
  | cons head rest ih =>
    intro item member s work
    rcases List.mem_cons.mp member with rfl | inside
    · refine afterKeeps _ rest s ?_
      simpa [Item.deal, work, answer] using holdsSubmitted ledger s
    · exact ih _ item inside s work

theorem afterHeld {ledger : Ledger} {items : List Item} (held : ∀ item ∈ items, item.Held ledger) :
    after answer ledger items = ledger ∧
      ∀ n ∈ verdicts answer ledger items, n.2.isCreated = false := by
  induction items with
  | nil => exact ⟨rfl, by simp [verdicts]⟩
  | cons item rest ih =>
    have one := Item.dealHeld (held item List.mem_cons_self)
    have others := ih fun i inside => held i (List.mem_cons_of_mem _ inside)
    refine ⟨?_, ?_⟩
    · simpa [after, one.1] using others.1
    · intro n member
      rcases List.mem_cons.mp member with rfl | inside
      · exact one.2
      · rw [one.1] at inside
        exact others.2 n inside

theorem verdictFailures (stage : Stage) (ledger : Ledger) (items : List Item) :
    ((verdicts answer ledger items).filterMap fun n => n.2.failure? stage n.1) =
      items.filterMap (Item.rejection? stage) := by
  induction items generalizing ledger with
  | nil => rfl
  | cons item rest ih =>
    simp only [verdicts, List.filterMap_cons, Item.dealFailure, ih]

theorem tallyFailures (stage : Stage) (ledger : Ledger) (items : List Item) :
    (Tally.ofVerdicts stage (verdicts answer ledger items)).failures =
      items.filterMap (Item.rejection? stage) := by
  rw [Tally.ofVerdicts, Tally.noteAllFailures, ← verdictFailures stage ledger]
  rfl

theorem tallyHeld {ledger : Ledger} {items : List Item} (stage : Stage)
    (held : ∀ item ∈ items, item.Held ledger) :
    (Tally.ofVerdicts stage (verdicts answer ledger items)).created = 0 := by
  rw [Tally.ofVerdicts, Tally.noteAllCreated]
  have none : (verdicts answer ledger items).countP (fun n => n.2.isCreated) = 0 := by
    simpa [List.countP_eq_zero] using (afterHeld held).2
  rw [none]
  rfl

theorem dealDeploymentAssets (ledger : Ledger) (index : Index) (d : Deployment) :
    ((Deployment.item index d).deal answer ledger).2.assets = ledger.assets := by
  cases found : index.resolve d.assetSymbol with
  | none => simp [Item.deal, Deployment.item, found]
  | some id =>
    simp only [Item.deal, Deployment.item, found, answer, submit]
    split <;> rfl

theorem afterDeploymentAssets (ledger : Ledger) (index : Index) (deployments : List Deployment) :
    (after answer ledger (deployments.map (Deployment.item index))).assets = ledger.assets := by
  induction deployments generalizing ledger with
  | nil => rfl
  | cons d rest ih => exact (ih _).trans (dealDeploymentAssets ledger index d)

end Ledger
end RegistrySeeding
