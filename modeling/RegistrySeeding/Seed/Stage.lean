import RegistrySeeding.Seed.Activity
import RegistrySeeding.Seed.Index

/-! One stage: its candidates are submitted one at a time, in order, and their verdicts counted.
A candidate without a request is judged here and never reaches the registry. -/
namespace RegistrySeeding

structure Item where
  key : String
  work : Except String Submission
  deriving Repr

def Chain.item (c : Chain) : Item := ⟨c.key, .ok (.chain c.request)⟩

def Asset.item (a : Asset) : Item := ⟨a.key, a.request.map .asset⟩

def Deployment.item (index : Index) (d : Deployment) : Item :=
  ⟨d.key, match index.resolve d.assetSymbol with
    | some id => .ok (.deployment (d.request id))
    | none => .error assetNotFound⟩

namespace Stage
open Activity

def startLine (stage : Stage) (total : Nat) : Line :=
  ⟨.info, "Seeding " ++ toString total ++ " " ++ stage.name ++ "...", []⟩

def submitLine (stage : Stage) (key : String) : Line :=
  ⟨.debug, "Submitting " ++ stage.label ++ " '" ++ key ++ "'", []⟩

def verdictLine (stage : Stage) (key : String) : Verdict → Line
  | .created => ⟨.debug, "Created " ++ stage.label ++ " '" ++ key ++ "'", []⟩
  | .duplicate => ⟨.debug, stage.label ++ " '" ++ key ++ "' already exists, skipping", []⟩
  | .failed detail =>
    ⟨.warn, "Failed to create " ++ stage.label ++ " '" ++ key ++ "': " ++ detail, []⟩

def completeLine (t : Tally) : Line :=
  ⟨.info, t.stage.name ++ " seeded: " ++ toString t.attempted.toNat ++ " attempted, "
    ++ toString t.created.toNat ++ " created, " ++ toString t.skipped.toNat ++ " skipped, "
    ++ toString t.failed.toNat ++ " failed", []⟩

variable {σ : Type}

def judge (registry : Registry σ) : Except String Submission → Activity σ Error Verdict
  | .error reason => done (.failed reason)
  | .ok submission => do
    let answer ← perform (.submit submission) (registry.submit submission)
    return answer.verdict

def submitAll (registry : Registry σ) (interrupts : Interrupts σ) :
    List Item → Tally → Activity σ Error Tally
  | [], tally => done tally
  | item :: rest, tally => do
    log (submitLine tally.stage item.key)
    let verdict ← unlessCancelled interrupts (judge registry item.work)
    log (verdictLine tally.stage item.key verdict)
    announce (.item tally.stage item.key verdict)
    submitAll registry interrupts rest (tally.note item.key verdict)

def seed (registry : Registry σ) (interrupts : Interrupts σ) (stage : Stage) (items : List Item) :
    Activity σ Error Tally := do
  log (startLine stage items.length)
  announce (.stageStart stage items.length)
  let tally ← submitAll registry interrupts items (Tally.empty stage)
  log (completeLine tally)
  announce (.stageComplete tally)
  return tally

end Stage

def Registry.index {σ : Type} (registry : Registry σ) : Activity σ Error Index := do
  let listing ← Activity.perform .list registry.list
  let (index, warnings) := Index.ofListing listing
  Activity.logAll warnings
  Activity.log ⟨.info, "Resolved " ++ toString index.size ++ " registry assets by symbol", []⟩
  return index

end RegistrySeeding
