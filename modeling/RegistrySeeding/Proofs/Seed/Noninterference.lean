import RegistrySeeding.Client.Basic
import RegistrySeeding.Proofs.Seed.Idempotence
import RegistrySeeding.Proofs.Seed.Likeness

/-! What a run never looks at: the identifier of a created record and the detail of a conflict. Two
registries that differ in nothing else are taken through the same run, and so is a registry whose
answers are tampered with on their way. -/
namespace RegistrySeeding
variable {ω σ τ : Type}

def Answer.blurred : Answer → Answer
  | created _ => created none
  | conflict _ => conflict ""
  | failed failure => failed failure

theorem Reply.verdictBlurred (reply : Reply Answer) :
    (reply.map Answer.blurred).map Answer.verdict = reply.map Answer.verdict := by
  cases reply with
  | abandoned => rfl
  | answered result requested =>
    cases result with
    | error e => rfl
    | ok answer => cases answer <;> rfl

namespace Registry

def worldAfter (registry : Registry σ) (world : σ) : List (Option Submission) → σ
  | [] => world
  | some s :: rest => registry.worldAfter (registry.submit s world).world rest
  | none :: rest => registry.worldAfter (registry.list world).world rest

/-- After the same calls both answer the next one alike, identifiers and conflict details apart. -/
structure Alike (left : Registry σ) (w : σ) (right : Registry τ) (v : τ) : Prop where
  submit (asked : List (Option Submission)) (s : Submission) :
    (left.submit s (left.worldAfter w asked)).reply.map Answer.blurred =
      (right.submit s (right.worldAfter v asked)).reply.map Answer.blurred
  list (asked : List (Option Submission)) :
    (left.list (left.worldAfter w asked)).reply = (right.list (right.worldAfter v asked)).reply

variable {left : Registry σ} {right : Registry τ} {w : σ} {v : τ}

theorem Alike.afterSubmit (alike : Alike left w right v) (s : Submission) :
    Alike left (left.submit s w).world right (right.submit s v).world :=
  ⟨fun asked => alike.submit (some s :: asked), fun asked => alike.list (some s :: asked)⟩

theorem Alike.afterList (alike : Alike left w right v) :
    Alike left (left.list w).world right (right.list v).world :=
  ⟨fun asked => alike.submit (none :: asked), fun asked => alike.list (none :: asked)⟩

end Registry

section
variable {α : Type}

def Exchange.first (exchange : ω → Exchange ω α) : ω × σ → Exchange (ω × σ) α :=
  fun (world, other) =>
    let x := exchange world
    ⟨x.reply, x.lines, (x.world, other)⟩

def Exchange.second (exchange : σ → Exchange σ α) : ω × σ → Exchange (ω × σ) α :=
  fun (other, world) =>
    let x := exchange world
    ⟨x.reply, x.lines, (other, x.world)⟩

end

def Source.beside (source : Source ω) : Source (ω × σ) :=
  ⟨Exchange.first source.chains, Exchange.first source.assets, Exchange.first source.deployments⟩

def Registry.beside (registry : Registry σ) : Registry (ω × σ) :=
  ⟨fun s => Exchange.second (registry.submit s), Exchange.second registry.list⟩

def Interrupts.beside (interrupts : Interrupts ω) : Interrupts (ω × σ) :=
  ⟨fun (world, other) => ((interrupts.check world).1, (interrupts.check world).2, other)⟩

def Registry.Paired (left : Registry σ) (right : Registry τ) (a : ω × σ) (b : ω × τ) : Prop :=
  a.1 = b.1 ∧ Registry.Alike left a.2 right b.2

section
variable {left : Registry σ} {right : Registry τ}

theorem Exchange.firstSimilar {α : Type} (exchange : ω → Exchange ω α) :
    Exchange.Similar (Registry.Paired left right) id
      (Exchange.muted (Exchange.first exchange)) (Exchange.muted (Exchange.first exchange)) := by
  rintro ⟨world, w⟩ ⟨_, v⟩ ⟨same, alike⟩
  cases same
  exact ⟨rfl, rfl, rfl, alike⟩

theorem Source.besideSimilar (source : Source ω) :
    Source.Similar (Registry.Paired left right) source.beside.muted source.beside.muted :=
  ⟨Exchange.firstSimilar _, Exchange.firstSimilar _, Exchange.firstSimilar _⟩

theorem Interrupts.besideSimilar (interrupts : Interrupts ω) :
    Interrupts.Similar (Registry.Paired left right) interrupts.beside interrupts.beside := by
  rintro ⟨world, w⟩ ⟨_, v⟩ ⟨same, alike⟩
  cases same
  exact ⟨rfl, rfl, alike⟩

theorem Registry.besideSimilar :
    Registry.Similar (Registry.Paired left right : ω × σ → ω × τ → Prop) left.beside.muted
      right.beside.muted where
  submit s := by
    rintro ⟨world, w⟩ ⟨_, v⟩ ⟨same, alike⟩
    have replies := congrArg (Reply.map Answer.verdict) (alike.submit [] s)
    rw [Reply.verdictBlurred, Reply.verdictBlurred] at replies
    exact ⟨replies, rfl, same, alike.afterSubmit s⟩
  list := by
    rintro ⟨world, w⟩ ⟨_, v⟩ ⟨same, alike⟩
    exact ⟨congrArg (Reply.map id) (alike.list []), rfl, same, alike.afterList⟩

end

def Delivery.rewritten (rewrite : String → String) : Delivery → Delivery
  | .response status body => .response status (if Client.succeeded status then rewrite body else body)
  | delivery => delivery

def Transport.rewritten (transport : Transport σ) (rewrite : Request → σ → String → String) :
    Transport σ where
  send request world :=
    let (delivery, next) := transport.send request world
    (delivery.rewritten (rewrite request world), next)

namespace Client

def tampered (client : Client) (transport : Transport σ)
    (rewrite : Request → σ → String → String) : Registry σ :=
  ⟨client.submit (transport.rewritten rewrite), client.list transport⟩

theorem judgeSucceeded {status : Nat} (success : succeeded status = true)
    (recordName body : String) :
    (judge recordName (.response status body)).1.map Answer.verdict =
      .answered (.ok .created) false := by
  simp only [judge, success, if_true]
  rfl

theorem judgeRewritten (recordName : String) (url : Url) (rewrite : String → String)
    (delivery : Delivery) :
    (judge recordName (.ofDelivery url (delivery.rewritten rewrite))).1.map Answer.verdict =
      (judge recordName (.ofDelivery url delivery)).1.map Answer.verdict := by
  cases delivery with
  | lost loss => rfl
  | interrupted => rfl
  | response status body =>
    change (judge _ (.response status (if succeeded status then rewrite body else body))).1.map _ =
      (judge _ (.response status body)).1.map _
    cases success : succeeded status with
    | true => rw [judgeSucceeded success, judgeSucceeded success]
    | false => rfl

theorem submitTampered (client : Client) (transport : Transport σ)
    (rewrite : Request → σ → String → String) (s : Submission) (world : σ) :
    let plain := client.submit transport s world
    let other := client.submit (transport.rewritten rewrite) s world
    plain.reply.map Answer.verdict = other.reply.map Answer.verdict ∧ plain.world = other.world := by
  simp only [submit, call]
  cases client.destination (methodOf s.stage).1 with
  | error failure => exact ⟨rfl, rfl⟩
  | ok place => exact ⟨(judgeRewritten _ _ _ _).symm, rfl⟩

theorem tamperedSimilar (client : Client) (transport : Transport σ)
    (rewrite : Request → σ → String → String) :
    Registry.Similar Eq (client.registry transport).muted
      (client.tampered transport rewrite).muted where
  submit s := Exchange.mutedSimilar (client.submitTampered transport rewrite s)
  list := Exchange.selfSimilar (Exchange.muted (client.list transport))

end Client

namespace Run

/-- Neither the identifiers that a registry gives to new records nor the details of its conflicts
bear on a run, and neither do the bodies of successful answers to create calls. -/
theorem identifiersUnread (stamp stamp' : Stamp) (cancelled : Bool) :
    (∀ (source : Source ω) (interrupts : Interrupts ω) (left : Registry σ) (right : Registry τ)
      (world : ω) (w : σ) (v : τ), Registry.Alike left w right v →
      Finished.SameBut stamp stamp'
        (seed stamp source.beside left.beside interrupts.beside cancelled (world, w))
        (seed stamp' source.beside right.beside interrupts.beside cancelled (world, v))) ∧
    (∀ (source : Source σ) (interrupts : Interrupts σ) (client : Client) (transport : Transport σ)
      (rewrite : Request → σ → String → String) (world : σ),
      let one := seed stamp source (client.registry transport) interrupts cancelled world
      let other := seed stamp' source (client.tampered transport rewrite) interrupts cancelled world
      Finished.SameBut stamp stamp' one other ∧ one.world = other.world) := by
  constructor
  · intro source interrupts left right world w v alike
    have paired : Registry.Paired left right (world, w) (world, v) := ⟨rfl, alike⟩
    exact (seedAlike source.besideSimilar Registry.besideSimilar interrupts.besideSimilar stamp
      stamp' cancelled paired).1
  · intro source interrupts client transport rewrite world
    exact seedAlike source.muted.selfSimilar (client.tamperedSimilar transport rewrite)
      interrupts.selfSimilar stamp stamp' cancelled rfl

def namingAnswer (name : String) : Nat → Answer
  | 1 => .conflict name
  | sent => .created (some (name ++ toString sent))

def namingRegistry (name : String) : Registry Nat where
  submit _ sent := .plain (.ok (namingAnswer name sent)) (sent + 1)
  list := .plain (.ok [⟨"asset-1", "ETH"⟩])

theorem namingBlurred (name name' : String) (sent : Nat) :
    (namingAnswer name sent).blurred = (namingAnswer name' sent).blurred := by
  unfold namingAnswer
  split <;> rfl

theorem namingAfter (name name' : String) (asked : List (Option Submission)) (sent : Nat) :
    (namingRegistry name).worldAfter sent asked =
      (namingRegistry name').worldAfter sent asked := by
  induction asked generalizing sent with
  | nil => rfl
  | cons call rest ih =>
    cases call with
    | none => exact ih sent
    | some s => exact ih (sent + 1)

theorem namingAlike (name name' : String) (sent : Nat) :
    Registry.Alike (namingRegistry name) sent (namingRegistry name') sent where
  submit asked s := by
    rw [namingAfter name name']
    exact congrArg (fun a => Reply.answered (.ok a) false) (namingBlurred name name' _)
  list asked := rfl

theorem namesUnread :
    let source : Source Unit :=
      .ofRecords mixedRecords.chains mixedRecords.assets mixedRecords.deployments
    let run (name : String) := seed (sampleStamp name) source.beside (namingRegistry name).beside
      Interrupts.never.beside false ((), 0)
    Registry.Alike (namingRegistry "red") 0 (namingRegistry "blue") 0 ∧
    (run "red").outcome.stages.map (·.created) = [1, 2, 1] ∧
    (run "red").outcome.stages.map (·.skipped) = [1, 0, 0] ∧
    (run "red").outcome.stages = (run "blue").outcome.stages ∧
    Journal.calls (run "red").journal = Journal.calls (run "blue").journal := by
  intro source run
  have alike := namingAlike "red" "blue" 0
  have same : Finished.SameBut (sampleStamp "red") (sampleStamp "blue") (run "red") (run "blue") :=
    (identifiersUnread (sampleStamp "red") (sampleStamp "blue") false).1 source .never _ _ () 0 0
      alike
  exact ⟨alike, by decide +kernel, by decide +kernel, same.stages, same.calls⟩

end Run
end RegistrySeeding
