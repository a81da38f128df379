import RegistrySeeding.Registry.Answer
import RegistrySeeding.Seed.Overflow

/-! The fate of each candidate and the counters of a stage, which are 64-bit words. A run counts its
candidates one by one, far from the limit of a word; counters that were read may be anywhere, so
what is made of them depends on how the program was built. -/
namespace RegistrySeeding
open Json (Codec)

inductive Stage where
  | chains
  | assets
  | deployments
  deriving DecidableEq, Repr

namespace Stage

def all : List Stage := [chains, assets, deployments]

def name : Stage → String
  | chains => "chains"
  | assets => "assets"
  | deployments => "deployments"

def label : Stage → String
  | chains => "chain"
  | assets => "asset"
  | deployments => "deployment"

def choice : Json.Choice Stage := ⟨name, all⟩

def codec : Codec Stage := choice.codec

end Stage

inductive Verdict where
  | created
  | duplicate
  | failed (detail : String)
  deriving DecidableEq, Repr

def Answer.verdict : Answer → Verdict
  | .created _ => .created
  | .conflict _ => .duplicate
  | .failed failure => .failed failure.text

structure ItemFailure where
  stage : Stage
  key : String
  detail : String
  deriving DecidableEq, Repr

namespace ItemFailure

def record : Json.Record ItemFailure where
  title := "ItemFailure"
  fields :=
    .cons { name := "stage", codec := Stage.codec } <|
    .cons { name := "key", codec := Codec.string } <|
    .cons { name := "detail", codec := Codec.string } .nil
  make := fun (stage, key, detail, ()) => ⟨stage, key, detail⟩
  parts f := (f.stage, f.key, f.detail, ())

def codec : Codec ItemFailure := record.codec

end ItemFailure

structure Tally where
  stage : Stage
  attempted : UInt64
  created : UInt64
  skipped : UInt64
  failed : UInt64
  failures : List ItemFailure
  deriving DecidableEq, Repr

namespace Tally

def empty (stage : Stage) : Tally := ⟨stage, 0, 0, 0, 0, []⟩

def note (t : Tally) (key : String) (verdict : Verdict) : Tally :=
  let t := { t with attempted := t.attempted + 1 }
  match verdict with
  | .created => { t with created := t.created + 1 }
  | .duplicate => { t with skipped := t.skipped + 1 }
  | .failed detail =>
    { t with failed := t.failed + 1, failures := t.failures ++ [⟨t.stage, key, detail⟩] }

theorem noteStage (t : Tally) (key : String) (verdict : Verdict) :
    (t.note key verdict).stage = t.stage := by
  cases verdict <;> rfl

theorem noteAttempted (t : Tally) (key : String) (verdict : Verdict) :
    (t.note key verdict).attempted = t.attempted + 1 := by
  cases verdict <;> rfl

theorem noteFailures (t : Tally) (key : String) (verdict : Verdict) :
    (t.note key verdict).failures = t.failures ++
      match verdict with
      | .failed detail => [⟨t.stage, key, detail⟩]
      | _ => [] := by
  cases verdict <;> simp [note]

def conserved (t : Tally) : Bool := t.created + t.skipped + t.failed == t.attempted

def conservedIn (overflow : Overflow) (t : Tally) : Option Bool :=
  (overflow.sum [t.skipped, t.failed] t.created).map (· == t.attempted)

theorem conservedWraps (t : Tally) : t.conservedIn .wraps = some t.conserved := rfl

theorem noteConserved (t : Tally) (key : String) (verdict : Verdict) :
    (t.note key verdict).conserved = t.conserved := by
  cases verdict <;> simp only [note, conserved] <;> grind

def record : Json.Record Tally where
  title := "StageOutcome"
  fields :=
    .cons { name := "stage", codec := Stage.codec } <|
    .cons { name := "attempted", codec := Codec.uint64 } <|
    .cons { name := "created", codec := Codec.uint64 } <|
    .cons { name := "skippedDuplicate", codec := Codec.uint64 } <|
    .cons { name := "failed", codec := Codec.uint64 } <|
    .cons { name := "failures", codec := Codec.list ItemFailure.codec } .nil
  make := fun (stage, attempted, created, skipped, failed, failures, ()) =>
    ⟨stage, attempted, created, skipped, failed, failures⟩
  parts t := (t.stage, t.attempted, t.created, t.skipped, t.failed, t.failures, ())

def codec : Codec Tally := record.codec

end Tally
end RegistrySeeding
