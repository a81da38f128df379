import RegistrySeeding.Seed.Run

/-! What a journal tells: the calls that were begun, the verdicts that were reported and the
stages that were completed, each in order. -/
namespace RegistrySeeding

structure Report where
  stage : Stage
  key : String
  verdict : Verdict
  deriving DecidableEq, Repr

namespace Entry

def call? : Entry → Option Call
  | call c => some c
  | _ => none

def report? : Entry → Option Report
  | event (.item stage key verdict) => some ⟨stage, key, verdict⟩
  | _ => none

def completion? : Entry → Option Tally
  | event (.stageComplete tally) => some tally
  | _ => none

def event? : Entry → Option Event
  | event e => some e
  | _ => none

def isDeed : Entry → Bool
  | line _ => false
  | _ => true

end Entry

namespace Journal

def calls (journal : List Entry) : List Call := journal.filterMap Entry.call?

def reports (journal : List Entry) : List Report := journal.filterMap Entry.report?

def completions (journal : List Entry) : List Tally := journal.filterMap Entry.completion?

def events (journal : List Entry) : List Event := journal.filterMap Entry.event?

def deeds (journal : List Entry) : List Entry := journal.filter Entry.isDeed

def keys (stage : Stage) (journal : List Entry) : List String :=
  ((reports journal).filter (·.stage == stage)).map (·.key)

structure Silent (journal : List Entry) : Prop where
  calls : calls journal = []
  reports : reports journal = []
  completions : completions journal = []

theorem silentLines (lines : List Line) : Silent (lines.map .line) := by
  induction lines with
  | nil => exact ⟨rfl, rfl, rfl⟩
  | cons line rest ih => exact ⟨ih.calls, ih.reports, ih.completions⟩

theorem silentAppend {early late : List Entry} (before : Silent early) (after : Silent late) :
    Silent (early ++ late) := by
  refine ⟨?_, ?_, ?_⟩
  · rw [calls, List.filterMap_append]
    exact List.append_eq_nil_iff.mpr ⟨before.calls, after.calls⟩
  · rw [reports, List.filterMap_append]
    exact List.append_eq_nil_iff.mpr ⟨before.reports, after.reports⟩
  · rw [completions, List.filterMap_append]
    exact List.append_eq_nil_iff.mpr ⟨before.completions, after.completions⟩

section
variable (early late : List Entry)

@[simp] theorem callsAppend : calls (early ++ late) = calls early ++ calls late :=
  List.filterMap_append

@[simp] theorem reportsAppend : reports (early ++ late) = reports early ++ reports late :=
  List.filterMap_append

@[simp] theorem completionsAppend :
    completions (early ++ late) = completions early ++ completions late :=
  List.filterMap_append

@[simp] theorem keysAppend (stage : Stage) :
    keys stage (early ++ late) = keys stage early ++ keys stage late := by
  simp [keys]

@[simp] theorem eventsAppend : events (early ++ late) = events early ++ events late :=
  List.filterMap_append

@[simp] theorem deedsAppend : deeds (early ++ late) = deeds early ++ deeds late :=
  List.filter_append ..

end

theorem eventsLines (lines : List Line) : events (lines.map .line) = [] := by
  induction lines with
  | nil => rfl
  | cons line rest ih => exact ih

theorem deedsLines (lines : List Line) : deeds (lines.map .line) = [] := by
  induction lines with
  | nil => rfl
  | cons line rest ih => exact ih

theorem viewOfDeeds {β : Type} {view : Entry → Option β} (blind : ∀ l, view (.line l) = none)
    (journal : List Entry) : (deeds journal).filterMap view = journal.filterMap view := by
  induction journal with
  | nil => rfl
  | cons entry rest ih =>
    rw [List.filterMap_cons, ← ih]
    cases entry with
    | line l => rw [blind]; rfl
    | event e => exact List.filterMap_cons
    | call c => exact List.filterMap_cons

section
variable (rest : List Entry)

@[simp] theorem callsLine (line : Line) : calls (.line line :: rest) = calls rest := rfl

@[simp] theorem callsEvent (event : Event) : calls (.event event :: rest) = calls rest := rfl

@[simp] theorem callsCall (call : Call) : calls (.call call :: rest) = call :: calls rest := rfl

@[simp] theorem callsNil : calls [] = [] := rfl

@[simp] theorem callsLines (lines : List Line) : calls (lines.map .line) = [] :=
  (silentLines lines).calls

end

end Journal
end RegistrySeeding
