import Mathlib.Data.List.Basic
import RegistrySeeding.Proofs.Seed.Trials

/-! Candidates without a request. A stage seeded with them and without them asks for the same and
leaves the same world; they are only counted, each failed with its reason. -/
namespace RegistrySeeding
open Journal (calls)

namespace Item

def sent (item : Item) : Bool := item.work.isOk

theorem sentOk {item : Item} {s : Submission} (work : item.work = .ok s) : item.sent = true := by
  rw [sent, work]
  rfl

theorem sentError {item : Item} {reason : String} (work : item.work = .error reason) :
    item.sent = false := by
  rw [sent, work]
  rfl

end Item

structure Fates (items : List Item) (noted : List (Item × Verdict)) : Prop where
  all : noted.map (·.1) = items
  rejected : ∀ n ∈ noted, ∀ reason, n.1.work = .error reason → n.2 = .failed reason
  submitted : ∀ n ∈ noted, n.1.sent = true → ∀ detail, n.2 = .failed detail →
    ∃ failure : Failure, detail = failure.text

namespace Fates
variable {item : Item} {rest : List Item} {noted : List (Item × Verdict)}

theorem nil : Fates [] [] := ⟨rfl, nofun, nofun⟩

theorem consRejected {reason : String} (work : item.work = .error reason)
    (later : Fates rest noted) : Fates (item :: rest) ((item, .failed reason) :: noted) where
  all := congrArg (item :: ·) later.all
  rejected := by
    refine List.forall_mem_cons.mpr ⟨fun reason' work' => ?_, later.rejected⟩
    rw [work] at work'
    cases work'
    rfl
  submitted := by
    refine List.forall_mem_cons.mpr ⟨fun sent => ?_, later.submitted⟩
    rw [Item.sentError work] at sent
    nomatch sent

theorem consSubmitted {s : Submission} (answer : Answer) (work : item.work = .ok s)
    (later : Fates rest noted) : Fates (item :: rest) ((item, answer.verdict) :: noted) where
  all := congrArg (item :: ·) later.all
  rejected := by
    refine List.forall_mem_cons.mpr ⟨fun reason work' => ?_, later.rejected⟩
    rw [work] at work'
    nomatch work'
  submitted := by
    refine List.forall_mem_cons.mpr ⟨fun _ detail failed => ?_, later.submitted⟩
    cases answer with
    | failed failure => cases failed; exact ⟨failure, rfl⟩
    | created id => nomatch failed
    | conflict detail => nomatch failed

end Fates

def noting (noted : List (Item × Verdict)) : List (String × Verdict) :=
  noted.map fun n => (n.1.key, n.2)

structure Passage.Spares {σ : Type} (items : List Item) (tally tally' : Tally)
    (full part : Passage σ Error Tally) : Prop where
  calls : calls full.journal = calls part.journal
  world : full.world = part.world
  on : part.cancelled = false
  outcome : (∃ e, full.result = .error e ∧ part.result = .error e) ∨ ∃ noted, Fates items noted ∧
    full.result = .ok (tally.noteAll (noting noted)) ∧
    part.result = .ok (tally'.noteAll (noting (noted.filter (·.1.sent))))

section
variable {σ : Type} {registry : Registry σ}

theorem submitAllStopped (items : List Item) (tally : Tally) (w : σ) :
    (Stage.submitAll registry .never items tally true w).cancelled = true := by
  cases items <;> rfl

theorem verdictOfAnswer {reply : Reply Answer} {verdict : Verdict}
    (came : (Trial.replied reply).result = .ok verdict) :
    ∃ answer : Answer, verdict = answer.verdict := by
  cases reply with
  | abandoned => nomatch came
  | answered result requested =>
    cases result with
    | error e => nomatch came
    | ok answer => exact ⟨answer, (Except.ok.inj came).symm⟩

theorem sparesRejected {item : Item} {rest : List Item} {tally tally' : Tally} {w : σ}
    {reason : String} (work : item.work = .error reason) {part : Passage σ Error Tally}
    (later : (Stage.submitAll registry .never rest (tally.note item.key (.failed reason)) false
      w).Spares rest (tally.note item.key (.failed reason)) tally' part) :
    (Stage.submitAll registry .never (item :: rest) tally false w).Spares (item :: rest) tally
      tally' part := by
  have judged : Stage.judge registry item.work false w = ⟨.ok (.failed reason), false, [], w⟩ := by
    rw [work]
    rfl
  rw [submitAllOn (congrArg Passage.result judged), judged]
  refine ⟨(callsCandidate ..).trans later.calls, later.world, later.on, ?_⟩
  refine later.outcome.imp_right fun ⟨noted, fates, full, part⟩ => ?_
  refine ⟨(item, .failed reason) :: noted, fates.consRejected work, full, ?_⟩
  simp only [List.filter_cons, Item.sentError work]
  exact part

theorem sparesSubmitted {item : Item} {rest rest' : List Item} {tally tally' : Tally} {w : σ}
    {s : Submission} (work : item.work = .ok s)
    (on : (Stage.submitAll registry .never (item :: rest) tally false w).cancelled = false)
    (later : ∀ verdict w', (Stage.submitAll registry .never rest (tally.note item.key verdict) false
        w').cancelled = false →
      (Stage.submitAll registry .never rest (tally.note item.key verdict) false w').Spares rest
        (tally.note item.key verdict) (tally'.note item.key verdict)
        (Stage.submitAll registry .never rest' (tally'.note item.key verdict) false w')) :
    (Stage.submitAll registry .never (item :: rest) tally false w).Spares (item :: rest) tally
      tally' (Stage.submitAll registry .never (item :: rest') tally' false w) := by
  cases met : (Stage.judge registry item.work false w).result with
  | error e =>
    rw [submitAllCut met] at on ⊢
    rw [submitAllCut met]
    exact ⟨rfl, rfl, on, .inl ⟨e, rfl, rfl⟩⟩
  | ok verdict =>
    rw [submitAllOn met] at on ⊢
    rw [submitAllOn met]
    cases stopped : (Stage.judge registry item.work false w).cancelled with
    | true =>
      -- A token that is cancelled here is cancelled at the end.
      simp only [stopped, submitAllStopped] at on
      nomatch on
    | false =>
      simp only [stopped] at on
      have after := later verdict _ on
      have replied : (Trial.replied (registry.submit s w).reply).result = .ok verdict := by
        rw [← met, (judgeTried registry item w).1, Item.trial, work]
      obtain ⟨answer, rfl⟩ := verdictOfAnswer replied
      refine ⟨?_, after.world, after.on, ?_⟩
      · rw [callsCandidate, callsCandidate, after.calls]
      · refine after.outcome.imp_right fun ⟨noted, fates, full, part⟩ => ?_
        refine ⟨(item, answer.verdict) :: noted, fates.consSubmitted answer work, full, ?_⟩
        simp only [List.filter_cons, Item.sentOk work]
        exact part

variable (registry) in
theorem submitAllSpares (items : List Item) (tally tally' : Tally) (w : σ)
    (on : (Stage.submitAll registry .never items tally false w).cancelled = false) :
    (Stage.submitAll registry .never items tally false w).Spares items tally tally'
      (Stage.submitAll registry .never (items.filter Item.sent) tally' false w) := by
  induction items generalizing tally tally' w with
  | nil => exact ⟨rfl, rfl, rfl, .inr ⟨[], .nil, rfl, rfl⟩⟩
  | cons item rest ih =>
    cases work : item.work with
    | error reason =>
      rw [List.filter_cons_of_neg (by simp [Item.sentError work])]
      refine sparesRejected work (ih _ tally' w ?_)
      have judged : Stage.judge registry item.work false w =
          ⟨.ok (.failed reason), false, [], w⟩ := by
        rw [work]
        rfl
      rw [submitAllOn (congrArg Passage.result judged), judged] at on
      exact on
    | ok s =>
      rw [List.filter_cons_of_pos (Item.sentOk work)]
      exact sparesSubmitted work on fun verdict w' => ih _ _ w'

end

def rejections (stage : Stage) (items : List Item) : List ItemFailure :=
  items.filterMap fun item =>
    match item.work with
    | .error reason => some ⟨stage, item.key, reason⟩
    | .ok _ => none

/-- A tally against that of the same batch without so many rejected candidates; `own` tells their
failures from the others. Counters are words, and numbers for as long as a word counts the batch. -/
structure Tally.Exceeds (full part : Tally) (rejected : List ItemFailure) (own : ItemFailure → Bool)
    (total : Nat) : Prop where
  created : full.created = part.created
  skipped : full.skipped = part.skipped
  attempted : full.attempted = part.attempted + .ofNat rejected.length
  failed : full.failed = part.failed + .ofNat rejected.length
  numbers : total < 2 ^ 64 → full.attempted.toNat = part.attempted.toNat + rejected.length ∧
    full.failed.toNat = part.failed.toNat + rejected.length
  removed : full.failures.filter own = rejected
  kept : (full.failures.filter fun f => !own f) = part.failures

def Marks (own : ItemFailure → Bool) (stage : Stage) (items : List Item) : Prop :=
  ∀ item ∈ items, (∀ reason, item.work = .error reason → own ⟨stage, item.key, reason⟩ = true) ∧
    (item.sent = true → ∀ failure : Failure, own ⟨stage, item.key, failure.text⟩ = false)

section
variable {stage : Stage} {items : List Item} {noted : List (Item × Verdict)}
  (fates : Fates items noted)
include fates

theorem rejectedVerdict {n : Item × Verdict} (inside : n ∈ noted) (unsent : n.1.sent = false) :
    ∃ reason, n.1.work = .error reason ∧ n.2 = .failed reason := by
  cases work : n.1.work with
  | ok s => rw [Item.sentOk work] at unsent; nomatch unsent
  | error reason => exact ⟨reason, rfl, fates.rejected n inside reason work⟩

theorem rejectionsNoted : rejections stage items =
    (noted.filter fun n => !n.1.sent).filterMap fun n => n.2.failure? stage n.1.key := by
  rw [← fates.all, rejections, List.filterMap_map, List.filterMap_filter]
  refine List.filterMap_congr fun n inside => ?_
  cases work : n.1.work with
  | ok s => simp [work, Item.sentOk work]
  | error reason => simp [work, Item.sentError work, fates.rejected n inside reason work,
      Verdict.failure?]

theorem failuresMarked {own : ItemFailure → Bool} (marks : Marks own stage items) :
    ∀ n ∈ noted, ∀ f, n.2.failure? stage n.1.key = some f → own f = !n.1.sent := by
  intro n inside f failure
  obtain ⟨rejected, submitted⟩ := marks n.1 (fates.all ▸ List.mem_map_of_mem inside)
  cases verdict : n.2 with
  | created => rw [verdict] at failure; nomatch failure
  | duplicate => rw [verdict] at failure; nomatch failure
  | failed detail =>
    rw [verdict] at failure
    cases failure
    cases sent : n.1.sent with
    | true =>
      obtain ⟨failure, rfl⟩ := fates.submitted n inside sent detail verdict
      exact submitted sent failure
    | false =>
      obtain ⟨reason, work, same⟩ := rejectedVerdict fates inside sent
      rw [verdict] at same
      cases same
      exact rejected _ work

end

theorem notedApart (noted : List (Item × Verdict)) (kind : Verdict → Bool) :
    (noting noted).countP (fun n => kind n.2) =
      (noting (noted.filter (·.1.sent))).countP (fun n => kind n.2) +
        (noting (noted.filter fun n => !n.1.sent)).countP fun n => kind n.2 := by
  simp only [noting, List.countP_map]
  exact List.countP_eq_countP_filter_add ..

theorem filterOfFilterMap {α β : Type} {g : α → Option β} {kept : β → Bool} {from_ : α → Bool}
    {l : List α} (told : ∀ x ∈ l, ∀ y, g x = some y → kept y = from_ x) :
    (l.filterMap g).filter kept = (l.filter from_).filterMap g := by
  rw [List.filter_filterMap, List.filterMap_filter]
  refine List.filterMap_congr fun x inside => ?_
  cases came : g x with
  | none => simp
  | some y => simp [Option.filter, told x inside y came]

section
variable {stage : Stage} {items : List Item} {noted : List (Item × Verdict)}
  (fates : Fates items noted)
include fates

theorem rejectionsFailed : ∀ n ∈ noting (noted.filter fun n => !n.1.sent), n.2.isFailed = true := by
  intro n inside
  obtain ⟨m, member, rfl⟩ := List.mem_map.mp inside
  obtain ⟨member, unsent⟩ := List.mem_filter.mp member
  obtain ⟨reason, -, same⟩ := rejectedVerdict fates member (by simpa using unsent)
  exact congrArg Verdict.isFailed same

theorem rejectionsCount : (rejections stage items).length =
    (noting (noted.filter fun n => !n.1.sent)).length := by
  rw [rejectionsNoted fates, ← List.countP_eq_length.mpr (rejectionsFailed fates),
    ← Tally.failuresCount stage, noting, List.filterMap_map]
  rfl

theorem ofVerdictsExceeds {own : ItemFailure → Bool} (marks : Marks own stage items) :
    (Tally.ofVerdicts stage (noting noted)).Exceeds
      (Tally.ofVerdicts stage (noting (noted.filter (·.1.sent)))) (rejections stage items) own
      items.length := by
  have none (kind : Verdict → Bool) (other : ∀ v, v.isFailed = true → kind v = false) :
      (noting noted).countP (fun n => kind n.2) =
        (noting (noted.filter (·.1.sent))).countP fun n => kind n.2 := by
    have zero : (noting (noted.filter fun n => !n.1.sent)).countP (fun n => kind n.2) = 0 :=
      List.countP_eq_zero.mpr fun n inside => by simp [other _ (rejectionsFailed fates n inside)]
    rw [notedApart, zero, Nat.add_zero]
  have failed : (noting noted).countP (fun n => n.2.isFailed) =
      (noting (noted.filter (·.1.sent))).countP (fun n => n.2.isFailed) +
        (rejections stage items).length := by
    rw [notedApart, List.countP_eq_length.mpr (rejectionsFailed fates), rejectionsCount fates]
  have attempted : (noting noted).length =
      (noting (noted.filter (·.1.sent))).length + (rejections stage items).length := by
    rw [rejectionsCount fates]
    simpa only [List.countP_true] using notedApart noted fun _ => true
  have total : (noting noted).length = items.length := by
    rw [noting, List.length_map, ← fates.all, List.length_map]
  have told := failuresMarked fates marks
  have failures (noted : List (Item × Verdict)) :
      (Tally.ofVerdicts stage (noting noted)).failures =
        noted.filterMap fun n => n.2.failure? stage n.1.key := by
    rw [Tally.ofVerdictsFailures, noting, List.filterMap_map]
    rfl
  refine ⟨?_, ?_, ?_, ?_, fun small => ?_, ?_, ?_⟩
  · rw [Tally.ofVerdictsCreated, Tally.ofVerdictsCreated, none _ fun v is => by cases v <;> trivial]
  · rw [Tally.ofVerdictsSkipped, Tally.ofVerdictsSkipped, none _ fun v is => by cases v <;> trivial]
  · rw [Tally.ofVerdictsAttempted, Tally.ofVerdictsAttempted, attempted, UInt64.ofNat_add]
  · rw [Tally.ofVerdictsFailed, Tally.ofVerdictsFailed, failed, UInt64.ofNat_add]
  · have least : (noting noted).countP (fun n => n.2.isFailed) ≤ (noting noted).length :=
      List.countP_le_length
    rw [Tally.ofVerdictsAttempted, Tally.ofVerdictsAttempted, Tally.ofVerdictsFailed,
      Tally.ofVerdictsFailed]
    simp only [UInt64.toNat_ofNat']
    omega
  · rw [failures, filterOfFilterMap told, rejectionsNoted fates]
  · rw [failures, failures, filterOfFilterMap fun n inside f failure => ?_]
    rw [told n inside f failure, Bool.not_not]

end

structure Passage.Disregards {σ : Type} (full part : Passage σ Error Tally)
    (rejected : List ItemFailure) (own : ItemFailure → Bool) (total : Nat) : Prop where
  calls : calls full.journal = calls part.journal
  world : full.world = part.world
  on : part.cancelled = false
  outcome : (∃ e, full.result = .error e ∧ part.result = .error e) ∨
    ∃ t t', full.result = .ok t ∧ part.result = .ok t' ∧ t.Exceeds t' rejected own total

section
variable {σ : Type}

theorem seedDisregards (registry : Registry σ) (stage : Stage) (items : List Item) (w : σ)
    {own : ItemFailure → Bool} (marks : Marks own stage items)
    (on : (Stage.seed registry .never stage items false w).cancelled = false) :
    (Stage.seed registry .never stage items false w).Disregards
      (Stage.seed registry .never stage (items.filter Item.sent) false w) (rejections stage items)
      own items.length := by
  have spares := submitAllSpares registry items (.empty stage) (.empty stage) w
  cases came : (Stage.submitAll registry .never items (.empty stage) false w).result with
  | error e =>
    rw [seedFailed came] at on ⊢
    obtain ⟨asked, left, token, outcome⟩ := spares on
    obtain ⟨e', same, failed⟩ | ⟨noted, -, other, -⟩ := outcome
    · rw [seedFailed failed]
      rw [came] at same
      exact ⟨asked, left, token, .inl ⟨e', same, rfl⟩⟩
    · rw [came] at other
      nomatch other
  | ok t =>
    rw [seedCame came] at on ⊢
    obtain ⟨asked, left, token, outcome⟩ := spares on
    obtain ⟨e, other, -⟩ | ⟨noted, fates, full, part⟩ := outcome
    · rw [came] at other
      nomatch other
    · rw [seedCame part]
      rw [came] at full
      cases full
      refine ⟨?_, left, token, .inr ⟨_, _, rfl, rfl, ofVerdictsExceeds fates marks⟩⟩
      simp only [Course.opened, Course.closed, Journal.callsAppend, asked]
      rfl

end

theorem Failure.textOther (failure : Failure) : failure.text ≠ assetNotFound := by
  intro same
  have begins : failure.text.toList.take 2 = "as".toList := by rw [same]; rfl
  rw [Failure.text, String.toList_append, String.toList_append, List.append_assoc] at begins
  cases code : failure.code <;> rw [code] at begins <;> nomatch begins

def Asset.blankReason (a : Asset) : String :=
  "asset symbol must not be empty (source id '" ++ a.id ++ "')"

theorem assetRejected {a : Asset} (blank : Text.blank a.symbol = true) :
    a.item.work = .error a.blankReason := by
  rw [Asset.item, Asset.request, if_pos blank]
  rfl

theorem assetSent (a : Asset) : a.item.sent = !Text.blank a.symbol := by
  cases blank : Text.blank a.symbol with
  | true => exact Item.sentError (assetRejected blank)
  | false =>
    rw [Item.sent, Asset.item, Asset.request, if_neg (by simp [blank])]
    rfl

theorem assetMarks (records : List Asset) :
    Marks (fun f => Text.blank f.key) .assets (records.map Asset.item) := by
  intro item inside
  obtain ⟨a, -, rfl⟩ := List.mem_map.mp inside
  constructor
  · intro reason work
    have unsent := Item.sentError work
    rw [assetSent, Bool.not_eq_false'] at unsent
    exact unsent
  · intro sent failure
    rw [assetSent, Bool.not_eq_true'] at sent
    exact sent

theorem assetRejections (records : List Asset) :
    rejections .assets (records.map Asset.item) =
      (records.filter fun a => Text.blank a.symbol).map
        fun a => ⟨.assets, a.key, a.blankReason⟩ := by
  rw [rejections, List.filterMap_map, ← List.filterMap_eq_map, List.filterMap_filter]
  refine List.filterMap_congr fun a _ => ?_
  rw [Function.comp_apply]
  cases blank : Text.blank a.symbol with
  | true =>
    rw [assetRejected blank]
    rfl
  | false =>
    have sent := assetSent a
    cases work : a.item.work with
    | ok s => rfl
    | error reason =>
      rw [Item.sentError work, blank] at sent
      nomatch sent

theorem deploymentSent (index : Index) (d : Deployment) :
    (d.item index).sent = (index.resolve d.assetSymbol).isSome := by
  unfold Deployment.item Item.sent
  split <;> simp_all [Except.isOk, Except.toBool]

theorem deploymentMarks (index : Index) (records : List Deployment) :
    Marks (fun f => f.detail == assetNotFound) .deployments
      (records.map (Deployment.item index)) := by
  intro item inside
  obtain ⟨d, -, rfl⟩ := List.mem_map.mp inside
  constructor
  · intro reason work
    unfold Deployment.item at work
    split at work
    · nomatch work
    · cases work
      exact beq_self_eq_true _
  · intro _ failure
    simpa using failure.textOther

theorem deploymentRejections (index : Index) (records : List Deployment) :
    rejections .deployments (records.map (Deployment.item index)) =
      (records.filter fun d => (index.resolve d.assetSymbol).isNone).map
        fun d => ⟨.deployments, d.key, assetNotFound⟩ := by
  rw [rejections, List.filterMap_map, ← List.filterMap_eq_map, List.filterMap_filter]
  refine List.filterMap_congr fun d _ => ?_
  cases found : index.resolve d.assetSymbol <;> simp [Deployment.item, found]

section
variable {σ : Type}

/-- The registry never sees a rejected candidate: assets with a blank symbol and deployments whose
asset is not registered could as well have been left out. -/
theorem rejectedStayUnseen (registry : Registry σ) (w : σ) :
    (∀ records : List Asset,
      let run (records : List Asset) :=
        Stage.seed registry .never .assets (records.map Asset.item) false w
      (run records).cancelled = false →
      (run records).Disregards (run (records.filter fun a => !Text.blank a.symbol))
        ((records.filter fun a => Text.blank a.symbol).map
          fun a => ⟨.assets, a.key, a.blankReason⟩)
        (fun f => Text.blank f.key) records.length) ∧
    ∀ (index : Index) (records : List Deployment),
      let run (records : List Deployment) :=
        Stage.seed registry .never .deployments (records.map (Deployment.item index)) false w
      (run records).cancelled = false →
      (run records).Disregards
        (run (records.filter fun d => (index.resolve d.assetSymbol).isSome))
        ((records.filter fun d => (index.resolve d.assetSymbol).isNone).map
          fun d => ⟨.deployments, d.key, assetNotFound⟩)
        (fun f => f.detail == assetNotFound) records.length := by
  constructor
  · intro records run on
    have disregards := seedDisregards registry .assets _ w (assetMarks records) on
    rw [List.filter_map, assetRejections, List.length_map] at disregards
    simpa only [Function.comp_def, assetSent] using disregards
  · intro index records run on
    have disregards := seedDisregards registry .deployments _ w (deploymentMarks index records) on
    rw [List.filter_map, deploymentRejections, List.length_map] at disregards
    simpa only [Function.comp_def, deploymentSent] using disregards

def sampleAsset (symbol : String) : Asset :=
  ⟨"asset-" ++ symbol, symbol, symbol, "ASSET_TYPE_NATIVE", none, none, none, none, none, none⟩

def sampleDeployment (symbol : String) : Deployment := ⟨symbol, "chain-1", "0x1", 18, false⟩

theorem blankSymbolsUnseen :
    let assets := ["ETH", " ", "USDC", "", "WBTC"].map sampleAsset
    let seeded (records : List Asset) :=
      Stage.seed turnsRegistry .never .assets (records.map Asset.item) false 0
    let named := assets.filter fun a => !Text.blank a.symbol
    let index : Index := ⟨[("ETH", "a-1")]⟩
    let deployments := ["DAI", "ETH", "ETH"].map sampleDeployment
    let deployed (records : List Deployment) :=
      Stage.seed turnsRegistry .never .deployments (records.map (Deployment.item index)) false 3
    let resolved := deployments.filter fun d => (index.resolve d.assetSymbol).isSome
    (calls (seeded assets).journal).length = 3 ∧
    calls (seeded assets).journal = calls (seeded named).journal ∧
    (∃ t t', (seeded assets).result = .ok t ∧ (seeded named).result = .ok t' ∧
      (t.failures.filter fun f => !Text.blank f.key) = t'.failures ∧ t.failed = t'.failed + 2) ∧
    calls (deployed deployments).journal = calls (deployed resolved).journal ∧
    (deployed deployments).result = .error (.registry "closed") := by
  intro assets seeded named index deployments deployed resolved
  have first := (rejectedStayUnseen turnsRegistry 0).1 assets (by decide +kernel)
  have second := (rejectedStayUnseen turnsRegistry 3).2 index deployments (by decide +kernel)
  refine ⟨by decide +kernel, first.calls, ?_, second.calls, by decide +kernel⟩
  obtain ⟨e, failed, -⟩ | ⟨t, t', full, part, exceeds⟩ := first.outcome
  · have ends : (seeded assets).result.isOk = true := by decide +kernel
    rw [failed] at ends
    nomatch ends
  · refine ⟨t, t', full, part, exceeds.kept, exceeds.failed.trans ?_⟩
    have two : (assets.filter fun a => Text.blank a.symbol).length = 2 := by decide +kernel
    rw [List.length_map, two]
    rfl

end
end RegistrySeeding
