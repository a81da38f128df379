import Mathlib.Algebra.Group.Nat.Defs
import Mathlib.Data.List.Forall2
import RegistrySeeding.Config.Basic
import RegistrySeeding.Proofs.Json.Numerals
import RegistrySeeding.Proofs.Text.WhiteSpace

/-! Which variables make settings. Each is told by what its text may be; what is reported is the
first one, in a fixed order, whose text may not be. -/
namespace RegistrySeeding

namespace Config

section
variable (lookup : Lookup)

def urlText : String := (lookup "CHAINREG_REGISTRY_URL").getD "http://localhost:8080"

def timeoutText : String := (lookup "CHAINREG_REQUEST_TIMEOUT_MS").getD "30000"

def logText : String := (lookup "CHAINREG_LOG_FORMAT").getD "text"

def summaryText : String := (lookup "CHAINREG_SUMMARY_FORMAT").getD "table"

end

def Hypertext (url : String) : Prop :=
  "http://".toList <+: url.toList ∨ "https://".toList <+: url.toList

def Counts (s : String) (n : Nat) : Prop :=
  ∃ sign ds, s.toList = sign ++ ds ∧ (sign = [] ∨ sign = ['+']) ∧ ds ≠ [] ∧
    (∀ c ∈ ds, c.isDigit = true) ∧ n = Nat.ofDigitChars 10 ds 0 ∧ n < 2 ^ 64

def SameLetter (c small : Char) : Prop :=
  c = small ∨ 'A'.toNat ≤ c.toNat ∧ c.toNat ≤ 'Z'.toNat ∧ small.toNat = c.toNat + 32

def Spells (word s : String) : Prop := List.Forall₂ SameLetter s.toList word.toList

theorem digitSort {c : Char} {d : Nat} (read : Text.digit? c = some d) :
    c.isDigit = true ∧ d = c.toNat - '0'.toNat := by
  unfold Text.digit? at read
  split at read
  · rename_i bounds
    refine ⟨?_, (Option.some.inj read).symm⟩
    simp only [Char.isDigit, Bool.and_eq_true, decide_eq_true_eq]
    exact bounds
  · contradiction

theorem leOfDigitChars (cs : List Char) (start : Nat) : start ≤ Nat.ofDigitChars 10 cs start := by
  induction cs generalizing start with
  | nil => exact Nat.le_refl start
  | cons c cs ih =>
    rw [Nat.ofDigitChars_cons]
    exact Nat.le_trans (by omega) (ih (10 * start + (c.toNat - '0'.toNat)))

theorem digitsIff {limit start n : Nat} {cs : List Char} (within : start ≤ limit) :
    digits limit start cs = .ok n ↔
      (∀ c ∈ cs, c.isDigit = true) ∧ n = Nat.ofDigitChars 10 cs start ∧ n ≤ limit := by
  induction cs generalizing start with
  | nil =>
    simp only [digits, Except.ok.injEq, List.not_mem_nil, false_implies, implies_true, true_and]
    constructor
    · rintro rfl
      exact ⟨rfl, within⟩
    · exact fun same => same.1.symm
  | cons c cs ih =>
    rw [Nat.ofDigitChars_cons, List.forall_mem_cons]
    unfold digits
    cases read : Text.digit? c with
    | none =>
      have other : c.isDigit ≠ true := fun digit => by
        rw [Json.Numeral.digitOfIsDigit digit] at read
        contradiction
      simp [other]
    | some d =>
      obtain ⟨digit, rfl⟩ := digitSort read
      have step : start * 10 + (c.toNat - '0'.toNat) = 10 * start + (c.toNat - '0'.toNat) := by
        omega
      simp only [digit, true_and, step]
      split
      · rename_i small
        exact ih small
      · rename_i large
        have grows := leOfDigitChars cs (10 * start + (c.toNat - '0'.toNat))
        -- What is too large here stays so.
        constructor
        · exact nofun
        · rintro ⟨-, rfl, fits⟩
          exact absurd (Nat.le_trans grows fits) large

theorem numberIff {s : String} {n : Nat} : number s = .ok n ↔ Counts s n := by
  have limit (cs : List Char) : digits (UInt64.size - 1) 0 cs = .ok n ↔
      (∀ c ∈ cs, c.isDigit = true) ∧ n = Nat.ofDigitChars 10 cs 0 ∧ n < 2 ^ 64 := by
    rw [digitsIff (Nat.zero_le _)]
    exact and_congr_right' (and_congr_right' (Nat.le_sub_one_iff_lt (by decide)))
  have plus : ¬('+' : Char).isDigit = true := by decide
  unfold number Counts
  split
  · rename_i empty
    rw [empty]
    refine ⟨nofun, ?_⟩
    rintro ⟨sign, ds, split, -, filled, -⟩
    exact absurd (List.append_eq_nil_iff.mp split.symm).2 filled
  · rename_i alone
    rw [alone]
    refine ⟨nofun, ?_⟩
    rintro ⟨_, ds, split, rfl | rfl, filled, digits, -⟩
    · obtain rfl : ['+'] = ds := split
      exact absurd (digits '+' List.mem_cons_self) plus
    · exact absurd (List.cons.inj split).2.symm filled
  · rename_i rest filled signed
    rw [signed, limit]
    constructor
    · rintro ⟨digits, same, small⟩
      exact ⟨['+'], rest, rfl, .inr rfl, filled, digits, same, small⟩
    · rintro ⟨_, ds, split, rfl | rfl, -, digits, same, small⟩
      · obtain rfl : '+' :: rest = ds := split
        exact absurd (digits '+' List.mem_cons_self) plus
      · obtain rfl : rest = ds := (List.cons.inj split).2
        exact ⟨digits, same, small⟩
  · rename_i empty _ unsigned
    rw [limit]
    constructor
    · rintro ⟨digits, same, small⟩
      exact ⟨[], s.toList, rfl, .inl rfl, empty, digits, same, small⟩
    · rintro ⟨_, ds, split, rfl | rfl, -, digits, same, small⟩
      · obtain rfl : s.toList = ds := split
        exact ⟨digits, same, small⟩
      · exact absurd split (unsigned ds)

theorem lowerCapital {c : Char} (low : 'A'.toNat ≤ c.toNat) (high : c.toNat ≤ 'Z'.toNat) :
    c.toLower.toNat = c.toNat + 32 := by
  have capital : c.val ≥ 'A'.val ∧ c.val ≤ 'Z'.val := ⟨low, high⟩
  have shifted : c.toLower.val = c.val + ('a'.val - 'A'.val) := congrArg Char.val (dif_pos capital)
  change c.toLower.val.toNat = c.val.toNat + 32
  rw [shifted, UInt32.toNat_add]
  have : c.val.toNat ≤ 90 := high
  change (c.val.toNat + 32) % 2 ^ 32 = _
  omega

theorem sameLetterIff {c small : Char} (lower : small.toLower = small) :
    c.toLower = small ↔ SameLetter c small := by
  by_cases capital : 'A'.toNat ≤ c.toNat ∧ c.toNat ≤ 'Z'.toNat
  · have shifted := lowerCapital capital.1 capital.2
    constructor
    · rintro rfl
      exact .inr ⟨capital.1, capital.2, shifted⟩
    · rintro (rfl | ⟨-, -, apart⟩)
      · exact lower
      · exact Char.toNat_inj.mp (shifted.trans apart.symm)
  · have kept : c.toLower = c := dif_neg capital
    rw [kept]
    constructor
    · exact .inl
    · rintro (same | ⟨low, high, -⟩)
      · exact same
      · exact absurd ⟨low, high⟩ capital

theorem mapLowerIff {word : List Char} (small : ∀ d ∈ word, d.toLower = d) (cs : List Char) :
    cs.map Char.toLower = word ↔ List.Forall₂ SameLetter cs word := by
  induction word generalizing cs with
  | nil => simp
  | cons d word ih =>
    cases cs with
    | nil => simp
    | cons c cs =>
      rw [List.map_cons, List.cons.injEq, List.forall₂_cons,
        sameLetterIff (small d List.mem_cons_self),
        ih (fun e inside => small e (List.mem_cons_of_mem d inside))]

theorem lowerIff {word : String} (small : ∀ d ∈ word.toList, d.toLower = d) (s : String) :
    lower s = word ↔ Spells word s := by
  rw [lower, Spells, ← mapLowerIff small]
  constructor
  · rintro rfl
    rw [String.toList_ofList]
  · intro same
    rw [same, String.ofList_toList]

end Config

namespace LogFormat

def name : LogFormat → String
  | text => "text"
  | json => "json"

end LogFormat

namespace SummaryFormat

def name : SummaryFormat → String
  | table => "table"
  | json => "json"

end SummaryFormat

namespace Config
variable {lookup : Lookup}

structure Accepted (lookup : Lookup) (config : Config) : Prop where
  url : config.registryUrl = urlText lookup
  hypertext : Hypertext (urlText lookup)
  token : ∀ t, config.apiToken = some t ↔ lookup "CHAINREG_API_TOKEN" = some t ∧ ¬Text.Blank t
  dataDir : config.dataDir = (lookup "CHAINREG_DATA_DIR").getD "./data"
  timeout : Counts (timeoutText lookup) config.timeoutMs
  log : Spells config.logFormat.name (logText lookup)
  summary : Spells config.summaryFormat.name (summaryText lookup)

inductive Offends (lookup : Lookup) : String → Prop where
  | url (bad : ¬Hypertext (urlText lookup)) : Offends lookup "CHAINREG_REGISTRY_URL"
  | timeout (url : Hypertext (urlText lookup)) (bad : ∀ n, ¬Counts (timeoutText lookup) n) :
      Offends lookup "CHAINREG_REQUEST_TIMEOUT_MS"
  | log {n : Nat} (url : Hypertext (urlText lookup)) (timeout : Counts (timeoutText lookup) n)
      (bad : ∀ f : LogFormat, ¬Spells f.name (logText lookup)) :
      Offends lookup "CHAINREG_LOG_FORMAT"
  | summary {n : Nat} {f : LogFormat} (url : Hypertext (urlText lookup))
      (timeout : Counts (timeoutText lookup) n) (log : Spells f.name (logText lookup))
      (bad : ∀ f : SummaryFormat, ¬Spells f.name (summaryText lookup)) :
      Offends lookup "CHAINREG_SUMMARY_FORMAT"

def Names (name : String) (trouble : Trouble) : Prop :=
  trouble.context = "Invalid " ++ name ∨
    ∃ value, trouble.context = "Invalid " ++ name ++ ": " ++ value

structure Checks {α : Type} (check : Except Trouble α) (accepts : α → Prop) (name : String) :
    Prop where
  accepted : ∀ x, check = .ok x ↔ accepts x
  refused : ∀ e, check = .error e → Names name e

theorem Checks.none {α : Type} {check : Except Trouble α} {accepts : α → Prop} {name : String}
    (checks : Checks check accepts name) {e : Trouble} (failed : check = .error e) (x : α) :
    ¬accepts x := by
  intro good
  rw [(checks.accepted x).mpr good] at failed
  contradiction

theorem checksUrl : Checks (registryUrlOf lookup)
    (fun url => Hypertext (urlText lookup) ∧ urlText lookup = url) "CHAINREG_REGISTRY_URL" := by
  have sort : Hypertext (urlText lookup) ↔ ("http://".toList.isPrefixOf (urlText lookup).toList ||
      "https://".toList.isPrefixOf (urlText lookup).toList) = true := by
    rw [Bool.or_eq_true, List.isPrefixOf_iff_prefix, List.isPrefixOf_iff_prefix]
    rfl
  have same : registryUrlOf lookup = if "http://".toList.isPrefixOf (urlText lookup).toList ||
      "https://".toList.isPrefixOf (urlText lookup).toList then .ok (urlText lookup)
      else .error { context := "Invalid CHAINREG_REGISTRY_URL: " ++ urlText lookup } := rfl
  rw [same]
  refine ⟨fun url => ?_, fun e failed => ?_⟩
  · rw [sort]
    split
    · rename_i known
      exact ⟨fun read => ⟨known, Except.ok.inj read⟩, fun both => congrArg Except.ok both.2⟩
    · rename_i other
      exact ⟨nofun, fun both => absurd both.1 other⟩
  · split at failed
    · contradiction
    · cases failed
      exact .inr ⟨urlText lookup, congrArg (· ++ urlText lookup) (by decide)⟩

theorem checksTimeout : Checks (timeoutOf lookup) (Counts (timeoutText lookup))
    "CHAINREG_REQUEST_TIMEOUT_MS" := by
  constructor
  · intro n
    rw [← numberIff]
    unfold timeoutOf timeoutText
    split <;> simp_all
  · intro e failed
    unfold timeoutOf at failed
    split at failed
    · contradiction
    · cases failed
      exact .inl rfl

theorem checksWord {α : Type} (word : α → String) (first second : α) (text name heading : String)
    (small : ∀ x, ∀ d ∈ (word x).toList, d.toLower = d) (only : ∀ x, x = first ∨ x = second)
    (apart : word first ≠ word second) (told : heading = "Invalid " ++ name ++ ": ") :
    Checks (if lower text = word first then .ok first else if lower text = word second then
      .ok second else .error { context := heading ++ lower text })
      (fun x => Spells (word x) text) name := by
  refine ⟨fun x => ?_, fun e failed => ?_⟩
  · rw [← lowerIff (small x)]
    split
    · rename_i spelled
      rw [spelled]
      rcases only x with rfl | rfl
      · exact ⟨fun _ => rfl, fun _ => rfl⟩
      · exact ⟨fun read => congrArg word (Except.ok.inj read), fun same => absurd same apart⟩
    · rename_i other
      split
      · rename_i spelled
        rw [spelled]
        rcases only x with rfl | rfl
        · exact ⟨fun read => congrArg word (Except.ok.inj read), fun same => absurd same apart.symm⟩
        · exact ⟨fun _ => rfl, fun _ => rfl⟩
      · rename_i neither
        refine ⟨nofun, fun same => ?_⟩
        rcases only x with rfl | rfl
        · exact absurd same other
        · exact absurd same neither
  · split at failed
    · contradiction
    · split at failed
      · contradiction
      · cases failed
        exact .inr ⟨lower text, by rw [told]⟩

theorem checksLog : Checks (logFormatOf lookup) (fun f => Spells f.name (logText lookup))
    "CHAINREG_LOG_FORMAT" :=
  checksWord LogFormat.name .text .json (logText lookup) "CHAINREG_LOG_FORMAT"
    "Invalid CHAINREG_LOG_FORMAT: " (fun f => by cases f <;> simp [LogFormat.name])
    (fun f => by cases f <;> simp) (by simp [LogFormat.name]) rfl

theorem checksSummary : Checks (summaryFormatOf lookup)
    (fun f => Spells f.name (summaryText lookup)) "CHAINREG_SUMMARY_FORMAT" :=
  checksWord SummaryFormat.name .table .json (summaryText lookup) "CHAINREG_SUMMARY_FORMAT"
    "Invalid CHAINREG_SUMMARY_FORMAT: " (fun f => by cases f <;> simp [SummaryFormat.name])
    (fun f => by cases f <;> simp) (by simp [SummaryFormat.name]) rfl

theorem ofLookupParts (config : Config) : ofLookup lookup = .ok config ↔
    registryUrlOf lookup = .ok config.registryUrl ∧
    (lookup "CHAINREG_API_TOKEN").bind Text.nonBlank = config.apiToken ∧
    (lookup "CHAINREG_DATA_DIR").getD "./data" = config.dataDir ∧
    timeoutOf lookup = .ok config.timeoutMs ∧ logFormatOf lookup = .ok config.logFormat ∧
    summaryFormatOf lookup = .ok config.summaryFormat := by
  simp only [ofLookup, bind, Except.bind]
  generalize registryUrlOf lookup = url
  generalize timeoutOf lookup = timeout
  generalize logFormatOf lookup = log
  generalize summaryFormatOf lookup = summary
  cases url with
  | error e => simp
  | ok url =>
    cases timeout with
    | error e => simp
    | ok timeout =>
      cases log with
      | error e => simp
      | ok log =>
        cases summary with
        | error e => simp
        | ok summary =>
          obtain ⟨_, _, _, _, _, _⟩ := config
          simp [pure, Except.pure]

theorem tokenKept (t : String) : (lookup "CHAINREG_API_TOKEN").bind Text.nonBlank = some t ↔
    lookup "CHAINREG_API_TOKEN" = some t ∧ ¬Text.Blank t := by
  rw [Option.bind_eq_some_iff]
  constructor
  · rintro ⟨s, given, shown⟩
    obtain ⟨filled, rfl⟩ := Text.shownIff.mp shown
    exact ⟨given, filled⟩
  · rintro ⟨given, filled⟩
    exact ⟨t, given, Text.shownIff.mpr ⟨filled, rfl⟩⟩

theorem ofLookupIff (config : Config) : ofLookup lookup = .ok config ↔ Accepted lookup config := by
  rw [ofLookupParts, checksUrl.accepted, checksTimeout.accepted, checksLog.accepted,
    checksSummary.accepted]
  constructor
  · rintro ⟨⟨hypertext, url⟩, token, dataDir, timeout, log, summary⟩
    refine ⟨url.symm, hypertext, fun t => ?_, dataDir.symm, timeout, log, summary⟩
    rw [← token, tokenKept]
  · intro accepted
    refine ⟨⟨accepted.hypertext, accepted.url.symm⟩, Option.ext fun t => ?_, accepted.dataDir.symm,
      accepted.timeout, accepted.log, accepted.summary⟩
    rw [tokenKept, accepted.token]

theorem ofLookupError {e : Trouble} (failed : ofLookup lookup = .error e) :
    ∃ name, Offends lookup name ∧ Names name e := by
  simp only [ofLookup, bind, Except.bind] at failed
  cases url : registryUrlOf lookup with
  | error why =>
    rw [url] at failed
    cases failed
    exact ⟨_, .url fun good => checksUrl.none url _ ⟨good, rfl⟩, checksUrl.refused _ url⟩
  | ok address =>
    obtain ⟨good, -⟩ := (checksUrl.accepted address).mp url
    rw [url] at failed
    cases timeout : timeoutOf lookup with
    | error why =>
      rw [timeout] at failed
      cases failed
      exact ⟨_, .timeout good (checksTimeout.none timeout), checksTimeout.refused _ timeout⟩
    | ok n =>
      have counts := (checksTimeout.accepted n).mp timeout
      rw [timeout] at failed
      cases log : logFormatOf lookup with
      | error why =>
        rw [log] at failed
        cases failed
        exact ⟨_, .log good counts (checksLog.none log), checksLog.refused _ log⟩
      | ok format =>
        have spells := (checksLog.accepted format).mp log
        rw [log] at failed
        cases summary : summaryFormatOf lookup with
        | error why =>
          rw [summary] at failed
          cases failed
          exact ⟨_, .summary good counts spells (checksSummary.none summary),
            checksSummary.refused _ summary⟩
        | ok shape =>
          rw [summary] at failed
          contradiction

end Config
end RegistrySeeding
