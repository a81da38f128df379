import RegistrySeeding.Json.Skip
import RegistrySeeding.Proofs.Json.Spelling

/-! Values that nobody reads, in every spelling. They are passed over up to what follows them,
however deep they nest and whatever numbers they hold. The rounds it takes are bounded by the
length, so the budget of a document is enough for each value in it. -/
namespace RegistrySeeding.Json.Skip
open Numeral (digitNot)
open Scan (skipGaps isGap)

theorem literalNumber {cs rest : List Char} (spelled : Numeral.Spelled cs)
    (stops : Numeral.Stops rest) : literal (cs ++ rest) = .ok rest := by
  obtain ⟨sort, front, middle, back⟩ := spelled
  have past := Numeral.skipSpelled front middle back stops
  rcases sort with rfl | rfl
  · obtain ⟨d, ds, rfl, digit⟩ := Numeral.wholeHead front
    rw [List.nil_append]
    simpa [literal, digitNot digit '"' rfl, digitNot digit 'n' rfl, digitNot digit 't' rfl,
      digitNot digit 'f' rfl, digitNot digit '-' rfl, digit] using past
  · exact past

theorem literalSpelled {p : Phrase} {text rest : List Char} (spelled : Spells (.value p) text)
    (leaf : p.leaf = true) (stops : Numeral.Stops rest) : literal (text ++ rest) = .ok rest := by
  cases spelled with
  | null | true | false => rfl
  | string quoted => exact Scan.skipQuoted quoted rest
  | array _ | object _ => cases leaf
  | number spelled => exact literalNumber spelled stops

theorem runGap {gap : List Char} (blank : Gap gap) (n : Nat) {expect : Expect}
    {brackets : List Bracket} (inside : expect = .value ∨ brackets ≠ []) (cs : List Char) :
    run n expect brackets (gap ++ cs) = run n expect brackets cs := by
  cases n with
  | zero => rfl
  | succ n =>
    unfold run
    rw [blank.past]
    rcases inside with rfl | some
    · split <;> simp_all
    · obtain ⟨bracket, outer, rfl⟩ := List.exists_cons_of_ne_nil some
      split <;> simp_all

def Bracket.opening : Bracket → Char
  | .list => '['
  | .object => '\x7b'

theorem runOpening (n : Nat) (brackets : List Bracket) (bracket : Bracket) (cs : List Char) :
    run (n + 1) .value brackets (bracket.opening :: cs) =
      run n .first (bracket :: brackets) cs := by
  cases bracket <;> simp [run, Bracket.opening, skipGaps, isGap]

theorem runLiteral (n : Nat) (brackets : List Bracket) {cs rest : List Char}
    (begins : skipGaps cs = cs) (list : cs.head? ≠ some '[') (object : cs.head? ≠ some '\x7b')
    (one : literal cs = .ok rest) : run (n + 1) .value brackets cs = run n .next brackets rest := by
  cases cs with
  | nil => simp [literal] at one
  | cons c cs =>
    simp only [List.head?_cons, ne_eq, Option.some.injEq] at list object
    simp [run, begins, list, object, one, bind, Except.bind]

theorem runFirst (n : Nat) (brackets : List Bracket) (bracket : Bracket) {cs : List Char}
    (begins : Begins cs) (rest : List Char) : run (n + 1) .first (bracket :: brackets) (cs ++ rest) =
      run n bracket.entry (bracket :: brackets) (cs ++ rest) := by
  obtain ⟨c, more, rfl, solid, list, object, _⟩ := begins
  cases bracket <;> simp [run, skipGaps, solid, Bracket.close, list, object]

theorem runClose (n : Nat) (brackets : List Bracket) (bracket : Bracket) {expect : Expect}
    (at' : expect = .first ∨ expect = .next) (cs : List Char) :
    run (n + 1) expect (bracket :: brackets) (bracket.close :: cs) = run n .next brackets cs := by
  rcases at' with rfl | rfl <;> cases bracket <;>
    simp [run, skipGaps, isGap, Bracket.close]

theorem runComma (n : Nat) (brackets : List Bracket) (bracket : Bracket) (cs : List Char) :
    run (n + 1) .next (bracket :: brackets) (',' :: cs) =
      run n bracket.entry (bracket :: brackets) cs := by
  simp [run, skipGaps, isGap]

def Passes (expect : Expect) (inner : List Bracket) (cs : List Char) (outer : List Bracket) :
    Prop :=
  ∀ rest, Numeral.Stops rest → ∃ rounds ≤ 2 * cs.length, ∀ n,
    run (rounds + n) expect inner (cs ++ rest) = run n .next outer rest

theorem passesThen (expect : Expect) (inner : List Bracket) (front : List Char) (extra : Nat)
    {mid outer : List Bracket} {cs more : List Char} (few : extra ≤ 2 * front.length)
    (step : ∀ n tail, run (extra + n) expect inner (front ++ (cs ++ tail)) =
      run n .value mid (cs ++ tail))
    (one : Passes .value mid cs mid) (all : Passes .next mid more outer)
    (stops : ∀ rest, Numeral.Stops (more ++ rest)) :
    Passes expect inner (front ++ (cs ++ more)) outer := by
  intro rest after
  obtain ⟨first, short, passed⟩ := one (more ++ rest) (stops rest)
  obtain ⟨second, brief, done⟩ := all rest after
  refine ⟨extra + (first + second), by simp only [List.length_append]; omega, fun n => ?_⟩
  rw [Nat.add_assoc, Nat.add_assoc, List.append_assoc, List.append_assoc, step, passed, done]

/-- What is still inside a bracket is passed over with its closing mark; the opening mark counts as
part of it if nothing came before. -/
def Leaves (bracket : Bracket) (brackets : List Bracket) (text : List Char) : Bool → Prop
  | true => Passes .value brackets (bracket.opening :: text) brackets
  | false => Passes .next (bracket :: brackets) text brackets

theorem leavesEnd (bracket : Bracket) (brackets : List Bracket) {gap : List Char}
    (blank : Gap gap) (first : Bool) :
    Leaves bracket brackets (gap ++ [bracket.close]) first := by
  have some : bracket :: brackets ≠ [] := List.cons_ne_nil _ _
  cases first with
  | true =>
    refine fun rest _ => ⟨2, by simp only [List.length_cons]; omega, fun n => ?_⟩
    rw [Nat.add_comm, List.cons_append, runOpening, List.append_assoc, runGap blank _ (.inr some)]
    exact runClose n brackets bracket (.inl rfl) rest
  | false =>
    refine fun rest _ => ⟨1, by simp; omega, fun n => ?_⟩
    rw [Nat.add_comm, List.append_assoc, runGap blank _ (.inr some)]
    exact runClose n brackets bracket (.inr rfl) rest

theorem leavesEntry {bracket : Bracket} {brackets : List Bracket} {first : Bool}
    {lead front text more : List Char} (leads : Lead first lead) {extra : Nat}
    (few : extra ≤ 2 * front.length) (begins : Begins (front ++ text))
    (step : ∀ n tail,
      run (extra + n) bracket.entry (bracket :: brackets) (front ++ (text ++ tail)) =
        run n .value (bracket :: brackets) (text ++ tail))
    (one : Passes .value (bracket :: brackets) text (bracket :: brackets))
    (all : Leaves bracket brackets more false) (stops : ∀ rest, Numeral.Stops (more ++ rest)) :
    Leaves bracket brackets (lead ++ (front ++ (text ++ more))) first := by
  have some : bracket :: brackets ≠ [] := List.cons_ne_nil _ _
  cases leads with
  | first blank =>
    -- The opening mark and the lead are the part before the entry; `extra` is what its name takes.
    have whole := passesThen .value brackets (bracket.opening :: (lead ++ front)) (extra + 2)
      (by simp; omega) (fun n tail => ?_) one all stops
    · simpa [Leaves] using whole
    · rw [show extra + 2 + n = extra + n + 1 + 1 by omega, List.cons_append, runOpening,
        List.append_assoc, runGap blank _ (.inr some), ← List.append_assoc,
        runFirst _ _ _ begins, List.append_assoc, step]
  | @later gap gap' blank blank' =>
    have whole := passesThen .next (bracket :: brackets) (gap ++ ',' :: (gap' ++ front))
      (extra + 1) (by simp; omega) (fun n tail => ?_) one all stops
    · simpa [Leaves] using whole
    · rw [show extra + 1 + n = extra + n + 1 by omega, List.append_assoc,
        runGap blank _ (.inr some), List.cons_append, runComma, List.append_assoc,
        runGap blank' _ (.inr some), step]

def Passed : Target → List Char → Prop
  | .value _, text => ∀ brackets, Passes .value brackets text brackets
  | .items first _, text => ∀ brackets, Leaves .list brackets text first
  | .members first _, text => ∀ brackets, Leaves .object brackets text first

theorem passedLiteral {p : Phrase} {text : List Char} (spelled : Spells (.value p) text)
    (leaf : p.leaf = true) : Passed (.value p) text := by
  intro brackets rest stops
  obtain ⟨c, cs, same, opens⟩ := spelled.opens
  obtain ⟨list, object⟩ := opens.leaf leaf
  refine ⟨1, by rw [same, List.length_cons]; omega, fun n => ?_⟩
  rw [Nat.add_comm]
  refine runLiteral n brackets (spelled.begins.past rest) ?_ ?_
    (literalSpelled spelled leaf stops)
  · rw [same]
    rintro ⟨⟩
    exact list rfl
  · rw [same]
    rintro ⟨⟩
    exact object rfl

theorem runNamed (n : Nat) (brackets : List Bracket) {name quoted gap : List Char}
    (named : Scan.Quoted name quoted) (blank : Gap gap) (cs : List Char) :
    run (n + 1) .member brackets ('"' :: (quoted ++ (gap ++ ':' :: cs))) =
      run n .value brackets cs := by
  have past := Scan.skipQuoted named (gap ++ ':' :: cs)
  have here : skipGaps (gap ++ ':' :: cs) = ':' :: cs := blank.past _
  simp [run, skipGaps, isGap, past, bind, Except.bind]
  simp [Reader.colon, here]

theorem passedSpelled {target : Target} {text : List Char} (spelled : Spells target text) :
    Passed target text := by
  induction spelled with
  | null => exact passedLiteral .null rfl
  | true => exact passedLiteral .true rfl
  | false => exact passedLiteral .false rfl
  | number spelled => exact passedLiteral (.number spelled) rfl
  | string quoted => exact passedLiteral (.string quoted) rfl
  | array _ ih => exact ih
  | object _ ih => exact ih
  | itemsEnd blank => exact fun brackets => leavesEnd .list brackets blank _
  | membersEnd blank => exact fun brackets => leavesEnd .object brackets blank _
  | @item first p ps lead text more leads spelled later one all =>
    intro brackets
    have few : 0 ≤ 2 * ([] : List Char).length := Nat.zero_le _
    exact leavesEntry leads few spelled.begins (fun n tail => by rw [Nat.zero_add]; rfl) (one _)
      (all brackets) later.itemsStop
  | @member first name p ms lead quoted gap gap' text more leads named blank blank' spelled later
      one all =>
    intro brackets
    have few : 1 ≤ 2 * ('"' :: (quoted ++ (gap ++ ':' :: gap'))).length := by simp; omega
    have begins : Begins ('"' :: (quoted ++ (gap ++ ':' :: gap')) ++ text) :=
      ⟨'"', _, rfl, by decide, by decide, by decide, by decide⟩
    have whole := leavesEntry leads few begins (fun n tail => ?_) (one _) (all brackets)
      later.membersStop
    · simpa using whole
    · have read := runNamed n (.object :: brackets) named blank (gap' ++ (text ++ tail))
      rw [runGap blank' _ (.inl rfl)] at read
      simpa [Nat.add_comm, Bracket.entry] using read

theorem Passes.value {cs : List Char} (passes : Passes .value [] cs []) {budget : Budget}
    {rest : List Char} (covers : cs.length ≤ budget.span) (stops : Numeral.Stops rest) :
    value budget (cs ++ rest) = .ok ((), rest) := by
  obtain ⟨rounds, few, passed⟩ := passes rest stops
  have enough := passed (2 * budget.span + 2 - rounds)
  rw [Nat.add_sub_cancel' (by omega)] at enough
  obtain ⟨left, more⟩ : ∃ left, 2 * budget.span + 2 - rounds = left + 1 :=
    ⟨2 * budget.span + 1 - rounds, by omega⟩
  rw [Skip.value, enough, more]
  simp [run, bind, Except.bind, pure, Except.pure]

theorem valueSpelled {p : Phrase} {gap text rest : List Char} (blank : Gap gap)
    (spelled : Spells (.value p) text) {budget : Budget} (covers : text.length ≤ budget.span)
    (stops : Numeral.Stops rest) : value budget (gap ++ (text ++ rest)) = .ok ((), rest) := by
  rw [value, runGap blank _ (.inl rfl)]
  exact (passedSpelled spelled []).value covers stops

end RegistrySeeding.Json.Skip
