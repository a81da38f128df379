import RegistrySeeding.Json.Record

/-! What a list is that was read: after its opening bracket entries with commas between them, each of
which was read by itself, up to the closing bracket. -/
namespace RegistrySeeding.Json
open Scan (skipGaps)
variable {α : Type}

theorem bindOk {ε β : Type} {work : Except ε α} {next : α → Except ε β} {y : β}
    (came : (work >>= next) = .ok y) : ∃ x, work = .ok x ∧ next x = .ok y := by
  cases work with
  | error fault => cases came
  | ok x => exact ⟨x, rfl, came⟩

def EntryAt (first : Bool) (cs start : List Char) : Prop :=
  if first then skipGaps cs = start else ∃ tail, skipGaps cs = ',' :: tail ∧ skipGaps tail = start

inductive Entries (one : List Char → Except Stop (α × List Char)) :
    Bool → List Char → List α → List Char → Prop where
  | closed {first cs rest} (close : skipGaps cs = ']' :: rest) : Entries one first cs [] rest
  | entry {first cs start x mid xs rest} (begins : EntryAt first cs start)
      (came : one start = .ok (x, mid)) (more : Entries one false mid xs rest) :
      Entries one first cs (x :: xs) rest

theorem nextElementAt {first : Bool} {cs start : List Char}
    (found : Reader.nextElement first cs = .ok (some start)) : EntryAt first cs start := by
  unfold Reader.nextElement at found
  unfold EntryAt
  split at found
  · cases found
  · cases found
  · rename_i c rest _ here
    cases first with
    | true =>
      cases found
      exact here
    | false =>
      simp only [Bool.false_eq_true, if_false] at found ⊢
      split at found
      · rename_i comma
        subst comma
        refine ⟨rest, here, ?_⟩
        split at found
        · cases found
        · cases found
        · cases found
          rfl
      · cases found

theorem nextElementEnd {first : Bool} {cs : List Char}
    (found : Reader.nextElement first cs = .ok none) : ∃ rest, skipGaps cs = ']' :: rest := by
  unfold Reader.nextElement at found
  split at found
  · cases found
  · rename_i rest here
    exact ⟨rest, here⟩
  · split at found
    · cases found
    · split at found
      · split at found <;> cases found
      · cases found

theorem endListAt {cs rest ahead : List Char} (close : skipGaps cs = ']' :: ahead)
    (ended : Reader.endList cs = .ok rest) : rest = ahead := by
  rw [Reader.endList, close] at ended
  cases ended
  rfl

theorem elementsEntries {one : List Char → Except Stop (α × List Char)} {count : Nat}
    {first : Bool} {held last : List α} {cs rest : List Char}
    (read : Reader.elements (fun held cs => do
      let (x, cs) ← one cs
      return (x :: held, cs)) count first held cs = .ok (last, rest)) :
    ∃ xs, Entries one first cs xs rest ∧ last = xs.reverse ++ held := by
  induction count generalizing first held cs with
  | zero => cases read
  | succ count ih =>
    unfold Reader.elements at read
    obtain ⟨next, found, read⟩ := bindOk read
    cases next with
    | none =>
      obtain ⟨ahead, close⟩ := nextElementEnd found
      obtain ⟨after, ended, read⟩ := bindOk read
      cases read
      exact ⟨[], .closed (endListAt close ended ▸ close), rfl⟩
    | some start =>
      obtain ⟨⟨next, mid⟩, step, read⟩ := bindOk read
      obtain ⟨⟨x, mid⟩, came, step⟩ := bindOk step
      cases step
      obtain ⟨xs, more, rfl⟩ := ih read
      refine ⟨x :: xs, .entry (nextElementAt found) came more, ?_⟩
      rw [List.reverse_cons, List.append_assoc]
      rfl

theorem readListEntries {one : Reader α} {levels span : Nat} {cs rest : List Char} {xs : List α}
    (read : Codec.readList one ⟨levels + 1, span⟩ cs = .ok (xs, rest)) :
    ∃ inside, skipGaps cs = '[' :: inside ∧ Entries (one ⟨levels, span⟩) true inside xs rest := by
  unfold Codec.readList at read
  split at read
  · cases read
  · rename_i inside here
    obtain ⟨⟨last, after⟩, gathered, read⟩ := bindOk read
    cases read
    obtain ⟨xs, entries, rfl⟩ := elementsEntries gathered
    refine ⟨inside, here, ?_⟩
    rwa [List.append_nil, List.reverse_reverse]
  · obtain ⟨found, _, refused⟩ := bindOk read
    cases refused

def Codec.Lists (codec : Codec α) (text : String) (xs : List α) : Prop :=
  ∃ inside after, skipGaps text.toList = '[' :: inside ∧
    Entries (codec.read ⟨depthLimit - 1, text.toList.length + 1⟩) true inside xs after ∧
    skipGaps after = []

theorem Codec.decodeLists {codec : Codec α} {text : String} {xs : List α}
    (decoded : codec.list.decode text = .ok xs) : codec.Lists text xs := by
  obtain ⟨⟨ys, after⟩, read, ended⟩ := bindOk (Reader.documentOk.mp decoded)
  obtain ⟨inside, opens, entries⟩ := readListEntries read
  cases left : skipGaps after with
  | nil =>
    simp only [left] at ended
    cases ended
    exact ⟨inside, after, opens, entries, left⟩
  | cons c more =>
    simp only [left] at ended
    cases ended

end RegistrySeeding.Json
