import RegistrySeeding.Proofs.Json.Meaning

/-! What each codec makes of a value in any spelling. A codec has a sense, which says of every
phrase what it stands for or that it is refused; which phrases are refused is said shape by
shape. -/
namespace RegistrySeeding.Json
open Scan (skipGaps)
variable {α : Type}

namespace Phrase

def text? : Phrase → Option String
  | string s => some s
  | _ => none

def flag? : Phrase → Option Bool
  | bool b => some b
  | _ => none

def count? (limit : Nat) : Phrase → Option Nat
  | number literal =>
    if literal.all Char.isDigit ∧ Nat.ofDigitChars 10 literal 0 ≤ limit then
      some (Nat.ofDigitChars 10 literal 0)
    else none
  | _ => none

def uint32? (p : Phrase) : Option UInt32 := (p.count? (UInt32.size - 1)).map .ofNat

def items? (one : Phrase → Option α) : Phrase → Option (List α)
  | array ps => ps.mapM one
  | _ => none

def orNull? (one : Phrase → Option α) : Phrase → Option (Option α)
  | null => some none
  | p => (one p).map some

def members? (levels : Nat) : Phrase → Option (List (String × Json))
  | object ms => ms.foldlM (keep levels) []
  | _ => none

end Phrase

@[simp]
theorem wrongTypeRefused (expected : String) (cs : List Char) :
    (Reader.wrongType expected cs : Except Stop α).toOption = none := by
  rw [Reader.wrongType, toOptionBind]
  cases Reader.found cs <;> rfl

def Codec.Senses (codec : Codec α) (levels : Nat) (sense : Phrase → Option α) : Prop :=
  ∀ p text span, Spells (.value p) text → text.length ≤ span →
    Yields (codec.read ⟨levels, span⟩) text (sense p)

namespace Codec

theorem stringSenses (levels : Nat) : string.Senses levels Phrase.text? := by
  intro p text span spelled _ gap rest blank stops
  have here := spelled.here blank rest
  change (readString "a string" _).toOption = _
  unfold readString
  rw [here]
  cases spelled with
  | string quoted => simp [Scan.stringQuoted quoted, Phrase.text?]
  | number spelled =>
    obtain ⟨c, cs, same, sort⟩ := spelled.opens
    rw [same]
    simp [Phrase.text?, Numeral.headNot sort '"' (by decide) rfl]
  | _ => exact wrongTypeRefused _ _

theorem boolSenses (levels : Nat) : bool.Senses levels Phrase.flag? := by
  intro p text span spelled _ gap rest blank stops
  have here := spelled.here blank rest
  change (readBool _).toOption = _
  unfold readBool
  rw [here]
  cases spelled with
  | true | false => rfl
  | number spelled =>
    obtain ⟨c, cs, same, sort⟩ := spelled.opens
    have apart := Numeral.headNot sort
    rw [same]
    simp [Phrase.flag?, apart 't' (by decide) rfl, apart 'f' (by decide) rfl]
  | _ => exact wrongTypeRefused _ _

theorem naturalNumber (limit : Nat) (expected : String) {cs literal rest : List Char}
    (spelled : Numeral.Spelled literal) (here : skipGaps cs = literal ++ rest) :
    readNatural limit expected cs = do
      let (n, rest) ← Numeral.read (literal ++ rest)
      return (← (natural limit expected n).mapError (.before rest), rest) := by
  obtain ⟨c, more, rfl, sort⟩ := spelled.opens
  rw [readNatural, here]
  simp [sort]

theorem naturalRefused {limit : Nat} (expected : String) {literal rest : List Char}
    (spelled : Numeral.Spelled literal) (stops : Numeral.Stops rest)
    (other : ¬(literal.all Char.isDigit ∧ Nat.ofDigitChars 10 literal 0 ≤ limit)) {n : Number}
    {after : List Char} (came : Numeral.read (literal ++ rest) = .ok (n, after)) :
    (natural limit expected n).toOption = none := by
  cases n with
  | float x => rfl
  | int k =>
    rw [natural, if_neg, toOptionError]
    rintro ⟨natural, within⟩
    obtain ⟨digits, rfl⟩ := Numeral.readInt spelled stops natural came
    exact other ⟨List.all_eq_true.mpr digits, Int.ofNat_le.mp within⟩

theorem naturalSpelled {limit : Nat} (expected : String) (small : limit ≤ Numeral.significandLimit)
    {p : Phrase} {text : List Char} (spelled : Spells (.value p) text) :
    Yields (readNatural limit expected) text (p.count? limit) := by
  intro gap rest blank stops
  have here := spelled.here blank rest
  cases spelled with
  | number spelled =>
    rw [naturalNumber limit expected spelled here, toOptionBind]
    by_cases fits : text.all Char.isDigit ∧ Nat.ofDigitChars 10 text 0 ≤ limit
    · have read := Numeral.readCount spelled (List.all_eq_true.mp fits.1)
        (Nat.le_trans fits.2 small) stops
      rw [read, Phrase.count?, if_pos fits]
      simp [natural, fits.2, bind, Except.bind, pure, Except.pure]
    · rw [Phrase.count?, if_neg fits]
      cases came : Numeral.read (text ++ rest) with
      | error fault => rfl
      | ok read =>
        have refused := naturalRefused expected spelled stops fits came
        rw [toOptionOk, Option.bind_some, toOptionBind, toOptionMapError, refused]
        rfl
  | _ =>
    rw [readNatural, here]
    exact wrongTypeRefused _ _

theorem uint32Senses (levels : Nat) : uint32.Senses levels Phrase.uint32? := by
  intro p text span spelled _
  have read : Yields (readNatural (UInt32.size - 1) "u32") text (p.count? (UInt32.size - 1)) :=
    naturalSpelled "u32" (by decide) spelled
  exact read.map UInt32.ofNat

theorem Senses.option {codec : Codec α} {levels : Nat} {sense : Phrase → Option α}
    (one : codec.Senses levels sense) : codec.option.Senses levels (Phrase.orNull? sense) := by
  intro p text span spelled covers gap rest blank stops
  have here := spelled.here blank rest
  have read : Yields (codec.read ⟨levels, span⟩) text (sense p) := one p text span spelled covers
  have read := (read.map some) [] rest .none stops
  simp only [Codec.option]
  rw [here]
  cases spelled with
  | null => rfl
  | number spelled =>
    obtain ⟨c, cs, rfl, sort⟩ := spelled.opens
    have other := Numeral.headNot sort 'n' (by decide) rfl
    rw [List.nil_append] at read
    simp only [List.cons_append, List.cons.injEq, other, false_and, imp_false, not_false_eq_true,
      implies_true] at read ⊢
    exact read
  | true | false => exact read
  | string quoted => exact read
  | array inside => exact read
  | object inside => exact read

theorem Senses.list {codec : Codec α} {levels : Nat} {sense : Phrase → Option α}
    (one : codec.Senses levels sense) : codec.list.Senses (levels + 1) (Phrase.items? sense) := by
  intro p text span spelled covers gap rest blank stops
  have here := spelled.here blank rest
  change (readList codec.read _ _).toOption = _
  unfold readList
  rw [here]
  cases spelled with
  | @array ps _ inside =>
    have read := keptSpelled (fun p text => one p text span) inside (Nat.le_of_succ_le covers) rest
    change (Reader.elements (keepItem (codec.read ⟨levels, span⟩)) span true [] _ >>= _).toOption = _
    rw [toOptionBind, List.append_eq, read, Phrase.items?]
    cases ps.mapM sense <;> simp [pure, Except.pure]
  | number spelled =>
    obtain ⟨c, cs, same, sort⟩ := spelled.opens
    rw [same]
    simp [Phrase.items?, Numeral.headNot sort '[' (by decide) rfl]
  | _ => exact wrongTypeRefused _ _

theorem objectSenses (levels : Nat) : object.Senses (levels + 1) (Phrase.members? levels) := by
  intro p text span spelled covers gap rest blank stops
  have here := spelled.here blank rest
  change (Reader.objectMembers _ _).toOption = _
  unfold Reader.objectMembers
  rw [here]
  cases spelled with
  | object inside =>
    exact gatheredSpelled (fun _ _ => Json.valueSpelled span levels) inside
      (Nat.le_of_succ_le covers) rest
  | number spelled =>
    obtain ⟨c, cs, same, sort⟩ := spelled.opens
    rw [same]
    simp [Phrase.members?, Numeral.headNot sort '\x7b' (by decide) rfl]
  | _ => exact wrongTypeRefused _ _

end Codec

inductive Kind where
  | text
  | texts
  | flag
  | count (limit : Nat)
  | object
  | orNull (kind : Kind)
  deriving DecidableEq, Repr

inductive Kind.Fits (levels : Nat) : Kind → Phrase → Prop where
  | text (s : String) : Fits levels .text (.string s)
  | texts {ps : List Phrase} (each : ∀ p ∈ ps, Fits levels .text p) : Fits levels .texts (.array ps)
  | flag (b : Bool) : Fits levels .flag (.bool b)
  | count {limit : Nat} {literal : List Char} (digits : literal.all Char.isDigit)
      (within : Nat.ofDigitChars 10 literal 0 ≤ limit) :
      Fits levels (.count limit) (.number literal)
  | object {ms : List (String × Phrase)} (within : Phrase.Within levels (.object ms)) :
      Fits levels .object (.object ms)
  | null {kind : Kind} : Fits levels (.orNull kind) .null
  | value {kind : Kind} {p : Phrase} (fits : Fits levels kind p) : Fits levels (.orNull kind) p

structure Codec.Admits (codec : Codec α) (levels : Nat) (kind : Kind) (sense : Phrase → Option α) :
    Prop where
  senses : codec.Senses levels sense
  fits {p : Phrase} {text : List Char} : Spells (.value p) text →
    ((sense p).isSome ↔ kind.Fits levels p)

namespace Codec

theorem textSome (levels : Nat) (p : Phrase) :
    p.text?.isSome ↔ Kind.text.Fits levels p := by
  cases p with
  | string s => exact iff_of_true rfl (.text s)
  | _ => exact iff_of_false nofun nofun

theorem admitsText (levels : Nat) : string.Admits levels .text Phrase.text? :=
  ⟨stringSenses levels, fun _ => textSome levels _⟩

theorem admitsTexts (levels : Nat) :
    string.list.Admits (levels + 1) .texts (Phrase.items? Phrase.text?) where
  senses := (stringSenses levels).list
  fits {p _} _ := by
    cases p with
    | array ps =>
      rw [Phrase.items?, mapMSome]
      exact ⟨fun all => .texts fun p inside => (textSome _ p).mp (all p inside),
        fun | .texts each => fun p inside => (textSome _ p).mpr (each p inside)⟩
    | _ => exact iff_of_false nofun nofun

theorem admitsFlag (levels : Nat) : bool.Admits levels .flag Phrase.flag? where
  senses := boolSenses levels
  fits {p _} _ := by
    cases p with
    | bool b => exact iff_of_true rfl (.flag b)
    | _ => exact iff_of_false nofun nofun

theorem countSome (levels limit : Nat) (p : Phrase) :
    (p.count? limit).isSome ↔ (Kind.count limit).Fits levels p := by
  cases p with
  | number literal =>
    rw [Phrase.count?]
    split
    · rename_i fits
      exact iff_of_true rfl (.count fits.1 fits.2)
    · rename_i other
      exact iff_of_false nofun fun | .count digits within => other ⟨digits, within⟩
  | _ => exact iff_of_false nofun nofun

theorem admitsCount (levels : Nat) :
    uint32.Admits levels (.count (UInt32.size - 1)) Phrase.uint32? :=
  ⟨uint32Senses levels, fun _ => by rw [Phrase.uint32?, Option.isSome_map, countSome levels]⟩

theorem admitsObject (levels : Nat) :
    object.Admits (levels + 1) .object (Phrase.members? levels) where
  senses := objectSenses levels
  fits {p _} spelled := by
    cases p with
    | object ms =>
      have whole : (Option.map _ (ms.foldlM (Phrase.keep levels) [])).isSome ↔
          Phrase.Within (levels + 1) (.object ms) :=
        valueSome (levels + 1) spelled
      rw [Option.isSome_map] at whole
      exact whole.trans ⟨.object, fun | .object within => within⟩
    | _ => exact iff_of_false nofun nofun

theorem Admits.orNull {codec : Codec α} {levels : Nat} {kind : Kind} {sense : Phrase → Option α}
    (one : codec.Admits levels kind sense) :
    codec.option.Admits levels (.orNull kind) (Phrase.orNull? sense) where
  senses := one.senses.option
  fits {p _} spelled := by
    have inner := one.fits spelled
    cases p with
    | null => exact iff_of_true rfl .null
    | _ =>
      rw [Phrase.orNull?, Option.isSome_map, inner]
      · exact ⟨.value, fun | .value fits => fits⟩
      · exact nofun

end Codec
end RegistrySeeding.Json
