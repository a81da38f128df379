import RegistrySeeding.Client.Mapping
import RegistrySeeding.Client.Punycode
import RegistrySeeding.Text.Compose
import RegistrySeeding.Text.Direction
import RegistrySeeding.Text.Joining
import RegistrySeeding.Text.Mark
import RegistrySeeding.Text.Split

/-! Labels of host names. A name is mapped, composed and parted at its dots; a label in its ASCII
form is read, so that it keeps the same rules as any other; and every label is written in ASCII. -/
namespace RegistrySeeding.Label
open Text (Direction Joining pieces)
open Text.Compose (combiningClass compose)

def isAscii (c : Char) : Bool := c.toNat < 0x80

def read? : List Char → Option (List Char)
  | 'x' :: 'n' :: '-' :: '-' :: code =>
    if code.all isAscii ∧ code ≠ [] ∧ code.getLast? ≠ some '-' ∧ code.length ≤ 2000 then do
      let label ← Punycode.decode? code
      if Mapping.settled label ∧ compose label = label then some label else none
    else none
  | label => some label

def faces (towards : Joining) (cs : List Char) : Bool :=
  match (cs.map Joining.ofChar).find? (· ≠ .transparent) with
  | some joining => joining = towards || joining = .dual
  | none => false

def joinersFit (before : List Char) : List Char → Bool
  | [] => true
  | c :: rest =>
    -- A joiner follows a virama; the one that parts letters may also stand between two that join.
    (if c = '\u200C' ∨ c = '\u200D' then
      before.head?.any (fun b => combiningClass b.toNat = 9)
        || (c = '\u200C' && faces .left before && faces .right rest)
    else true) && joinersFit (c :: before) rest

def sound (label : List Char) : Bool :=
  !label.head?.any Text.isMark && joinersFit [] label
    && (label.all isAscii || label.length ≤ 1000)

def turns (label : List Char) : Bool :=
  label.any fun c => Direction.ofChar c = .rightToLeft || Direction.ofChar c = .arabicNumber

def keepsDirection (label : List Char) : Bool :=
  let directions := label.map Direction.ofChar
  let has (d : Direction) := directions.contains d
  let endsIn (ds : List Direction) := (directions.reverse.find? (· ≠ .mark)).any ds.contains
  match directions.head? with
  | none => true
  | some .leftToRight =>
    !has .rightToLeft && !has .arabicNumber && endsIn [.leftToRight, .europeanNumber]
  | some .rightToLeft =>
    !has .leftToRight && !(has .arabicNumber && has .europeanNumber)
      && endsIn [.rightToLeft, .arabicNumber, .europeanNumber]
  | some _ => false

def labels? (name : List Char) : Option (List (List Char)) := do
  let mapped ← Mapping.mapped? name
  let labels ← (pieces '.' (compose mapped)).mapM read?
  if labels.all sound ∧ (labels.any turns → labels.all keepsDirection) then some labels else none

def written (label : List Char) : List Char :=
  if label.all isAscii then label else "xn--".toList ++ Punycode.encode label

def ofName? (name : List Char) : Option (List Char) := do
  some (['.'].intercalate ((← labels? name).map written))

end RegistrySeeding.Label
