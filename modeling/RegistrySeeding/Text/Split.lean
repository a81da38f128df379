/-! Text cut at a mark. A cut loses nothing but the mark itself: putting the mark back between the
pieces gives the text again. -/
namespace RegistrySeeding.Text

def pieces (mark : Char) : List Char → List (List Char)
  | [] => [[]]
  | c :: rest =>
    if c = mark then [] :: pieces mark rest
    else
      match pieces mark rest with
      | [] => [[c]]
      | piece :: more => (c :: piece) :: more

def cutFirst (mark : Char) (cs : List Char) : List Char × Option (List Char) :=
  match cs.span (· ≠ mark) with
  | (before, _ :: after) => (before, some after)
  | (before, []) => (before, none)

def cutLast (mark : Char) (cs : List Char) : Option (List Char) × List Char :=
  match cutFirst mark cs.reverse with
  | (after, some before) => (some before.reverse, after.reverse)
  | (_, none) => (none, cs)

end RegistrySeeding.Text
