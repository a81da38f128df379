/-! Text in a column: at most so many characters, then spaces up to the width. Widths count
characters. -/
namespace RegistrySeeding.Text

inductive Side where
  | left
  | center
  | right
  deriving DecidableEq, Repr

def Side.before (side : Side) (gap : Nat) : Nat :=
  match side with
  | .left => 0
  | .center => gap / 2
  | .right => gap

structure Column where
  width : Nat := 0
  limit : Option Nat := none
  side : Side := .left
  deriving DecidableEq, Repr

def Column.fit (column : Column) (s : String) : String :=
  let cs := match column.limit with
    | some n => s.toList.take n
    | none => s.toList
  let gap := column.width - cs.length
  let before := column.side.before gap
  String.ofList (List.replicate before ' ' ++ cs ++ List.replicate (gap - before) ' ')

theorem Side.beforeLe (side : Side) (gap : Nat) : side.before gap ≤ gap := by
  cases side <;> simp only [Side.before] <;> omega

theorem fitLength (column : Column) (s : String) (whole : column.limit = none) :
    (column.fit s).toList.length = max column.width s.toList.length := by
  have := column.side.beforeLe (column.width - s.toList.length)
  simp only [Column.fit, whole, String.toList_ofList, List.length_append, List.length_replicate]
  omega

def padEnd (width : Nat) (s : String) : String := Column.fit { width } s

def padStart (width : Nat) (s : String) : String := Column.fit { width, side := .right } s

end RegistrySeeding.Text
