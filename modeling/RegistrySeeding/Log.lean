import RegistrySeeding.Json.Writer

/-! Log lines: a level, a message and, for structured lines, named values in name order. -/
namespace RegistrySeeding

inductive Level where
  | debug
  | info
  | warn
  | error
  deriving DecidableEq, Repr

namespace Level

def rank : Level → Nat
  | debug => 0
  | info => 1
  | warn => 2
  | error => 3

def name : Level → String
  | debug => "debug"
  | info => "info"
  | warn => "warn"
  | error => "error"

end Level

inductive Line.Value where
  | text (s : String)
  | count (n : Nat)
  deriving DecidableEq, Repr

structure Line where
  level : Level
  message : String
  values : List (String × Line.Value) := []
  deriving DecidableEq, Repr

namespace Line

def Value.shown : Value → String
  | text s => s
  | count n => toString n

def Value.json : Value → Json
  | text s => .string s
  | count n => .number (.int n)

def text (l : Line) : String :=
  l.values.foldl (fun s (name, value) => s ++ " " ++ name ++ "=" ++ value.shown) l.message

def json (l : Line) : Json :=
  .object (("message", .string l.message) :: l.values.map fun (name, value) => (name, value.json))

def atLeast (level : Level) (l : Line) : Bool := level.rank ≤ l.level.rank

end Line
end RegistrySeeding
