import RegistrySeeding.Source.Files
import RegistrySeeding.Text.Alphanumeric
import RegistrySeeding.Text.Blank

/-! Variables from a file: a name and a value a line, quoted where need be, with comments and
references to other variables. A line that cannot be read ends the reading; what was read before
it counts. A variable that is set already keeps its value. -/
namespace RegistrySeeding.EnvFile

inductive Place where
  | bare
  | blank
  | escape
  | single
  | singleEscape
  | double
  | doubleEscape
  deriving DecidableEq, Repr

def Place.entered : Char → Place
  | '\\' => .escape
  | '"' => .double
  | '\'' => .single
  | _ => .bare

def Place.step : Place → Char → Place
  | .bare, c => if Text.isBlank c && c ≠ '\n' && c ≠ '\r' then .blank else Place.entered c
  | .blank, c => Place.entered c
  | .escape, _ => .bare
  | .single, c => if c = '\\' then .singleEscape else if c = '\'' then .bare else .single
  | .singleEscape, _ => .single
  | .double, c => if c = '\\' then .doubleEscape else if c = '"' then .bare else .double
  | .doubleEscape, _ => .double

def scanLine : Place → List Char → List Char × Bool × Place
  | place, [] => ([], false, place)
  | place, c :: rest =>
    -- A comment needs a blank before it.
    if place = .blank ∧ c = '#' then ([], true, place)
    else
      let (kept, comment, last) := scanLine (place.step c) rest
      (c :: kept, comment, last)

def physical : List UInt8 → List (List UInt8)
  | [] => []
  | b :: rest =>
    if b = 10 then [b] :: physical rest
    else
      match physical rest with
      | [] => [[b]]
      | line :: lines => (b :: line) :: lines

def dropLineEnd (cs : List Char) : List Char :=
  match cs.reverse with
  | '\n' :: '\r' :: rest => rest.reverse
  | '\n' :: rest => rest.reverse
  | _ => cs

/-- Logical lines: a line inside quotes goes on with the next one. A gap stands for what cannot be
read. -/
def logical : Place → List Char → List (List UInt8) → List (Option (List Char))
  | place, _, [] => if place = .bare then [] else [none]
  | place, before, line :: rest =>
    match Text.Utf8.decode? line with
    | none => [none]
    | some s =>
      let whole := before ++ s.toList
      if (Text.dropBlankStart whole).head? = some '#' then some [] :: logical .bare [] rest
      else
        let (kept, comment, last) := scanLine place s.toList
        if comment then some (before ++ kept) :: logical .bare [] rest
        else if last = .bare then some (dropLineEnd whole) :: logical .bare [] rest
        else logical last whole rest

inductive Mode where
  | plain
  | single
  | double
  | escaped (quoted : Bool)
  | reference (quoted : Bool) (name : List Char)
  | braced (quoted : Bool) (name : List Char)
  | ending
  deriving DecidableEq, Repr

def Mode.outside (quoted : Bool) : Mode := if quoted then .double else .plain

def isNameChar (c : Char) : Bool := Text.isAlphanumeric c

def unescaped? (c : Char) : Option Char :=
  if c = 'n' then some '\n' else if "\\'\"$ ".toList.contains c then some c else none

/-- Reads a value; `out` holds it in reverse, and `find` gives what a name stands for. -/
def value (find : String → List Char) : Mode → List Char → List Char → Option (List Char)
  | mode, out, [] =>
    match mode with
    | .single | .double | .braced _ _ => none
    | .escaped quoted => if quoted then none else some out.reverse
    | .reference quoted name =>
      if quoted then none else some (out.reverse ++ find (String.ofList name.reverse))
    | .plain | .ending => some out.reverse
  | .ending, out, c :: rest =>
    if c = ' ' ∨ c = '\t' then value find .ending out rest
    else if c = '#' then some out.reverse
    else none
  | .escaped quoted, out, c :: rest =>
    match unescaped? c with
    | some e => value find (Mode.outside quoted) (e :: out) rest
    | none => none
  | .single, out, c :: rest =>
    if c = '\'' then value find .plain out rest else value find .single (c :: out) rest
  | .reference quoted name, out, c :: rest =>
    if isNameChar c then value find (.reference quoted (c :: name)) out rest
    else if c = '\x7b' ∧ name = [] then value find (.braced quoted []) out rest
    else
      let out := (find (String.ofList name.reverse)).reverse ++ out
      if c = '$' then value find (.reference quoted []) out rest
      else value find (Mode.outside quoted) (c :: out) rest
  | .braced quoted name, out, c :: rest =>
    if c = '\x7d' then
      value find (Mode.outside quoted) ((find (String.ofList name.reverse)).reverse ++ out) rest
    else value find (.braced quoted (c :: name)) out rest
  | .double, out, c :: rest =>
    if c = '$' then value find (.reference true []) out rest
    else if c = '"' then value find .plain out rest
    else if c = '\\' then value find (.escaped true) out rest
    else value find .double (c :: out) rest
  | .plain, out, c :: rest =>
    if c = '$' then value find (.reference false []) out rest
    else if c = '\'' then value find .single out rest
    else if c = '"' then value find .double out rest
    else if c = '\\' then value find (.escaped false) out rest
    else if c = ' ' ∨ c = '\t' then value find .ending out rest
    else value find .plain (c :: out) rest

def startsName (c : Char) : Bool := c.isAlpha || c = '_'

def inName (c : Char) : Bool := c.isAlphanum || c = '_' || c = '.'

def name? (cs : List Char) : Option (List Char × List Char) :=
  match cs with
  | [] => none
  | c :: _ => if startsName c then some (cs.span inName) else none

def afterEqual : List Char → Option (List Char)
  | '=' :: rest => some rest
  | _ => none

def assignment (cs : List Char) : Option (List Char × List Char) := do
  let (name, rest) ← name? cs
  let rest := Text.dropBlankStart rest
  match afterEqual rest with
  | some rest => some (name, rest)
  | none =>
    if name = "export".toList then
      let (name, rest) ← name? rest
      let rest ← afterEqual (Text.dropBlankStart rest)
      some (name, rest)
    else none

abbrev Variables := List (String × String)

structure State where
  environment : Variables
  stored : Variables := []
  deriving DecidableEq, Repr

def State.find (state : State) (name : String) : List Char :=
  (((state.environment.lookup name).or (state.stored.lookup name)).getD "").toList

def State.set (state : State) (name value : String) : State where
  environment :=
    if (state.environment.lookup name).isSome then state.environment
    else state.environment ++ [(name, value)]
  stored := (name, value) :: state.stored

def State.line (state : State) (cs : List Char) : Option State := do
  let cs := Text.dropBlankStart (Text.dropBlankEnd cs)
  if cs.isEmpty ∨ cs.head? = some '#' then some state
  else
    let (name, rest) ← assignment cs
    let rest := Text.dropBlankStart rest
    let text ← if rest.isEmpty ∨ rest.head? = some '#' then some []
      else value state.find .plain [] rest
    some (state.set (String.ofList name) (String.ofList text))

def State.lines : State → List (Option (List Char)) → State
  | state, some cs :: rest =>
    match state.line cs with
    | some state => state.lines rest
    | none => state
  | state, _ => state

def dropByteOrderMark : List UInt8 → List UInt8
  | 0xEF :: 0xBB :: 0xBF :: rest => rest
  | bytes => bytes

def load (environment : Variables) (bytes : List UInt8) : Variables :=
  (State.lines { environment } (logical .bare [] (physical (dropByteOrderMark bytes)))).environment

def fileName : String := ".env"

def loadFrom (files : Files) (environment : Variables) : Variables :=
  match files fileName with
  | .ok bytes => load environment bytes
  | .error _ => environment

end RegistrySeeding.EnvFile
