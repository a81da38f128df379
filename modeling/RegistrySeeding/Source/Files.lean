import RegistrySeeding.Text.Split
import RegistrySeeding.Text.Utf8

/-! What reading a path gives, and trees of files as values. A path is walked a component at a
time from the working directory, or from the root when it starts with a slash. -/
namespace RegistrySeeding

inductive FileFault where
  | notFound
  | notDirectory
  | isDirectory
  | notText
  | other (detail : String)
  deriving DecidableEq, Repr

def FileFault.message : FileFault → String
  | .notFound => "No such file or directory (os error 2)"
  | .notDirectory => "Not a directory (os error 20)"
  | .isDirectory => "Is a directory (os error 21)"
  | .notText => "stream did not contain valid UTF-8"
  | .other detail => detail

abbrev Files := String → Except FileFault (List UInt8)

def Files.text (files : Files) (path : String) : Except FileFault String :=
  match files path with
  | .error fault => .error fault
  | .ok bytes =>
    match Text.Utf8.decode? bytes with
    | some s => .ok s
    | none => .error .notText

def joinPath (directory name : String) : String :=
  if directory.isEmpty || directory.toList.getLast? = some '/' then directory ++ name
  else directory ++ "/" ++ name

def route (path : String) : List String × List String :=
  let parts := (Text.pieces '/' path.toList).map String.ofList
  if path.toList.head? = some '/' then (["/"], parts) else ([], parts)

inductive Content where
  | file (bytes : List UInt8)
  | folder
  deriving DecidableEq, Repr

structure Tree where
  entries : List (List String × Content) := []
  deriving DecidableEq, Repr

namespace Tree

def ofNames (named : List (String × Content)) : Tree :=
  ⟨named.map fun (name, content) =>
    let (start, parts) := route name
    (start ++ parts.filter (· ≠ ""), content)⟩

def node? (tree : Tree) (place : List String) : Option Content :=
  if place = [] ∨ place = ["/"] then some .folder
  else
    match tree.entries.lookup place with
    | some content => some content
    | none => if tree.entries.any fun e => place.isPrefixOf e.1 then some .folder else none

def walk (tree : Tree) : List String → List String → Except FileFault (List String)
  | place, [] => .ok place
  | place, part :: rest =>
    match tree.node? place with
    | none => .error .notFound
    | some (.file _) => .error .notDirectory
    | some .folder =>
      if part = "" ∨ part = "." then tree.walk place rest
      else if part = ".." then
        if place = [] then .error .notFound
        else if place = ["/"] then tree.walk place rest
        else tree.walk place.dropLast rest
      else tree.walk (place ++ [part]) rest

def read (tree : Tree) : Files := fun path =>
  let (start, parts) := route path
  match tree.walk start parts with
  | .error fault => .error fault
  | .ok place =>
    match tree.node? place with
    | none => .error .notFound
    | some .folder => .error .isDirectory
    | some (.file bytes) => .ok bytes

end Tree
end RegistrySeeding
