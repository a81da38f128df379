import RegistrySeeding.Client.Host
import RegistrySeeding.Text.Base64

/-! Absolute addresses in their normal form: scheme and host in lower case, default ports left
out, dot segments resolved, characters that may not stand for themselves percent-encoded. -/
namespace RegistrySeeding

structure Url where
  scheme : String
  username : String := ""
  password : Option String := none
  host : Option String := none
  portNumber : Option Nat := none
  path : String
  query : Option String := none
  fragment : Option String := none
  deriving DecidableEq, Repr

namespace Url
open Percent (encode)
open Text (cutFirst cutLast pieces)

def inFragment (c : Char) : Bool := " \"<>`".toList.contains c

def inPath (c : Char) : Bool := inFragment c || "#?\x7b\x7d".toList.contains c

def inUser (c : Char) : Bool := inPath c || "/:;=@[\\]^|".toList.contains c

def inQuery (special : Bool) (c : Char) : Bool :=
  " \"#<>".toList.contains c || (special && c = '\'')

def defaultPort (scheme : String) : Option Nat :=
  if scheme = "http" ∨ scheme = "ws" then some 80
  else if scheme = "https" ∨ scheme = "wss" then some 443
  else if scheme = "ftp" then some 21
  else none

def hierarchical (scheme : String) : Bool := (defaultPort scheme).isSome || scheme = "file"

def isAlpha (c : Char) : Bool := ('a' ≤ c && c ≤ 'z') || ('A' ≤ c && c ≤ 'Z')

def inScheme (c : Char) : Bool :=
  isAlpha c || ('0' ≤ c && c ≤ '9') || c = '+' || c = '-' || c = '.'

def cut (ends : Char → Bool) (cs : List Char) : List Char × List Char :=
  cs.span fun c => !ends c

def doubleDot (cs : List Char) : Bool :=
  [".." , "%2e%2e", "%2e.", ".%2e"].contains (String.ofList (cs.map Char.toLower))

def singleDot (cs : List Char) : Bool := [".", "%2e"].contains (String.ofList (cs.map Char.toLower))

def isDrive : List Char → Bool
  | [c, mark] => isAlpha c && (mark = ':' || mark = '|')
  | _ => false

def parent : List String → List String
  | [] => []
  | last :: rest => if isDrive last.toList then last :: rest else rest

def enter (file : Bool) (out : List String) (segment : List Char) : List String :=
  -- The drive of a file is its first segment and has a colon.
  if doubleDot segment then parent out
  else if singleDot segment then out
  else if file && out.isEmpty && isDrive segment then [String.ofList (segment.take 1) ++ ":"]
  else encode inPath segment :: out

def resolve (file : Bool) (segments : List (List Char)) : List String :=
  let out := (segments.foldl (enter file) []).reverse
  if segments.getLast?.any fun last => doubleDot last || singleDot last then out ++ [""] else out

def isSlash (special : Bool) (c : Char) : Bool := c = '/' || (special && c = '\\')

def segments (special file : Bool) (cs : List Char) : List String :=
  let cs := cs.map fun c => if isSlash special c then '/' else c
  resolve file (pieces '/' (match cs with
    | '/' :: rest => rest
    | cs => cs))

def pathText (segments : List String) : String := "/" ++ String.intercalate "/" segments

def hostAndPort : Bool → List Char → List Char × Option (List Char)
  | _, [] => ([], none)
  | inside, c :: rest =>
    -- A colon inside brackets is part of the host.
    if c = ':' ∧ ¬inside then ([], some rest)
    else
      let inside := if c = '[' then true else if c = ']' then false else inside
      let (host, number) := hostAndPort inside rest
      (c :: host, number)

def portNumber? (scheme : String) : Option (List Char) → Option (Option Nat)
  | none => some none
  | some cs => do
    if cs.any fun c => (Text.digit? c).isNone then none
    else
      let n ← Text.numeral? 10 cs
      if 65535 < n then none
      else if cs.isEmpty ∨ defaultPort scheme = some n then some none
      else some (some n)

def opaqueHost? (cs : List Char) : Option String :=
  if cs.head? = some '[' then Host.parse cs
  else if cs.any fun c => c = '\x00' || " #/:<>?@[\\]^|".toList.contains c then none
  else some (encode (fun _ => false) cs)

def withAuthority (scheme : String) (special : Bool) (authority path : List Char) : Option Url := do
  -- Only a host that is not empty may have a name, a password or a number; a backslash after the
  -- number belongs to the path.
  let (user, place) := cutLast '@' authority
  let (hostText, tail) := hostAndPort false place
  let (portText, stray) := match tail with
    | none => (none, [])
    | some tail => let (number, stray) := cut (· = '\\') tail; (some number, stray)
  let host ← if special then Host.parse hostText else opaqueHost? hostText
  let portNumber ← portNumber? scheme portText
  let (name, password) := match user with
    | none => ([], none)
    | some user => cutFirst ':' user
  let password := match password with
    | some [] => none
    | other => other
  if host.isEmpty ∧ (portText.isSome ∨ user = some [] ∨ name ≠ [] ∨ password.isSome) then none
  else
    let path := if stray.isEmpty then path else '/' :: stray ++ path
    let path := if !special && path.isEmpty then "" else pathText (segments special false path)
    return { scheme, host := some host, portNumber, path, username := encode inUser name,
             password := password.map (encode inUser) }

def file (host : String) (cs : List Char) : Url :=
  -- A file has no name, password or number, its own host is not written, and a drive takes the
  -- place of any host. Slashes at the start of its path count once.
  let path := segments true true cs
  let host := if path.head?.any fun first => isDrive first.toList then "" else host
  { scheme := "file", host := some host, path := pathText (path.dropWhile (·.isEmpty)) }

def fileBody : List Char → Option Url
  | a :: b :: rest =>
    if isSlash true a && isSlash true b then do
      let (hostText, path) := cut (isSlash true) rest
      if hostText.isEmpty ∨ isDrive hostText then some (file "" rest)
      else
        let host ← Host.parse hostText
        some (file (if host = "localhost" then "" else host) path)
    else some (file "" (a :: b :: rest))
  | cs => some (file "" cs)

def body (scheme : String) (cs : List Char) : Option Url :=
  if scheme = "file" then fileBody cs
  else if hierarchical scheme then
    let (authority, path) := cut (isSlash true) (cs.dropWhile (isSlash true))
    withAuthority scheme true authority path
  else
    match cs with
    | '/' :: '/' :: rest =>
      let (authority, path) := cut (· = '/') rest
      withAuthority scheme false authority path
    | '/' :: rest => some { scheme, path := pathText (segments false false rest) }
    | cs => some { scheme, path := encode (fun _ => false) cs }

def clean (cs : List Char) : List Char :=
  let outer (c : Char) := c.toNat ≤ 0x20
  let trimmed := ((cs.dropWhile outer).reverse.dropWhile outer).reverse
  trimmed.filter fun c => c ≠ '\t' && c ≠ '\n' && c ≠ '\r'

def parse (s : String) : Option Url := do
  let (scheme, rest) := cutFirst ':' (clean s.toList)
  let rest ← rest
  let first ← scheme.head?
  if isAlpha first ∧ scheme.all inScheme then
    let scheme := String.ofList (scheme.map Char.toLower)
    let (rest, fragment) := cutFirst '#' rest
    let (rest, query) := cutFirst '?' rest
    let url ← body scheme rest
    return { url with
      query := query.map (encode (inQuery (hierarchical scheme)))
      fragment := fragment.map (encode inFragment) }
  else none

def userText (u : Url) : String :=
  match u.password with
  | some password => u.username ++ ":" ++ password ++ "@"
  | none => if u.username.isEmpty then "" else u.username ++ "@"

def portText (u : Url) : String :=
  match u.portNumber with
  | some n => ":" ++ toString n
  | none => ""

def marked (mark : String) : Option String → String
  | some s => mark ++ s
  | none => ""

def target (u : Url) : String := u.path ++ marked "?" u.query

def text (u : Url) : String :=
  let authority := match u.host with
    | some host => "//" ++ u.userText ++ host ++ u.portText
    | none => if "//".toList.isPrefixOf u.path.toList then "/." else ""
  u.scheme ++ ":" ++ authority ++ u.target ++ marked "#" u.fragment

def login? (u : Url) : Option (String × Option String) := do
  let name ← Percent.decodeText? u.username.toList
  let password := u.password.bind fun password => Percent.decodeText? password.toList
  if name.isEmpty ∧ password.isNone then none else some (name, password)

def withoutLogin (u : Url) : Url := { u with username := "", password := none }

def authorization : String × Option String → String
  | (name, password) =>
    let text := name ++ ":" ++ password.getD ""
    "Basic " ++ String.ofList (Text.Base64.encode (Text.Utf8.encode text))

def requestable (host : String) : Bool := !host.toList.any fun c => "\"\x7b\x7d`".toList.contains c

def reachable (u : Url) : Bool :=
  u.host.any requestable && (u.scheme = "http" || u.scheme = "https")

end Url
end RegistrySeeding
