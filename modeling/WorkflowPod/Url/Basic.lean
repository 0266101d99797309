import WorkflowPod.Text.Blank
import WorkflowPod.Url.Host
import WorkflowPod.Url.Segments

/-!
URLs by the rules browsers follow. Of the schemes with a normal form of their own only `https` is
known; its default port is left out.
-/
namespace WorkflowPod

open Text

/-- A URL, user information and fragment apart. -/
structure Url where
  scheme : List Char
  host : Option Url.Host
  port : Option Nat
  /-- The path in normal form, without its leading slash. -/
  path : List Char
  query : Option (List Char)
  deriving DecidableEq, Repr

namespace Url

def isSchemeChar (c : Char) : Bool := c.isAlphanum || c == '+' || c == '-' || c == '.'

/-- The text between control characters and blanks at its ends, without line ends and tabs. -/
def stripped (s : List Char) : List Char :=
  (dropTailWhile (·.toNat ≤ 0x20) (s.dropWhile (·.toNat ≤ 0x20))).filter fun c =>
    c != '\t' && c != '\n' && c != '\r'

def readScheme? (s : List Char) : Option (List Char × List Char) :=
  match s.head?, s.dropWhile isSchemeChar with
  | some c, ':' :: rest =>
    if c.isAlpha then some ((s.takeWhile isSchemeChar).map Char.toLower, rest) else none
  | _, _ => none

def endsAuthority (network : Bool) (c : Char) : Bool :=
  c == '/' || c == '?' || c == '#' || (network && c == '\\')

/-- What follows the user information, and whether there is any. Only an `@` before the end of the
authority belongs to it, and the last one ends it. -/
def skipUser (network : Bool) (s : List Char) : Except Fault (Bool × List Char) :=
  let authority := s.takeWhile (!endsAuthority network ·)
  let rest := s.dropWhile (!endsAuthority network ·)
  match cutAtLast? (· == '@') authority with
  | none => .ok (false, s)
  | some (user, host) =>
    if user.isEmpty ∧ host.isEmpty ∧ ¬rest.isEmpty then .error .emptyHost
    else .ok (!user.isEmpty && user != [':'], host ++ rest)

/-- The text of a host and what follows it. A colon in brackets does not end it. -/
def cutHost (network : Bool) (bracketed : Bool) : List Char → List Char × List Char
  | [] => ([], [])
  | c :: rest =>
    if endsAuthority network c || (c == ':' && !bracketed) then ([], c :: rest)
    else
      let (host, rest) := cutHost network (if c == '[' then true else c != ']' && bracketed) rest
      (c :: host, rest)

/-- The port after a colon, none if it is left out, and what follows it. -/
def readPort (s : List Char) : Except Fault (Option Nat × List Char) :=
  let digits := s.takeWhile Char.isDigit
  let rest := s.dropWhile Char.isDigit
  let delimited := rest.head?.all fun c => c == '/' || c == '\\' || c == '?' || c == '#'
  match readNat? 10 digits with
  | none => if delimited then .ok (none, rest) else .error .invalidPort
  | some n => if n < 65536 ∧ delimited then .ok (some n, rest) else .error .invalidPort

/-- The path and the query after the authority. -/
def readPath (network : Bool) (s : List Char) : List Char × Option (List Char) :=
  let path := normalPath network (s.takeWhile fun c => c != '?' && c != '#')
  match s.dropWhile fun c => c != '?' && c != '#' with
  | '?' :: query =>
    let escapes := (if network then " \"#<>\x27" else " \"#<>").toList
    (path, some (percentEncode escapes (query.takeWhile (· != '#'))))
  | _ => (path, none)

def parseAuthority (scheme : List Char) (network : Bool) (s : List Char) : Except Fault Url := do
  let (user, s) ← skipUser network s
  let (hostText, s) := cutHost network false s
  if hostText.isEmpty ∧ (network ∨ s.head? = some ':' ∨ user) then throw .emptyHost
  let host ←
    if hostText.isEmpty then pure none
    else some <$> (if network then Host.parseNetwork hostText else Host.parseOpaque hostText)
  let (port, s) ← match s with
    | ':' :: rest => readPort rest
    | rest => pure (none, rest)
  let (path, query) := readPath network s
  return { scheme, host, port := if network then port.filter (· ≠ 443) else port, path, query }

def parse (text : String) : Except Fault Url :=
  match readScheme? (stripped text.toList) with
  | none => .error .noScheme
  | some (scheme, rest) =>
    if scheme = "https".toList then
      parseAuthority scheme true (rest.dropWhile fun c => c == '/' || c == '\\')
    else
      match rest with
      | '/' :: '/' :: rest => parseAuthority scheme false rest
      | rest =>
        let (path, query) := readPath false rest
        .ok { scheme, host := none, port := none, path, query }

/-- The host and the port of a URL, as they stand in it. -/
def location? (url : Url) : Option String :=
  url.host.map fun host =>
    String.ofList (host.render ++ (url.port.map fun port => ':' :: (toString port).toList).getD [])

end Url

end WorkflowPod
