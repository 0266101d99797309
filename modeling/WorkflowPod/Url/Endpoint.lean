import WorkflowPod.Text.Search

/-!
What a text must look like to name an endpoint: an absolute address with an authority, an authority
alone, or a path alone.
-/
namespace WorkflowPod.Url

open Text

/-- Why a text names no endpoint. -/
inductive EndpointFault where
  | tooLong
  | empty
  | schemeTooLong
  | invalidCharacter
  | invalidAuthority
  | invalidFormat
  deriving DecidableEq, Repr

def EndpointFault.message : EndpointFault → String
  | .tooLong => "uri too long"
  | .empty => "empty string"
  | .schemeTooLong => "scheme too long"
  | .invalidCharacter => "invalid uri character"
  | .invalidAuthority => "invalid authority"
  | .invalidFormat => "invalid format"

namespace Endpoint

/-- What an authority has so far: colons that may lead a port, brackets, and a percent sign. -/
structure Authority where
  colons : Nat := 0
  isOpened : Bool := false
  isClosed : Bool := false
  hasPercent : Bool := false

/-- Characters of an authority without a meaning of their own there. -/
def isPlain (c : Char) : Bool :=
  c.isAlphanum || "!$&()*+,-.;=_~\x27".toList.contains c

namespace Authority

/-- One more character. An at sign or a closing bracket ends what was before it. -/
def next (a : Authority) (c : Char) : Except EndpointFault Authority :=
  match c with
  | ':' => if 8 ≤ a.colons then .error .invalidAuthority else .ok { a with colons := a.colons + 1 }
  | '[' =>
    if a.hasPercent ∨ a.isOpened then .error .invalidAuthority else .ok { a with isOpened := true }
  | ']' =>
    if !a.isOpened ∨ a.isClosed then .error .invalidAuthority
    else .ok { a with isClosed := true, colons := 0, hasPercent := false }
  | '@' => .ok { a with colons := 0, hasPercent := false }
  | '%' => .ok { a with hasPercent := true }
  | c => if isPlain c then .ok a else .error .invalidCharacter

def check (s : List Char) : Except EndpointFault Unit := do
  let a ← s.foldlM next {}
  if a.isOpened != a.isClosed ∨ 1 < a.colons ∨ s.getLast? = some '@' ∨ a.hasPercent then
    throw .invalidAuthority

end Authority

def isPathChar (c : Char) : Bool :=
  0x21 ≤ c.toNat && !"#<>?\x60".toList.contains c

def isQueryChar (c : Char) : Bool :=
  0x21 ≤ c.toNat && !"\"#<>".toList.contains c

/-- Checks a path, the query after it, and nothing of the fragment after that. -/
def checkPath (s : List Char) : Except EndpointFault Unit :=
  let (path, rest) := s.span fun c => c ≠ '?' && c ≠ '#'
  let query := if rest.head? = some '?' then (rest.drop 1).takeWhile (· ≠ '#') else []
  if path.all isPathChar && query.all isQueryChar then .ok () else .error .invalidCharacter

def isSchemeChar (c : Char) : Bool := c.isAlphanum || "+-.".toList.contains c

/-- What follows the scheme and two slashes, if there are any. -/
def afterScheme? (s : List Char) : Except EndpointFault (Option (List Char)) :=
  let (scheme, rest) := s.span isSchemeChar
  match afterLead? "://".toList rest with
  | none => .ok none
  | some rest =>
    if s.length ≤ 3 then .ok none
    else if 64 < scheme.length then .error .schemeTooLong
    else .ok (some rest)

/-- The authority at the start of a text, and what follows it. -/
def cutAuthority (s : List Char) : List Char × List Char :=
  s.span fun c => !"/?#".toList.contains c

def checkBare (fault : EndpointFault) (s : List Char) : Except EndpointFault Unit := do
  let (authority, rest) := cutAuthority s
  Authority.check authority
  unless rest.isEmpty do throw fault

def check (text : String) : Except EndpointFault Unit := do
  if 65534 < text.utf8ByteSize then throw .tooLong
  match text.toList with
  | [] => throw .empty
  | ['*'] => return
  | '/' :: path => checkPath ('/' :: path)
  | [c] => checkBare .invalidCharacter [c]
  | s =>
    match ← afterScheme? s with
    | none => checkBare .invalidFormat s
    | some rest =>
      let (authority, path) := cutAuthority rest
      Authority.check authority
      if authority.isEmpty then throw .invalidFormat
      checkPath path

end Endpoint

end WorkflowPod.Url
