import WorkflowPod.Url.Address
import WorkflowPod.Url.Domain
import WorkflowPod.Url.Percent

/-! Hosts of URLs. -/
namespace WorkflowPod.Url

/-- Why a text is no URL. -/
inductive Fault where
  | emptyHost
  | invalidPort
  | invalidIpv4
  | invalidIpv6
  | invalidCharacter
  | invalidDomain
  | noScheme
  deriving DecidableEq, Repr

def Fault.message : Fault → String
  | emptyHost => "empty host"
  | invalidPort => "invalid port number"
  | invalidIpv4 => "invalid IPv4 address"
  | invalidIpv6 => "invalid IPv6 address"
  | invalidCharacter => "invalid domain character"
  | invalidDomain => "invalid international domain name"
  | noScheme => "relative URL without a base"

inductive Host where
  /-- A name in ASCII, or percent encoded text. -/
  | name (text : List Char)
  | ipv4 (number : Nat)
  | ipv6 (pieces : List Nat)
  deriving DecidableEq, Repr

namespace Host

def render : Host → List Char
  | name text => text
  | ipv4 number => Ipv4.render number
  | ipv6 pieces => '[' :: (Ipv6.render pieces ++ [']'])

/-- An address in brackets, if `s` starts with one. -/
def parseBracketed? : List Char → Option (Except Fault Host)
  | '[' :: rest =>
    match rest.getLast? with
    | some ']' =>
      match Ipv6.parse? rest.dropLast with
      | some pieces => some (.ok (.ipv6 pieces))
      | none => some (.error .invalidIpv6)
    | _ => some (.error .invalidIpv6)
  | _ => none

/-- A host of a scheme that names machines on the network. -/
def parseNetwork (s : List Char) : Except Fault Host :=
  match parseBracketed? s with
  | some result => result
  | none =>
    match (textOfBytes? (percentDecode s)).bind Domain.toAscii? with
    | none => .error .invalidDomain
    | some domain =>
      if domain.isEmpty then .error .emptyHost
      else if Ipv4.endsInNumber domain then
        match Ipv4.parse? domain with
        | some number => .ok (.ipv4 number)
        | none => .error .invalidIpv4
      else .ok (.name domain)

/-- Characters a host of another scheme may not have. -/
def isForbidden (c : Char) : Bool :=
  c == '\x00' || c == '\t' || c == '\n' || c == '\r' || " #/:<>?@[\\]^|".toList.contains c

def parseOpaque (s : List Char) : Except Fault Host :=
  match parseBracketed? s with
  | some result => result
  | none => if s.any isForbidden then .error .invalidCharacter else .ok (.name (percentEncode [] s))

end Host

end WorkflowPod.Url
