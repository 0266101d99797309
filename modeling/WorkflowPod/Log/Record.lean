import WorkflowPod.Json.Basic

/-! Records of what the program does. -/
namespace WorkflowPod.Log

/-- How grave a record is, from grave to verbose. -/
inductive Level where
  | error
  | warn
  | info
  | debug
  | trace
  deriving DecidableEq, Repr

namespace Level

def name : Level → String
  | error => "ERROR"
  | warn => "WARN"
  | info => "INFO"
  | debug => "DEBUG"
  | trace => "TRACE"

/-- The rank of a level, the higher the more verbose. -/
def rank : Level → Nat
  | error => 1
  | warn => 2
  | info => 3
  | debug => 4
  | trace => 5

def all : List Level := [error, warn, info, debug, trace]

end Level

/-- A record: the part of the program it is from, and its fields, the first of them its message. -/
structure Record where
  level : Level
  target : String
  message : String
  details : List (String × Json) := []
  deriving Repr

namespace Record

def fields (r : Record) : List (String × Json) := ("message", .str r.message) :: r.details

def encode (r : Record) : List (String × Json) :=
  [("level", .str r.level.name), ("fields", .obj r.fields), ("target", .str r.target)]

end Record

end WorkflowPod.Log
