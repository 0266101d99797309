import WorkflowPod.CommandLine.Help
import WorkflowPod.CommandLine.Similarity
import WorkflowPod.Text.Search

/-!
The arguments of the program, read from left to right: the first that asks for help or is wrong
decides.
-/
namespace WorkflowPod.CommandLine

inductive Invocation where
  | help (topic : Topic)
  | version
  /-- The definition of workflows. -/
  | definition
  | controller
  deriving DecidableEq, Repr

inductive ArgumentFault where
  | unexpectedArgument (argument : String)
  | unexpectedValue (value flag : String)
  | repeatedFlag (flag : String)
  | unknownCommand (word : String)
  deriving DecidableEq, Repr

def ArgumentFault.message : ArgumentFault → String
  | unexpectedArgument argument => "unexpected argument '" ++ argument ++ "' found"
  | unexpectedValue value flag =>
    "unexpected value '" ++ value ++ "' for '" ++ flag ++ "' found; no more were expected"
  | repeatedFlag flag => "the argument '" ++ flag ++ "' cannot be used multiple times"
  | unknownCommand word => "unrecognized subcommand '" ++ word ++ "'"

/-- What might help. -/
inductive Hint where
  | similarFlag (flag : String)
  | similarCommand (commands : List String)
  /-- The word before it is not to be set off. -/
  | command (name : String)
  deriving DecidableEq, Repr

def Hint.message : Hint → String
  | similarFlag flag => "a similar argument exists: '" ++ flag ++ "'"
  | similarCommand commands =>
    let names := ", ".intercalate (commands.map fun name => "'" ++ name ++ "'")
    (if commands.length = 1 then "a similar subcommand exists: "
      else "some similar subcommands exist: ") ++ names
  | command name =>
    "subcommand '" ++ name ++ "' exists; to use it, remove the '--' before it"

/-- What the program says to a wrong argument. -/
structure Complaint where
  fault : ArgumentFault
  hint : Option Hint := none
  usage : String
  /-- Whether help is pointed to. -/
  pointsToHelp : Bool := true
  deriving DecidableEq, Repr

def Complaint.lines (c : Complaint) : List String :=
  ["error: " ++ c.fault.message, ""] ++
    (match c.hint with
      | some hint => ["  tip: " ++ hint.message, ""]
      | none => []) ++
    ["Usage: " ++ c.usage] ++
    if c.pointsToHelp then ["", "For more information, try '--help'."] else []

def usageWith (command standard : String) (flags : List String) : String :=
  if flags.isEmpty then standard else " ".intercalate (command :: flags.eraseDups)

def commands : List String := ["controller", "help"]

/-- The complaint about a flag that does not exist, when `used` were there before it. -/
def unknownFlag (command standard : String) (flags used : List String) (name : String) :
    Complaint :=
  let hint := (similar name flags).getLast?
  { fault := .unexpectedArgument ("--" ++ name)
    hint := hint.map fun flag => .similarFlag ("--" ++ flag)
    usage := usageWith command standard
      (used ++ (hint.map fun flag => "--" ++ flag).toList) }

/-- The complaint about a value for a flag that takes none. -/
def unexpectedValue (command : String) (used : List String) (flag value : String) : Complaint where
  fault := .unexpectedValue value flag
  usage := usageWith command command (used ++ [flag])

def unknownCommand (word : String) : Complaint :=
  let alike := similar word commands
  { fault := .unknownCommand word
    hint := if alike.isEmpty then none else some (.similarCommand alike)
    usage := programUsage }

inductive Form where
  /-- Two hyphens alone: what follows are words. -/
  | separator
  | long (name : String) (value : Option String)
  | short (letters : List Char)
  | word (text : String)

def Form.of (argument : String) : Form :=
  match argument.toList with
  | ['-', '-'] => .separator
  | '-' :: '-' :: rest =>
    match Text.cutAt? (· == '=') rest with
    | some (name, value) => .long (String.ofList name) (some (String.ofList value))
    | none => .long (String.ofList rest) none
  | '-' :: c :: letters => .short (c :: letters)
  | _ => .word argument

def helpOn (topic : Topic) : List String → Except Complaint Invocation
  | [] => .ok (.help topic)
  | word :: words =>
    match topic, word with
    | .program, "controller" => helpOn .controller words
    | .program, "help" => helpOn .help words
    | .program, _ => .error { fault := .unknownCommand word, usage := programUsage }
    | .help, _ =>
      .error { fault := .unknownCommand word, usage := helpUsage, pointsToHelp := false }
    | _, _ => .error { fault := .unknownCommand word, usage := controllerUsage }

/-- The arguments of the controller; `next` is done if there is nothing wrong with them. -/
def readController (next : Invocation) (separated : Bool) :
    List String → Except Complaint Invocation
  | [] => .ok next
  | argument :: rest =>
    let unexpected (argument : String) : Except Complaint Invocation :=
      .error { fault := .unexpectedArgument argument, usage := controllerUsage }
    if separated then unexpected argument
    else
      match Form.of argument with
      | .separator => readController next true rest
      | .long "help" none => .ok (.help .controller)
      | .long "help" (some value) => .error (unexpectedValue controllerUsage [] "--help" value)
      | .long name _ => .error (unknownFlag controllerUsage controllerUsage ["help"] [] name)
      | .short ('h' :: _) => .ok (.help .controllerBrief)
      | .short letters => unexpected (String.ofList ('-' :: letters.take 1))
      | .word text => unexpected text

def complainSeparated (word : String) : Complaint :=
  if commands.contains word then
    { fault := .unexpectedArgument word, hint := some (.command word), usage := programUsage }
  else unknownCommand word

/-- The arguments of the program; `definition` tells whether the definition was asked for. -/
def readArguments (definition : Bool) : List String → Except Complaint Invocation
  | [] => .ok (if definition then .definition else .controller)
  | argument :: rest =>
    let used := if definition then ["--crd"] else []
    match Form.of argument with
    | .separator =>
      match rest with
      | [] => .ok (if definition then .definition else .controller)
      | word :: _ => .error (complainSeparated word)
    | .long "crd" none =>
      if definition then
        .error { fault := .repeatedFlag "--crd", usage := programUsage }
      else readArguments true rest
    | .long "help" none => .ok (.help .program)
    | .long "version" none => .ok .version
    | .long name (some value) =>
      if ["crd", "help", "version"].contains name then
        .error (unexpectedValue "flowpod" used ("--" ++ name) value)
      else .error (unknownFlag "flowpod" programUsage ["crd", "help", "version"] used name)
    | .long name none =>
      .error (unknownFlag "flowpod" programUsage ["crd", "help", "version"] used name)
    | .short ('h' :: _) => .ok (.help .program)
    | .short ('V' :: _) => .ok .version
    | .short letters =>
      let letter := String.ofList ('-' :: letters.take 1)
      .error { fault := .unexpectedArgument letter, usage := programUsage }
    | .word "controller" =>
      readController (if definition then .definition else .controller) false rest
    | .word "help" => helpOn .program rest
    | .word word => .error (unknownCommand word)

end WorkflowPod.CommandLine
