/-! Words for the shell, and paths in messages. -/
namespace WorkflowPod.Text

/-- Characters that mean themselves to the shell. -/
def isShellSafe (c : Char) : Bool :=
  c.isAlphanum || "_@%+=:,./-".toList.contains c

/-- A character between single quotes; a quote ends them, is escaped, and starts them again. -/
def shellEscape (c : Char) : List Char :=
  if c = '\x27' then ['\x27', '\\', '\x27', '\x27'] else [c]

/-- The word for a text: the text if it is safe and not empty, else in single quotes. -/
def shellWord (s : List Char) : List Char :=
  if !s.isEmpty && s.all isShellSafe then s else '\x27' :: (s.flatMap shellEscape ++ ['\x27'])

def shellQuote (text : String) : String := String.ofList (shellWord text.toList)

/-- A character of a path as a message shows it. -/
def pathEscape (c : Char) : List Char :=
  match c with
  | '\x00' => ['\\', '0']
  | '\t' => ['\\', 't']
  | '\n' => ['\\', 'n']
  | '\r' => ['\\', 'r']
  | '"' => ['\\', '"']
  | '\x27' => ['\\', '\x27']
  | '\\' => ['\\', '\\']
  | c =>
    if c.toNat < 0x20 || (0x7F ≤ c.toNat && c.toNat < 0xA0) then
      '\\' :: 'u' :: '\x7b' :: (Nat.toDigits 16 c.toNat ++ ['\x7d'])
    else [c]

def pathQuote (path : String) : String :=
  String.ofList ('"' :: (path.toList.flatMap pathEscape ++ ['"']))

end WorkflowPod.Text
