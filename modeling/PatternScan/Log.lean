import PatternScan.Text.Bounded

/-!
# The log

A message has a level, a domain and a text. It is written iff its level does not exceed the
current one, as one line with the domain in brackets in front unless it is empty. Formatted
texts pass through a block of bounded size first; plain texts are written as they are.
-/

namespace PatternScan.Log

/-- A log level; a larger number is a less important message. -/
abbrev Level := UInt32

/-- The level in force until another one is set. -/
def defaultLevel : Level := 1

/-- A message offered to the log. -/
structure Message where
  level : Level
  domain : Bytes
  text : Bytes

/-- Whether a message of level `level` is written while `current` is in force. -/
def admits (current level : Level) : Bool :=
  level ≤ current

/-- The number of bytes of a formatted text that fit in one line. -/
def formattedRoom : Nat := 1023

/-- The message whose text is a formatted one, cut as its block forces. -/
def Message.formatted (level : Level) (domain text : Bytes) : Message :=
  ⟨level, domain, Text.fitted formattedRoom text⟩

/-- The bracketed domain in front of a line; nothing for an empty domain. -/
def tag (domain : Bytes) : Bytes :=
  if domain.isEmpty then [] else Bytes.ascii "[" ++ domain ++ Bytes.ascii "] "

/-- The line a message is written as. -/
def Message.line (m : Message) : Bytes :=
  tag m.domain ++ m.text ++ Bytes.ascii "\n"

/-- The bytes that a list of messages leaves in the log at level `current`. -/
def written (current : Level) (ms : List Message) : Bytes :=
  (ms.filter fun m => admits current m.level).flatMap Message.line

@[simp] theorem written_nil (current : Level) : written current [] = [] := rfl

end PatternScan.Log
