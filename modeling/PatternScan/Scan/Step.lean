import PatternScan.Cursor
import PatternScan.Log

/-!
# Steps of a scan

One step of a scan searches the rest of the buffer once. It yields a result, or nothing, or
fails; it moves the scan on; and it may leave messages for the log.
-/

namespace PatternScan.Scan

/-- What one step of a scan comes to. -/
inductive Outcome (α : Type)
  | found (result : α)
  | nothing
  | failed (failure : Failure)
deriving DecidableEq

/-- The outcome with its result changed. -/
def Outcome.map {α β : Type} (f : α → β) : Outcome α → Outcome β
  | .found a => .found (f a)
  | .nothing => .nothing
  | .failed e => .failed e

/-- An outcome together with the scan as it is afterwards and the messages left. -/
structure Step (σ α : Type) where
  outcome : Outcome α
  scan : σ
  messages : List Log.Message := []

/-- The step with its outcome's result changed. -/
def Step.map {σ α β : Type} (f : α → β) (s : Step σ α) : Step σ β :=
  ⟨s.outcome.map f, s.scan, s.messages⟩

/-- The level of the messages of scans. -/
def logLevel : Log.Level := 6

/-- The message that says up to where a search was in vain. -/
def noMatchMessage (domain : Bytes) (position : UInt64) : Log.Message :=
  .formatted logLevel domain (Bytes.ascii "no match after offset " ++ Bytes.ofNat position.toNat)

/-- The message that says where an empty match ended a scan. -/
def emptyMatchMessage (domain : Bytes) (start : UInt64) : Log.Message :=
  .formatted logLevel domain (Bytes.ascii "empty match at offset " ++ Bytes.ofNat start.toNat)

end PatternScan.Scan
