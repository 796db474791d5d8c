import PatternScan.Log
import PatternScan.Match
import PatternScan.Options
import PatternScan.Shelf

/-!
# Owners of compiled patterns

Every successful compilation issues a handle. A handle belongs to one owner at a time; moves
hand it on, and it is freed when its owner compiles another pattern or is dropped. The registry
keeps what was issued, what was freed, and the owners by name.
-/

namespace PatternScan

/-- The number of a compiled pattern, in order of issue. -/
abbrev Handle := Nat

/-- An owner of at most one compiled pattern. -/
structure Owner where
  handle : Option Handle := none
  groups : Nat := 0
deriving DecidableEq, Repr

/-- Whether an owner has a pattern. -/
def Owner.isDefined (o : Owner) : Bool :=
  o.handle.isSome

/-- All compiled patterns with their owners. -/
structure Registry (E : Engine) where
  issued : List E.Code := []
  freed : List Handle := []
  owners : Shelf Owner := {}

namespace Registry

variable {E : Engine}

/-- The owner of a name; a new one owns nothing. -/
def owner (r : Registry E) (name : Name) : Owner :=
  (r.owners.get? name).getD {}

/-- Whether a handle has not been freed. -/
def isLive (r : Registry E) (handle : Handle) : Bool :=
  !r.freed.contains handle

/-- The pattern of a name, with its handle. -/
def pattern? (r : Registry E) (name : Name) : Option (Handle × Compiled E) := do
  let handle ← (r.owner name).handle
  let code ← r.issued[handle]?
  return (handle, ⟨code, (r.owner name).groups⟩)

/-- The registry with one owner changed. -/
def setOwner (r : Registry E) (name : Name) (o : Owner) : Registry E :=
  { r with owners := r.owners.put name o }

/-- The registry after an owner gave up its handle for good. -/
def release (r : Registry E) (o : Owner) : Registry E :=
  { r with freed := o.handle.toList ++ r.freed }

/-- The registry after the owner of a name was dropped. -/
def drop (r : Registry E) (name : Name) : Registry E :=
  (r.release (r.owner name)).setOwner name {}

/-- The registry after `target` was dropped and made anew from what `source` owned. -/
def takeOver (r : Registry E) (source target : Name) : Registry E :=
  ((r.release (r.owner target)).setOwner target (r.owner source)).setOwner source {}

/-- The registry after two owners exchanged what they own. -/
def exchange (r : Registry E) (source target : Name) : Registry E :=
  (r.setOwner source (r.owner target)).setOwner target (r.owner source)

/-- The registry after a newly compiled pattern was given to an owner. -/
def issue (r : Registry E) (name : Name) (p : Compiled E) : Registry E :=
  let r' := r.release (r.owner name)
  { r' with issued := r.issued ++ [p.code] }.setOwner name ⟨some r.issued.length, p.groups⟩

/-- The level of the message about a compiled pattern. -/
def logLevel : Log.Level := 5

/-- The domain of the message about a compiled pattern. -/
def domain : Bytes := Bytes.ascii "pcre"

/-- The message about a compiled pattern. -/
def compiledMessage (pattern : Bytes) (groups : Nat) : Log.Message :=
  .formatted logLevel domain
    (Bytes.ascii "compiled '" ++ pattern ++ Bytes.ascii "' with " ++ Bytes.ofNat groups ++
      Bytes.ascii " captures")

/-- A registry after an attempt to compile, with the reason if the attempt failed and the
messages it left. -/
structure Attempt (E : Engine) where
  registry : Registry E
  rejection : Option Rejection := none
  messages : List Log.Message := []

/-- Compiles a pattern for the owner of a name, who keeps the old one on failure. -/
def compile (r : Registry E) (name : Name) (pattern : Bytes) (options : Options) : Attempt E :=
  match E.compiled pattern options.mask with
  | .error rejection => ⟨r, some rejection, []⟩
  | .ok p => ⟨r.issue name p, none, [compiledMessage pattern p.groups]⟩

end Registry

end PatternScan
