/-!
# Broken promises

Every operation that relies on a promise of its caller checks it and answers with the promise
that was broken. A scan driven by an engine that keeps its own promises never sees one.
-/

namespace PatternScan

/-- A promise that an operation relies on and that did not hold. -/
inductive Breach
  /-- The rest of a buffer was asked for at its end. -/
  | suffixAtEnd
  /-- A cursor was used with a buffer of another length. -/
  | bufferLength
  /-- A group ends before it starts. -/
  | groupReversed
  /-- A group ends behind the end of the buffer. -/
  | groupBeyondEnd
  /-- A slice starts behind the end of the buffer. -/
  | sliceBeyondEnd
  /-- A group was asked for that the match has no slot for. -/
  | noSuchGroup
  /-- A match has another number of groups than its pattern. -/
  | groupCount
deriving DecidableEq, Repr

namespace Breach

/-- Go on iff the promise holds. -/
def check (promise : Bool) (breach : Breach) : Except Breach Unit :=
  if promise then .ok () else .error breach

@[simp] theorem check_true (b : Breach) : check true b = .ok () := rfl

end Breach

end PatternScan
