import PatternScan.Bytes

/-!
# Shelves

A shelf holds things under names, one thing under each name. `get?_put` says all there is to
say about it.
-/

namespace PatternScan

/-- A name on a shelf. -/
abbrev Name := Bytes

/-- Things under names. -/
structure Shelf (α : Type) where
  entries : List (Name × α) := []

namespace Shelf

variable {α : Type}

/-- What stands under a name. -/
def get? (s : Shelf α) (name : Name) : Option α :=
  (s.entries.find? (·.1 == name)).map (·.2)

/-- The shelf with `a` under a name, whatever stood there before. -/
def put (s : Shelf α) (name : Name) (a : α) : Shelf α :=
  ⟨(name, a) :: s.entries.filter (·.1 != name)⟩

theorem get?_put_self (s : Shelf α) (name : Name) (a : α) : (s.put name a).get? name = some a := by
  simp [get?, put]

theorem get?_put_of_ne (s : Shelf α) {name other : Name} (h : other ≠ name) (a : α) :
    (s.put name a).get? other = s.get? other := by
  have hne : (name == other) = false := by simpa using fun e => h e.symm
  simp only [get?, put, List.find?_cons, hne, List.find?_filter]
  congr 2
  funext e
  by_cases he : e.1 = other
  · simp [he, h]
  · simp [he]

theorem get?_put (s : Shelf α) (name other : Name) (a : α) :
    (s.put name a).get? other = if other = name then some a else s.get? other := by
  by_cases h : other = name
  · subst h; simp [get?_put_self]
  · simp [h, get?_put_of_ne]

end Shelf

end PatternScan
