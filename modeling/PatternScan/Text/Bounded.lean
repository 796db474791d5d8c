import PatternScan.Bytes

/-!
# Text of bounded size

A `Bounded room` is a block of `room + 1` cells that is read as zero-terminated text. A formatter
is told how many bytes it may put out; the block has it put out `room` at most, and a terminator is
stored where it stopped. Four things live here:

* `Store`, one byte that is put somewhere in a memory;
* `Formatter`, which puts out a format with its arguments by stores, and `Formatter.piecewise`;
* `Bounded`, with `Bounded.formatBy` for any formatter, and `view`, what a reader of the block sees;
* `fitted`, what is read back of a text that was formatted into a fresh block.
-/

namespace PatternScan.Text

/-! ## Stores -/

/-- A byte put at an index. -/
structure Store where
  index : Nat
  byte : UInt8
deriving DecidableEq, Repr

namespace Store

/-- What a memory holds after a store. -/
def into (memory : Bytes) (store : Store) : Bytes :=
  memory.set store.index store.byte

theorem length_foldl_into (stores : List Store) (memory : Bytes) :
    (stores.foldl into memory).length = memory.length := by
  induction stores generalizing memory with
  | nil => rfl
  | cons store stores ih =>
    rw [List.foldl_cons, ih, into, List.length_set]

end Store

/-! ## Formatters -/

/-- Where a formatter stands: the stores it made, in order, and the index it goes on at. -/
structure Output where
  stores : List Store
  next : Nat
deriving DecidableEq, Repr

/-- A formatter of `α`, a format with its arguments; it is told how many bytes it may put out. -/
abbrev Formatter (α : Type) := Nat → α → Output

namespace Output

/-- The output before the first byte. -/
def start : Output := ⟨[], 0⟩

/-- One byte more, which is stored if the limit allows it. -/
def put (limit : Nat) (o : Output) (byte : UInt8) : Output :=
  if o.next < limit then ⟨o.stores ++ [⟨o.next, byte⟩], o.next + 1⟩ else o

/-- One piece of a text more. -/
def putPiece (limit : Nat) (o : Output) (piece : Bytes) : Output :=
  piece.foldl (put limit) o

end Output

/-- The formatter of texts in pieces, the literal parts of a format and its arguments in turn. -/
def Formatter.piecewise : Formatter (List Bytes) :=
  fun limit pieces => pieces.foldl (Output.putPiece limit) .start

/-! ## Blocks -/

/-- A block of `room + 1` cells holding zero-terminated text. -/
@[ext]
structure Bounded (room : Nat) where
  cells : Bytes
  cells_length : cells.length = room + 1

namespace Bounded

variable {room : Nat} {α : Type}

/-- The number of cells. -/
def capacity (_ : Bounded room) : Nat := room + 1

/-- A block whose cells are all zero. -/
def zeros (room : Nat) : Bounded room :=
  ⟨List.replicate (room + 1) 0, List.length_replicate⟩

/-- The stores of formatting into the block: those of the formatter, which may put out one byte less
than there are cells, and a terminator where it stopped. -/
def storesBy (block : Bounded room) (f : Formatter α) (a : α) : List Store :=
  let o := f (block.capacity - 1) a
  o.stores ++ [⟨o.next, 0⟩]

/-- The block after formatting into it. -/
def formatBy (block : Bounded room) (f : Formatter α) (a : α) : Bounded room where
  cells := (block.storesBy f a).foldl Store.into block.cells
  cells_length := (Store.length_foldl_into _ _).trans block.cells_length

/-- The block after formatting a text into it as a whole. -/
def format (block : Bounded room) (text : Bytes) : Bounded room :=
  block.formatBy .piecewise [text]

/-- The text a reader sees: the cells up to the first zero. -/
def view (block : Bounded room) : Bytes :=
  block.cells.untilNul

/-- The first cell. -/
def front (block : Bounded room) : UInt8 :=
  block.cells.head (List.ne_nil_of_length_pos (by have := block.cells_length; omega))

/-- Whether the block reads as the empty text, told from its first cell. -/
def isEmpty (block : Bounded room) : Bool :=
  block.front == 0

/-- The block with its first cell zeroed. -/
def clear (block : Bounded room) : Bounded room where
  cells := 0 :: block.cells.tail
  cells_length := by
    have := block.cells_length
    simp only [List.length_cons, List.length_tail]
    omega

end Bounded

/-- What is read back after formatting `text` into a fresh block with room for `room` bytes. -/
def fitted (room : Nat) (text : Bytes) : Bytes :=
  ((Bounded.zeros room).format text).view

end PatternScan.Text
