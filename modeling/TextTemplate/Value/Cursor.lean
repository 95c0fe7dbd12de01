import TextTemplate.Value.Heap

/-!
# Cursors

A cursor is a place in a list, or before its first item. It holds a position and not an item: what
it reports is looked up when it is asked, so a list may grow or shrink under it.
-/
namespace TextTemplate

/-- A place in a list: a position, or `none` before the first item. -/
structure Cursor where
  /-- The position, which may lie beyond the last item. -/
  position : Option Nat
deriving DecidableEq, Repr

namespace Cursor

/-- The cursor on the first position. -/
def first : Cursor := ⟨some 0⟩

/-- The cursor on the last item of a list of the given length. -/
def last (count : Nat) : Cursor := ⟨if count = 0 then none else some (count - 1)⟩

/-- One position further. -/
def next (cursor : Cursor) : Cursor := ⟨cursor.position.map (· + 1)⟩

/-- One position back; from the first position the cursor leaves the list. -/
def prev (cursor : Cursor) : Cursor :=
  ⟨cursor.position.bind fun p => if p = 0 then none else some (p - 1)⟩

/-- The item under the cursor, if its position lies in the list. -/
def current (cursor : Cursor) (heap : Heap) (ref : ListRef) : Option Value :=
  cursor.position.bind fun p => (heap.items ref)[p]?

/-- A cursor off the list stays off it when it steps. -/
theorem step_of_off {cursor : Cursor} (off : cursor.position = none) :
    cursor.next.position = none ∧ cursor.prev.position = none := by
  simp [next, prev, off]

end Cursor

end TextTemplate
