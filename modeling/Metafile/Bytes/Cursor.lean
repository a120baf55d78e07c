import Metafile.Bytes.Layout
import Metafile.Error

/-! # Cursors

A cursor is a position in a window on a larger buffer. A read takes the bytes at the position and
returns them with the cursor behind them; a seek lands inside the window, its end included. A
failing operation returns no cursor, so the position stays what it was.

Offsets in errors count from the start of the outermost buffer.
-/
namespace Metafile

structure Cursor where
  data : Bytes
  pos : Nat
  /-- Where the window's first byte stands in the outermost buffer. -/
  base : Nat
deriving DecidableEq, Repr, Inhabited

namespace Cursor

def ofBytes (data : Bytes) : Cursor := ⟨data, 0, 0⟩

def absolutePosition (c : Cursor) : Nat := c.base + c.pos

def remaining (c : Cursor) : Nat := c.data.size - c.pos

def isExhausted (c : Cursor) : Bool := c.remaining == 0

def unexpectedEnd (c : Cursor) (needed : Nat) : Error :=
  .unexpectedEnd c.absolutePosition needed c.remaining

def readBytes (c : Cursor) (count : Nat) : Except Error (Bytes × Cursor) :=
  if c.remaining < count then .error (c.unexpectedEnd count)
  else .ok (c.data.slice c.pos count, { c with pos := c.pos + count })

def read (α : Type) [FixedLayout α] (c : Cursor) : Except Error (α × Cursor) :=
  (c.readBytes (FixedLayout.width α)).map fun (bytes, next) => (FixedLayout.ofBytes bytes, next)

/-- The next `count` values. Their total size is checked before the first one is read; a total
that no machine word holds is reported as the largest word. -/
def readArray (α : Type) [FixedLayout α] (c : Cursor) (count : UInt64) :
    Except Error (List α × Cursor) :=
  let total := count.toNat * FixedLayout.width α
  if UInt64.size ≤ total then .error (c.unexpectedEnd (UInt64.size - 1))
  else if c.remaining < total then .error (c.unexpectedEnd total)
  else .ok (c.data.valuesAt α c.pos count.toNat, { c with pos := c.pos + total })

/-- Moves by `delta` bytes in either direction; the target is computed in a machine word. -/
def seekRelative (c : Cursor) (delta : Int64) : Except Error Cursor :=
  let target := Int64.ofNat c.pos + delta
  if target < 0 ∨ c.data.size < target.toInt.toNat then
    .error (.invalidOffset c.absolutePosition delta (c.base + c.data.size))
  else .ok { c with pos := target.toInt.toNat }

def seekTo (c : Cursor) (position : UInt64) : Except Error Cursor :=
  c.seekRelative (position.toInt64 - Int64.ofNat c.pos)

def subCursor (c : Cursor) (start count : UInt64) : Except Error Cursor :=
  if start.toNat + count.toNat ≤ c.data.size ∧ start.toNat + count.toNat < UInt64.size then
    .ok ⟨c.data.slice start.toNat count.toNat, 0, c.base + start.toNat⟩
  else
    .error (.unexpectedEnd (UInt64.ofNat c.base + start).toNat count.toNat
      (c.data.size - start.toNat))

end Cursor

end Metafile
