import Metafile.Bytes.Cursor
import Metafile.Record.Decode

/-! # Reading records from a stream

A record starts with its tag and its size. The size alone says where the next record begins,
whatever the record contains.
-/
namespace Metafile

structure RecordHead where
  tag : UInt32
  size : UInt32
deriving DecidableEq, Repr

instance : FixedLayout RecordHead where
  width := 8
  width_pos := (FixedLayout.width_pos : 0 < FixedLayout.width Point)
  ofBytes b := ⟨b.u32At 0, b.u32At 4⟩

/-- Reads the record at the cursor and moves behind it. The record must fit into the rest of the
window; all other faults concern its contents. -/
def Cursor.readRecord (c : Cursor) : Except Error (Record × Cursor) := do
  let (head, _) ← c.read RecordHead
  let malformed := Error.malformedRecord c.absolutePosition head.tag
  let size := head.size.toNat
  if size < Record.headerSize then throw (malformed (.sizeBelowHeader size))
  let (window, next) ← c.readBytes size
  match Record.decode head.tag window with
  | .ok record => return (record, next)
  | .error fault => throw (malformed fault)

theorem Cursor.readRecord_advances {c next : Cursor} {record : Record}
    (h : c.readRecord = .ok (record, next)) :
    next.data = c.data ∧ next.base = c.base ∧
      c.pos + Record.headerSize ≤ next.pos ∧ next.pos ≤ c.data.size := by
  simp only [readRecord, read, readBytes, bind, Except.bind, Except.map, throw, throwThe,
    MonadExceptOf.throw, pure, Except.pure] at h
  split at h
  · cases h
  · split at h
    · cases h
    · rename_i hread _ hsize
      split at h
      · cases h
      · rename_i hwindow
        split at hwindow
        · cases hwindow
        · rename_i hroom
          cases hwindow
          split at h
          · cases h
            simp only [remaining] at hroom
            simp only [Record.headerSize] at hsize ⊢
            refine ⟨trivial, trivial, ?_, ?_⟩ <;> omega
          · cases h

end Metafile
