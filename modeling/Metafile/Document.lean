import Metafile.Record.Stream

/-! # Documents

A document is read as a whole: a header record, the records of the picture, and the record that
ends it. Bytes behind that one are not looked at. Objects are created under handles; no handle
may be given out again while it is in use.
-/
namespace Metafile

namespace Header

def width (h : Header) : Int := h.bounds.right.toInt - h.bounds.left.toInt + 1

def height (h : Header) : Int := h.bounds.bottom.toInt - h.bounds.top.toInt + 1

/-- The size of the raster that the bounds ask for; each side is a positive 32-bit number. -/
def rasterSize (h : Header) : Except Error (Nat × Nat) :=
  if 0 < h.width ∧ h.width < UInt32.size ∧ 0 < h.height ∧ h.height < UInt32.size then
    .ok (h.width.toNat, h.height.toNat)
  else .error (.invalidRasterSize h.width h.height)

end Header

structure Document where
  header : Header
  records : List Record
  palette : Palette

abbrev LiveHandles := List UInt32

/-- The handles in use after a record, given those before it; none when the record creates an
object under a handle in use. -/
def LiveHandles.after? (live : LiveHandles) (record : Record) : Option LiveHandles :=
  match record.createdHandle?, record with
  | some handle, _ => if handle ∈ live then none else some (handle :: live)
  | none, .deleteObject handle => some (live.filter (· != handle))
  | none, _ => some live

namespace Document

/-- Only the first header counts; another one is kept as a record without meaning. -/
def inBody (record : Record) (size : Nat) : Record :=
  match record with
  | .header _ => .skip RecordType.header.tag (UInt32.ofNat size)
  | _ => record

def readBody (c : Cursor) (live : LiveHandles) : Except Error (List Record × Palette) :=
  if c.isExhausted then
    .error (.malformedRecord c.absolutePosition RecordType.eof.tag .noEof)
  else
    match _h : c.readRecord with
    | .error e => .error e
    | .ok (.eof palette, _) => .ok ([], palette)
    | .ok (record, next) =>
        let record := inBody record (next.pos - c.pos)
        match live.after? record with
        | none => .error (.duplicateHandle (record.createdHandle?.getD 0) c.absolutePosition)
        | some live => (readBody next live).map fun (records, palette) => (record :: records, palette)
termination_by c.remaining
decreasing_by
  obtain ⟨sameData, -, pastHead, inside⟩ := Cursor.readRecord_advances _h
  simp only [Cursor.remaining, Record.headerSize, sameData] at *
  omega

/-- Reads a whole document; any error refuses all of it. -/
def parse (data : Bytes) : Except Error Document := do
  let c := Cursor.ofBytes data
  let (tag, _) ← c.read UInt32
  let (first, next) ← c.readRecord
  match first with
  | .header header =>
      let (records, palette) ← readBody next []
      return { header, records, palette }
  | _ => throw (.malformedRecord 0 tag .noHeader)

end Document

end Metafile
