import Metafile.Record.Basic
import Metafile.Record.Fault

/-! # Sections of a record

A record is a window of bytes: its header of 8 bytes, its fixed fields, and sections that lie
behind these or where an offset field says. Every section is checked against the window before
it is read, so a decoded record depends on nothing outside the window.
-/
namespace Metafile

namespace Record

def headerSize : Nat := 8

def needFixed (w : Bytes) (needed : Nat) : Except RecordFault Unit :=
  if w.size < needed then .error (.fixedFieldsCut w.size needed) else .ok ()

def arrayFrom (α : Type) [FixedLayout α] (w : Bytes) (start count : Nat) :
    Except RecordFault (List α) :=
  if w.size - start < count * FixedLayout.width α then
    .error (.elementsOverrun count (FixedLayout.width α))
  else .ok (w.valuesAt α start count)

/-- An offset field leads behind the header and at most to the end of the record. -/
def checkOffset (w : Bytes) (offset : Nat) : Except RecordFault Unit :=
  if offset < headerSize ∨ w.size < offset then .error (.sectionOutside offset w.size) else .ok ()

def arrayAt (α : Type) [FixedLayout α] (w : Bytes) (offset count : UInt32) :
    Except RecordFault (List α) := do
  checkOffset w offset.toNat
  arrayFrom α w offset.toNat count.toNat

def bytesAt (w : Bytes) (offset length : UInt32) : Except RecordFault Bytes := do
  checkOffset w offset.toNat
  if w.size - offset.toNat < length.toNat then
    .error (.sectionOverrun length.toNat offset.toNat)
  else .ok (w.slice offset.toNat length.toNat)

structure BitmapFields where
  infoOffset : UInt32
  infoSize : UInt32
  bitsOffset : UInt32
  bitsSize : UInt32
deriving DecidableEq, Repr

instance : FixedLayout BitmapFields where
  width := 16
  width_pos := (FixedLayout.width_pos : 0 < FixedLayout.width Rect)
  ofBytes b := ⟨b.u32At 0, b.u32At 4, b.u32At 8, b.u32At 12⟩

/-- The bitmap of a record, or none when its information section is empty. The colour table is
what follows the header, whose own size field says where it ends. -/
def embeddedBitmap (w : Bytes) (f : BitmapFields) : Except RecordFault (Option Dib) := do
  if f.infoSize = 0 then return none
  if f.infoSize.toNat < FixedLayout.width BitmapHeader then
    throw (.bitmapInfoTooShort f.infoSize.toNat)
  let info ← bytesAt w f.infoOffset f.infoSize
  let header := info.valueAt BitmapHeader 0
  let headerEnd := min (max header.size.toNat (FixedLayout.width BitmapHeader)) info.size
  let bits ← if f.bitsSize = 0 then pure #[] else bytesAt w f.bitsOffset f.bitsSize
  return some { header, colorTable := info.extract headerEnd info.size, bits }

/-- Handle 0 and the handles of stock objects cannot be given to created objects. -/
def checkHandle (handle : UInt32) : Except RecordFault Unit :=
  if handle = 0 then .error .reservedHandle
  else if handle &&& 0x80000000 ≠ 0 then .error (.stockHandle handle)
  else .ok ()

end Record

end Metafile
