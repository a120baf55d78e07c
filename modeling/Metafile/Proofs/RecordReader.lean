import Metafile.Record.Stream

/-! # Reading a record with a cursor

Decoding looks at the window of a record as a whole. Here the same fields and sections are read by a
cursor that moves over the window: it checks the room for each field before it reads, goes to a
section before it reads that, and has faults of its own, for data that ends and for places that it
cannot go to. -/
namespace Metafile

/-- A cursor computes its positions in signed machine words, and no buffer is larger than these. -/
def Bytes.Addressable (b : Bytes) : Prop := b.size < 0x8000000000000000

/-- What a cursor reads while it moves over the window of a record with some tag. -/
abbrev RecordReader := ReaderT UInt32 (StateT Cursor (Except Error))

structure RegionHead where
  count : UInt32
  bounds : Rect

instance : FixedLayout RegionHead where
  width := 32
  ofBytes b := ⟨b.u32At 8, b.valueAt Rect 16⟩

namespace RecordReader

variable {α : Type}

/-- A fault of the record is reported for the place where it starts. -/
def malformed (fault : RecordFault) : RecordReader α := fun tag c =>
  .error (.malformedRecord (c.absolutePosition - c.pos) tag fault)

def require (outcome : Except RecordFault α) : RecordReader α :=
  match outcome with
  | .ok a => pure a
  | .error fault => malformed fault

def fixed (needed : Nat) : RecordReader Bytes := fun tag c =>
  if c.data.size < needed then malformed (.fixedFieldsCut c.data.size needed) tag c
  else c.seekTo 0 >>= fun start => start.readBytes needed

def array (α : Type) [FixedLayout α] (count : UInt32) : RecordReader (List α) := fun tag c =>
  if c.remaining < count.toNat * FixedLayout.width α then
    malformed (.elementsOverrun count.toNat (FixedLayout.width α)) tag c
  else c.readArray α count.toUInt64

def here (α : Type) [FixedLayout α] : RecordReader α := do
  match (← array α 1).getLast? with
  | some value => return value
  | none => malformed (.other "empty structure read")

def seekSection (offset : UInt32) : RecordReader Unit := fun tag c =>
  if offset.toNat < Record.headerSize ∨ c.data.size < offset.toNat then
    malformed (.sectionOutside offset.toNat c.data.size) tag c
  else c.seekTo offset.toUInt64 >>= fun next => .ok ((), next)

def bytes (offset length : UInt32) : RecordReader Bytes := fun tag c =>
  if c.remaining < length.toNat then
    malformed (.sectionOverrun length.toNat offset.toNat) tag c
  else c.readBytes length.toNat

def arrayAt (α : Type) [FixedLayout α] (offset count : UInt32) : RecordReader (List α) := do
  seekSection offset
  array α count

def bytesAt (offset length : UInt32) : RecordReader Bytes := do
  seekSection offset
  bytes offset length

def embeddedBitmap (f : Record.BitmapFields) : RecordReader (Option Dib) := do
  if f.infoSize = 0 then return none
  if f.infoSize.toNat < FixedLayout.width BitmapHeader then
    malformed (.bitmapInfoTooShort f.infoSize.toNat)
  let info ← bytesAt f.infoOffset f.infoSize
  let header := info.valueAt BitmapHeader 0
  let headerEnd := min (max header.size.toNat (FixedLayout.width BitmapHeader)) info.size
  let bits ← if f.bitsSize = 0 then pure #[] else bytesAt f.bitsOffset f.bitsSize
  return some { header, colorTable := info.extract headerEnd info.size, bits }

def fixedOnly (needed : Nat) (decode : Bytes → Except RecordFault α) : RecordReader α := do
  require (decode (← fixed needed))

def field (α : Type) [FixedLayout α] : RecordReader α :=
  fixedOnly (Record.headerSize + FixedLayout.width α) (Record.decodeField α)

def header : RecordReader Header := do
  let raw ← fixed 88
  if raw.u32At 40 ≠ Record.signature then malformed (.badSignature (raw.u32At 40))
  let length := raw.u32At 60
  let offset := raw.u32At 64
  let units ← if 0 < length ∧ offset ≠ 0 then arrayAt UInt16 offset length else pure []
  return {
    bounds := raw.valueAt Rect 8
    frame := raw.valueAt Rect 24
    version := raw.u32At 44
    size := raw.u32At 48
    recordCount := raw.u32At 52
    handleCount := raw.u16At 56
    paletteSize := raw.u32At 68
    device := raw.valueAt Size 72
    millimeters := raw.valueAt Size 80
    description := Utf16.decode (Record.trimZeros units) }

def eof : RecordReader Palette := do
  let raw ← fixed 16
  if 0 < raw.u32At 8 then arrayAt PaletteEntry (raw.u32At 12) (raw.u32At 8) else return []

def region : RecordReader Record := do
  let raw ← fixed 16
  let dataSize := raw.u32At 8
  let mode := raw.u32At 12
  if dataSize = 0 then return .extSelectClipRgn mode none
  if dataSize.toNat < 32 then malformed (.regionDataTooShort dataSize.toNat)
  let head ← here RegionHead
  let rects ← array Rect head.count
  return .extSelectClipRgn mode (some ⟨head.bounds, rects⟩)

def extPen : RecordReader Record := do
  let raw ← fixed 52
  require (Record.checkHandle (raw.u32At 8))
  let style := raw.u32At 28
  let dashes ←
    if style &&& PenStyle.patternMask = PenStyle.userStyle then array UInt32 (raw.u32At 48)
    else pure []
  return .extCreatePen (raw.u32At 8)
    { style, width := raw.u32At 32, brushStyle := raw.u32At 36, color := raw.valueAt ColorRef 40,
      hatch := raw.u32At 44, dashes }

def patternBrush : RecordReader Record := do
  let raw ← fixed 32
  require (Record.checkHandle (raw.u32At 8))
  match ← embeddedBitmap (raw.valueAt Record.BitmapFields 16) with
  | some dib => return .createDibPatternBrushPt (raw.u32At 8) (raw.u32At 12) dib
  | none => malformed .patternWithoutBitmap

def palette : RecordReader Record := do
  let raw ← fixed 16
  require (Record.checkHandle (raw.u32At 8))
  return .createPalette (raw.u32At 8) (← array PaletteEntry (raw.u16At 14).toUInt32)

def points (wide : Bool) (count : UInt32) : RecordReader (List Point) :=
  if wide then array Point count
  else (·.map ShortPoint.widen) <$> array ShortPoint count

def poly (wide : Bool) : RecordReader Poly := do
  let raw ← fixed 28
  return ⟨raw.valueAt Rect 8, ← points wide (raw.u32At 24)⟩

def bezier (wide continues : Bool) : RecordReader Poly := do
  let poly ← poly wide
  if Record.FormsCurves continues poly.points.length then return poly
  else malformed (.incompleteCurve poly.points.length)

def polyPoly (wide : Bool) : RecordReader PolyPoly := do
  let raw ← fixed 32
  let counts ← array UInt32 (raw.u32At 24)
  let total := (counts.map (·.toNat)).foldr (· + ·) 0
  if total ≠ (raw.u32At 28).toNat then malformed (.figureTotal total (raw.u32At 28).toNat)
  let points ← points wide (raw.u32At 28)
  return ⟨raw.valueAt Rect 8, counts, points⟩

def transfer (raw : Bytes) (cxSrc cySrc : Int32) : RecordReader Transfer := do
  let source ← embeddedBitmap (raw.valueAt Record.BitmapFields 84)
  return {
    bounds := raw.valueAt Rect 8
    xDest := raw.i32At 24
    yDest := raw.i32At 28
    cxDest := raw.i32At 32
    cyDest := raw.i32At 36
    rop := raw.u32At 40
    xSrc := raw.i32At 44
    ySrc := raw.i32At 48
    xformSrc := raw.valueAt Transform 52
    bkColorSrc := raw.valueAt ColorRef 76
    usageSrc := raw.u32At 80
    cxSrc, cySrc, source }

def bitBlt : RecordReader Transfer := do
  let raw ← fixed 100
  transfer raw (raw.i32At 32) (raw.i32At 36)

def stretchBlt : RecordReader Transfer := do
  let raw ← fixed 108
  transfer raw (raw.i32At 100) (raw.i32At 104)

def stretchDiBits : RecordReader Transfer := do
  let raw ← fixed 80
  let source ← embeddedBitmap (raw.valueAt Record.BitmapFields 48)
  return {
    bounds := raw.valueAt Rect 8
    xDest := raw.i32At 24
    yDest := raw.i32At 28
    xSrc := raw.i32At 32
    ySrc := raw.i32At 36
    cxSrc := raw.i32At 40
    cySrc := raw.i32At 44
    usageSrc := raw.u32At 64
    rop := raw.u32At 68
    cxDest := raw.i32At 72
    cyDest := raw.i32At 76
    xformSrc := .identity
    bkColorSrc := ⟨0⟩
    source }

def textRun (wide : Bool) (raw : Bytes) : RecordReader TextRun := do
  let count := raw.u32At 44
  let stringOffset := raw.u32At 48
  let options : TextOptions := ⟨raw.u32At 52⟩
  let advanceOffset := raw.u32At 72
  let empty : TextRun :=
    { reference := raw.valueAt Point 36, options, rectangle := raw.valueAt Rect 56
      codeUnits := [], dx := [], dy := [] }
  if count = 0 then return empty
  if advanceOffset = 0 then malformed (.missingAdvances count.toNat)
  let codeUnits ←
    if wide then arrayAt UInt16 stringOffset count
    else Windows1252.decode <$> bytesAt stringOffset count
  if options.hasAdvancePairs then
    if UInt32.size ≤ count.toNat * 2 then malformed .advanceCountOverflow
    let advances ← arrayAt Int32 advanceOffset (count * 2)
    return { empty with
      codeUnits
      dx := Record.everyOther advances
      dy := Record.everyOther (advances.drop 1) }
  else
    return { empty with codeUnits, dx := ← arrayAt Int32 advanceOffset count }

def textOut (wide : Bool) : RecordReader TextOut := do
  let raw ← fixed 76
  return {
    bounds := raw.valueAt Rect 8
    graphicsMode := raw.u32At 24
    exScale := raw.f32At 28
    eyScale := raw.f32At 32
    text := ← textRun wide raw }

def readAs : RecordType → RecordReader Record
  | .header => .header <$> header
  | .eof => .eof <$> eof
  | .setMapMode => .setMapMode <$> field UInt32
  | .setWindowExtEx => .setWindowExtEx <$> field Size
  | .setWindowOrgEx => .setWindowOrgEx <$> field Point
  | .setViewportExtEx => .setViewportExtEx <$> field Size
  | .setViewportOrgEx => .setViewportOrgEx <$> field Point
  | .setWorldTransform => .setWorldTransform <$> field Transform
  | .modifyWorldTransform => fixedOnly 36 (Record.decodeAs · .modifyWorldTransform)
  | .setBkMode => .setBkMode <$> field UInt32
  | .setPolyFillMode => .setPolyFillMode <$> field UInt32
  | .setTextAlign => .setTextAlign <$> field UInt32
  | .setTextColor => .setTextColor <$> field ColorRef
  | .setBkColor => .setBkColor <$> field ColorRef
  | .saveDc => pure .saveDc
  | .restoreDc => .restoreDc <$> field Int32
  | .moveToEx => .moveToEx <$> field Point
  | .excludeClipRect => .excludeClipRect <$> field Rect
  | .intersectClipRect => .intersectClipRect <$> field Rect
  | .extSelectClipRgn => region
  | .createPen => fixedOnly 28 Record.decodePen
  | .extCreatePen => extPen
  | .createBrushIndirect => fixedOnly 24 Record.decodeBrush
  | .createDibPatternBrushPt => patternBrush
  | .extCreateFontIndirectW => fixedOnly 104 Record.decodeFont
  | .createPalette => palette
  | .selectObject => .selectObject <$> field UInt32
  | .selectPalette => .selectPalette <$> field UInt32
  | .deleteObject => .deleteObject <$> field UInt32
  | .setPixelV => fixedOnly 20 (Record.decodeAs · .setPixelV)
  | .lineTo => .lineTo <$> field Point
  | .rectangle => .rectangle <$> field Rect
  | .ellipse => .ellipse <$> field Rect
  | .polyBezier => .polyBezier <$> bezier true false
  | .polyBezier16 => .polyBezier <$> bezier false false
  | .polyBezierTo => .polyBezierTo <$> bezier true true
  | .polyBezierTo16 => .polyBezierTo <$> bezier false true
  | .polygon => .polygon <$> poly true
  | .polygon16 => .polygon <$> poly false
  | .polyline => .polyline <$> poly true
  | .polyline16 => .polyline <$> poly false
  | .polyLineTo => .polylineTo <$> poly true
  | .polyLineTo16 => .polylineTo <$> poly false
  | .polyPolyline => .polyPolyline <$> polyPoly true
  | .polyPolyline16 => .polyPolyline <$> polyPoly false
  | .polyPolygon => .polyPolygon <$> polyPoly true
  | .polyPolygon16 => .polyPolygon <$> polyPoly false
  | .bitBlt => .bitBlt <$> bitBlt
  | .stretchBlt => .stretchBlt <$> stretchBlt
  | .stretchDiBits => .stretchDiBits <$> stretchDiBits
  | .extTextOutA => .extTextOutA <$> textOut false
  | .extTextOutW => .extTextOutW <$> textOut true

def record : RecordReader Record := fun tag c =>
  match RecordType.ofTag? tag with
  | some type => readAs type tag c
  | none => .ok (.skip tag (UInt32.ofNat c.data.size), c)

end RecordReader

/-- Reads the record at a cursor as its reader does in the window cut out for it; the outer cursor
goes to the declared end, wherever the reader has come to. -/
def Cursor.walkRecord (c : Cursor) : Except Error (Record × Cursor) := do
  let start := c.pos
  let (head, behind) ← c.read RecordHead
  let size := head.size.toNat
  if size < Record.headerSize then
    throw (.malformedRecord (behind.absolutePosition - Record.headerSize) head.tag
      (.sizeBelowHeader size))
  let window ← behind.subCursor (UInt64.ofNat start) head.size.toUInt64
  let (record, _) ← RecordReader.record head.tag window
  let next ← behind.seekTo (UInt64.ofNat (start + size))
  return (record, next)

end Metafile
