import Metafile.Record.RecordType
import Metafile.Record.Section
import Metafile.Text.Windows1252

/-! # Decoding a record

`Record.decode` turns the bytes of one record into the instruction they stand for. Fixed fields
are looked at first, then the handle, then the sections in the order they are named; the first
fault found is the one reported.
-/
namespace Metafile

namespace Record

def signature : UInt32 := 0x464D4520

def trimZeros (units : List UInt16) : List UInt16 :=
  (units.reverse.dropWhile (· == 0)).reverse

def decodeHeader (w : Bytes) : Except RecordFault Header := do
  needFixed w 88
  if w.u32At 40 ≠ signature then throw (.badSignature (w.u32At 40))
  let length := w.u32At 60
  let offset := w.u32At 64
  let units ←
    if 0 < length ∧ offset ≠ 0 then arrayAt UInt16 w offset length else pure []
  return {
    bounds := w.valueAt Rect 8
    frame := w.valueAt Rect 24
    version := w.u32At 44
    size := w.u32At 48
    recordCount := w.u32At 52
    handleCount := w.u16At 56
    paletteSize := w.u32At 68
    device := w.valueAt Size 72
    millimeters := w.valueAt Size 80
    description := Utf16.decode (trimZeros units) }

def decodeEof (w : Bytes) : Except RecordFault Palette := do
  needFixed w 16
  if 0 < w.u32At 8 then arrayAt PaletteEntry w (w.u32At 12) (w.u32At 8) else return []

def decodeField (α : Type) [FixedLayout α] (w : Bytes) : Except RecordFault α := do
  needFixed w (headerSize + FixedLayout.width α)
  return w.valueAt α headerSize

/-- The region is given as a header and a list of rectangles, or not at all. -/
def decodeRegion (w : Bytes) : Except RecordFault Record := do
  needFixed w 16
  let dataSize := w.u32At 8
  let mode := w.u32At 12
  if dataSize = 0 then return .extSelectClipRgn mode none
  if dataSize.toNat < 32 then throw (.regionDataTooShort dataSize.toNat)
  if w.size - 16 < 32 then throw (.elementsOverrun 1 32)
  let rects ← arrayFrom Rect w 48 (w.u32At 24).toNat
  return .extSelectClipRgn mode (some ⟨w.valueAt Rect 32, rects⟩)

def decodePen (w : Bytes) : Except RecordFault Record := do
  needFixed w 28
  checkHandle (w.u32At 8)
  return .createPen (w.u32At 8) ⟨w.u32At 12, w.i32At 16, w.valueAt ColorRef 24⟩

def decodeExtPen (w : Bytes) : Except RecordFault Record := do
  needFixed w 52
  checkHandle (w.u32At 8)
  let style := w.u32At 28
  let dashes ←
    if style &&& PenStyle.patternMask = PenStyle.userStyle then
      arrayFrom UInt32 w 52 (w.u32At 48).toNat
    else pure []
  return .extCreatePen (w.u32At 8)
    { style, width := w.u32At 32, brushStyle := w.u32At 36, color := w.valueAt ColorRef 40,
      hatch := w.u32At 44, dashes }

def decodeBrush (w : Bytes) : Except RecordFault Record := do
  needFixed w 24
  checkHandle (w.u32At 8)
  return .createBrushIndirect (w.u32At 8) ⟨w.u32At 12, w.valueAt ColorRef 16, w.u32At 20⟩

def decodePatternBrush (w : Bytes) : Except RecordFault Record := do
  needFixed w 32
  checkHandle (w.u32At 8)
  match ← embeddedBitmap w (w.valueAt BitmapFields 16) with
  | some dib => return .createDibPatternBrushPt (w.u32At 8) (w.u32At 12) dib
  | none => throw .patternWithoutBitmap

def faceNameLength : Nat := 32

def decodeFaceName (w : Bytes) (start : Nat) : String :=
  Utf16.decode ((w.valuesAt UInt16 start faceNameLength).takeWhile (· != 0))

def decodeFont (w : Bytes) : Except RecordFault Record := do
  needFixed w 104
  checkHandle (w.u32At 8)
  return .extCreateFontIndirectW (w.u32At 8)
    { height := w.i32At 12
      width := w.i32At 16
      escapement := w.i32At 20
      orientation := w.i32At 24
      weight := w.i32At 28
      italic := w.byteAt 32 != 0
      underline := w.byteAt 33 != 0
      strikeOut := w.byteAt 34 != 0
      charset := w.byteAt 35
      face := decodeFaceName w 40 }

def decodePalette (w : Bytes) : Except RecordFault Record := do
  needFixed w 16
  checkHandle (w.u32At 8)
  return .createPalette (w.u32At 8) (← arrayFrom PaletteEntry w 16 (w.u16At 14).toNat)

def pointsFrom (wide : Bool) (w : Bytes) (start count : Nat) : Except RecordFault (List Point) :=
  if wide then arrayFrom Point w start count
  else (arrayFrom ShortPoint w start count).map (·.map ShortPoint.widen)

def decodePoly (wide : Bool) (w : Bytes) : Except RecordFault Poly := do
  needFixed w 28
  return ⟨w.valueAt Rect 8, ← pointsFrom wide w 28 (w.u32At 24).toNat⟩

/-- Whether points make up whole cubic segments. A curve of its own starts with its first point,
one that continues starts at the current position. -/
def FormsCurves (continues : Bool) (count : Nat) : Prop :=
  if continues then count % 3 = 0 else count = 0 ∨ count % 3 = 1

instance (continues : Bool) (count : Nat) : Decidable (FormsCurves continues count) := by
  unfold FormsCurves; infer_instance

def decodeBezier (wide continues : Bool) (w : Bytes) : Except RecordFault Poly := do
  let poly ← decodePoly wide w
  if FormsCurves continues poly.points.length then return poly
  else throw (.incompleteCurve poly.points.length)

def decodePolyPoly (wide : Bool) (w : Bytes) : Except RecordFault PolyPoly := do
  needFixed w 32
  let figures := (w.u32At 24).toNat
  let declared := (w.u32At 28).toNat
  let counts ← arrayFrom UInt32 w 32 figures
  let total := (counts.map (·.toNat)).foldr (· + ·) 0
  if total ≠ declared then throw (.figureTotal total declared)
  let points ← pointsFrom wide w (32 + figures * 4) declared
  return ⟨w.valueAt Rect 8, counts, points⟩

def decodeTransfer (w : Bytes) (cxSrc cySrc : Int32) : Except RecordFault Transfer := do
  let source ← embeddedBitmap w (w.valueAt BitmapFields 84)
  return {
    bounds := w.valueAt Rect 8
    xDest := w.i32At 24
    yDest := w.i32At 28
    cxDest := w.i32At 32
    cyDest := w.i32At 36
    rop := w.u32At 40
    xSrc := w.i32At 44
    ySrc := w.i32At 48
    xformSrc := w.valueAt Transform 52
    bkColorSrc := w.valueAt ColorRef 76
    usageSrc := w.u32At 80
    cxSrc, cySrc, source }

def decodeBitBlt (w : Bytes) : Except RecordFault Transfer := do
  needFixed w 100
  decodeTransfer w (w.i32At 32) (w.i32At 36)

def decodeStretchBlt (w : Bytes) : Except RecordFault Transfer := do
  needFixed w 108
  decodeTransfer w (w.i32At 100) (w.i32At 104)

def decodeStretchDiBits (w : Bytes) : Except RecordFault Transfer := do
  needFixed w 80
  let source ← embeddedBitmap w (w.valueAt BitmapFields 48)
  return {
    bounds := w.valueAt Rect 8
    xDest := w.i32At 24
    yDest := w.i32At 28
    xSrc := w.i32At 32
    ySrc := w.i32At 36
    cxSrc := w.i32At 40
    cySrc := w.i32At 44
    usageSrc := w.u32At 64
    rop := w.u32At 68
    cxDest := w.i32At 72
    cyDest := w.i32At 76
    xformSrc := .identity
    bkColorSrc := ⟨0⟩
    source }

def everyOther {α : Type} : List α → List α
  | [] => []
  | [x] => [x]
  | x :: _ :: rest => x :: everyOther rest

/-- The text of a record that has a string section of two bytes a unit, or of one. A text
without characters has no sections; any other has an advance for each unit. -/
def decodeTextRun (wide : Bool) (w : Bytes) : Except RecordFault TextRun := do
  let count := w.u32At 44
  let stringOffset := w.u32At 48
  let options : TextOptions := ⟨w.u32At 52⟩
  let advanceOffset := w.u32At 72
  let empty : TextRun :=
    { reference := w.valueAt Point 36, options, rectangle := w.valueAt Rect 56
      codeUnits := [], dx := [], dy := [] }
  if count = 0 then return empty
  if advanceOffset = 0 then throw (.missingAdvances count.toNat)
  let codeUnits ←
    if wide then arrayAt UInt16 w stringOffset count
    else (bytesAt w stringOffset count).map Windows1252.decode
  if options.hasAdvancePairs then
    if UInt32.size ≤ count.toNat * 2 then throw .advanceCountOverflow
    let advances ← arrayAt Int32 w advanceOffset (count * 2)
    return { empty with codeUnits, dx := everyOther advances, dy := everyOther (advances.drop 1) }
  else
    return { empty with codeUnits, dx := ← arrayAt Int32 w advanceOffset count }

def decodeTextOut (wide : Bool) (w : Bytes) : Except RecordFault TextOut := do
  needFixed w 76
  return {
    bounds := w.valueAt Rect 8
    graphicsMode := w.u32At 24
    exScale := w.f32At 28
    eyScale := w.f32At 32
    text := ← decodeTextRun wide w }

def decodeAs (w : Bytes) : RecordType → Except RecordFault Record
  | .header => .header <$> decodeHeader w
  | .eof => .eof <$> decodeEof w
  | .setMapMode => .setMapMode <$> decodeField UInt32 w
  | .setWindowExtEx => .setWindowExtEx <$> decodeField Size w
  | .setWindowOrgEx => .setWindowOrgEx <$> decodeField Point w
  | .setViewportExtEx => .setViewportExtEx <$> decodeField Size w
  | .setViewportOrgEx => .setViewportOrgEx <$> decodeField Point w
  | .setWorldTransform => .setWorldTransform <$> decodeField Transform w
  | .modifyWorldTransform => do
      needFixed w 36
      return .modifyWorldTransform (w.valueAt Transform 8) (w.u32At 32)
  | .setBkMode => .setBkMode <$> decodeField UInt32 w
  | .setPolyFillMode => .setPolyFillMode <$> decodeField UInt32 w
  | .setTextAlign => .setTextAlign <$> decodeField UInt32 w
  | .setTextColor => .setTextColor <$> decodeField ColorRef w
  | .setBkColor => .setBkColor <$> decodeField ColorRef w
  | .saveDc => .ok .saveDc
  | .restoreDc => .restoreDc <$> decodeField Int32 w
  | .moveToEx => .moveToEx <$> decodeField Point w
  | .excludeClipRect => .excludeClipRect <$> decodeField Rect w
  | .intersectClipRect => .intersectClipRect <$> decodeField Rect w
  | .extSelectClipRgn => decodeRegion w
  | .createPen => decodePen w
  | .extCreatePen => decodeExtPen w
  | .createBrushIndirect => decodeBrush w
  | .createDibPatternBrushPt => decodePatternBrush w
  | .extCreateFontIndirectW => decodeFont w
  | .createPalette => decodePalette w
  | .selectObject => .selectObject <$> decodeField UInt32 w
  | .selectPalette => .selectPalette <$> decodeField UInt32 w
  | .deleteObject => .deleteObject <$> decodeField UInt32 w
  | .setPixelV => do
      needFixed w 20
      return .setPixelV (w.valueAt Point 8) (w.valueAt ColorRef 16)
  | .lineTo => .lineTo <$> decodeField Point w
  | .rectangle => .rectangle <$> decodeField Rect w
  | .ellipse => .ellipse <$> decodeField Rect w
  | .polyBezier => .polyBezier <$> decodeBezier true false w
  | .polyBezier16 => .polyBezier <$> decodeBezier false false w
  | .polyBezierTo => .polyBezierTo <$> decodeBezier true true w
  | .polyBezierTo16 => .polyBezierTo <$> decodeBezier false true w
  | .polygon => .polygon <$> decodePoly true w
  | .polygon16 => .polygon <$> decodePoly false w
  | .polyline => .polyline <$> decodePoly true w
  | .polyline16 => .polyline <$> decodePoly false w
  | .polyLineTo => .polylineTo <$> decodePoly true w
  | .polyLineTo16 => .polylineTo <$> decodePoly false w
  | .polyPolyline => .polyPolyline <$> decodePolyPoly true w
  | .polyPolyline16 => .polyPolyline <$> decodePolyPoly false w
  | .polyPolygon => .polyPolygon <$> decodePolyPoly true w
  | .polyPolygon16 => .polyPolygon <$> decodePolyPoly false w
  | .bitBlt => .bitBlt <$> decodeBitBlt w
  | .stretchBlt => .stretchBlt <$> decodeStretchBlt w
  | .stretchDiBits => .stretchDiBits <$> decodeStretchDiBits w
  | .extTextOutA => .extTextOutA <$> decodeTextOut false w
  | .extTextOutW => .extTextOutW <$> decodeTextOut true w

/-- Decodes the bytes of one record; a type that is not interpreted never fails. -/
def decode (tag : UInt32) (w : Bytes) : Except RecordFault Record :=
  match RecordType.ofTag? tag with
  | some type => decodeAs w type
  | none => .ok (.skip tag (UInt32.ofNat w.size))

end Record

end Metafile
