import Metafile.Numeric
import Metafile.Raster.Path
import Metafile.Text.Utf16

/-! # Text layout

Code units are split into characters or glyph numbers, each with the range of units it takes,
which is also its range in the advance array. Alignment says where the text stands with respect
to its reference point.
-/
namespace Metafile

inductive TextUnit where
  | char (c : Char)
  | glyph (id : UInt16)
deriving DecidableEq, Repr

/-- A unit of text and the half-open range of code units it takes. -/
structure TextSpan where
  unit : TextUnit
  start : Nat
  stop : Nat
deriving DecidableEq, Repr

def layOut (start : Nat) : List (TextUnit × Nat) → List TextSpan
  | [] => []
  | (unit, count) :: rest => ⟨unit, start, start + count⟩ :: layOut (start + count) rest

def textSpans (codeUnits : List UInt16) (glyphIndices : Bool) : List TextSpan :=
  layOut 0
    (if glyphIndices then codeUnits.map fun id => (.glyph id, 1)
    else (Utf16.spans codeUnits).map fun (c, count) => (.char c, count))

structure TextAlign where
  bits : UInt32
deriving DecidableEq, Repr, Inhabited

namespace TextAlign

def has (a : TextAlign) (mask : UInt32) : Bool := a.bits &&& mask == mask

/-- Text starts at the current position and moves it. -/
def updatesPosition (a : TextAlign) : Bool := a.has 0x01

def isCenter (a : TextAlign) : Bool := a.has 0x06

def isRight (a : TextAlign) : Bool := a.has 0x02 && !a.isCenter

def isBaseline (a : TextAlign) : Bool := a.has 0x18

def isBottom (a : TextAlign) : Bool := a.has 0x08 && !a.isBaseline

/-- Where the origin of the first glyph lies with respect to the reference point: how far along
the baseline and how far down from it. -/
def offset (a : TextAlign) (width ascent descent : Float32) : Float32 × Float32 :=
  (if a.isCenter then -width / 2 else if a.isRight then -width else 0,
   if a.isBaseline then 0 else if a.isBottom then -descent else ascent)

end TextAlign

structure FaceMetrics where
  unitsPerEm : Float32
  ascender : Float32
  descender : Float32
deriving Repr

def defaultEm : Float32 := 12

/-- The size of the em square for a font height in pixels. A negative height is that size, a
positive one is that of a character cell. -/
def FaceMetrics.emSize (m : FaceMetrics) (height : Float32) : Float32 :=
  if height < 0 then -height
  else if 0 < height then
    let cell := m.ascender - m.descender
    if 0 < cell then height * m.unitsPerEm / cell else height
  else defaultEm

def baselineAxes (degrees : Float32) : DevicePoint × DevicePoint :=
  let angle := radians degrees
  (⟨angle.cos, -angle.sin⟩, ⟨angle.sin, angle.cos⟩)

end Metafile
