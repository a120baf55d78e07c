import Metafile.Geometry

/-! # Device-independent bitmaps

A bitmap as a record carries it: its information header, the colour table behind that, and the
pixel bytes.
-/
namespace Metafile

structure BitmapHeader where
  size : UInt32
  width : Int32
  /-- Positive when the bottom row is stored first, negative when the top row is. -/
  height : Int32
  planes : UInt16
  bitCount : UInt16
  compression : UInt32
  imageSize : UInt32
  xPelsPerMeter : Int32
  yPelsPerMeter : Int32
  colorsUsed : UInt32
  colorsImportant : UInt32
deriving DecidableEq, Repr

instance : FixedLayout BitmapHeader where
  width := 40
  ofBytes b :=
    { size := b.u32At 0
      width := b.i32At 4
      height := b.i32At 8
      planes := b.u16At 12
      bitCount := b.u16At 14
      compression := b.u32At 16
      imageSize := b.u32At 20
      xPelsPerMeter := b.i32At 24
      yPelsPerMeter := b.i32At 28
      colorsUsed := b.u32At 32
      colorsImportant := b.u32At 36 }

structure Dib where
  header : BitmapHeader
  colorTable : Bytes
  bits : Bytes
deriving DecidableEq, Repr

namespace Dib

def width (d : Dib) : Int := d.header.width.toInt

def rowCount (d : Dib) : Nat := d.header.height.toInt.natAbs

def isBottomUp (d : Dib) : Bool := 0 < d.header.height

end Dib

end Metafile
