import Metafile.Geometry

/-! # Object descriptions

Pens, brushes, fonts and palettes as the creating records describe them, before a device
context works out how to draw with them.
-/
namespace Metafile

structure PenDescription where
  style : UInt32
  width : Int32
  color : ColorRef
deriving DecidableEq, Repr

structure ExtPenDescription where
  style : UInt32
  width : UInt32
  brushStyle : UInt32
  color : ColorRef
  hatch : UInt32
  /-- Lengths of dashes and gaps in turn, in logical units; empty but for user styles. -/
  dashes : List UInt32
deriving DecidableEq, Repr

namespace PenStyle

def patternMask : UInt32 := 0x0F

def capMask : UInt32 := 0xF00

def joinMask : UInt32 := 0xF000

def userStyle : UInt32 := 7

end PenStyle

structure BrushDescription where
  style : UInt32
  color : ColorRef
  hatch : UInt32
deriving DecidableEq, Repr

structure FontDescription where
  /-- Height of a character cell; a negative height is that of the em square. -/
  height : Int32
  width : Int32
  escapement : Int32
  orientation : Int32
  weight : Int32
  italic : Bool
  underline : Bool
  strikeOut : Bool
  charset : UInt8
  face : String
deriving DecidableEq, Repr

def FontDescription.default : FontDescription where
  height := 16
  width := 0
  escapement := 0
  orientation := 0
  weight := 400
  italic := false
  underline := false
  strikeOut := false
  charset := 1
  face := "Arial"

instance : Inhabited FontDescription := ⟨.default⟩

structure PaletteEntry where
  reserved : UInt8
  blue : UInt8
  green : UInt8
  red : UInt8
deriving DecidableEq, Repr

abbrev Palette := List PaletteEntry

instance : FixedLayout PaletteEntry where
  width := 4
  width_pos := (FixedLayout.width_pos : 0 < FixedLayout.width UInt32)
  ofBytes b := ⟨b.byteAt 0, b.byteAt 1, b.byteAt 2, b.byteAt 3⟩

end Metafile
