import Metafile.Bytes.Layout
import Metafile.Raster.Path

/-! # Font faces

What text needs of a face: vertical measures, advances and outlines of glyphs, the glyph of a
character, and where lines under and through the text go. How these are found in the bytes of a
font file is for a reader of fonts to say.
-/
namespace Metafile

structure RuleMetrics where
  position : Int
  thickness : Int
deriving Repr

/-- A face in font units, with y upwards; the descender is negative. -/
structure Face where
  unitsPerEm : Nat
  ascender : Int
  descender : Int
  glyph? : Char → Option Nat
  advance? : Nat → Option Nat
  outline? : Nat → Option PathDraft
  underline? : Option RuleMetrics
  strikeOut? : Option RuleMetrics

abbrev FontReader := Bytes → Except String Face

end Metafile
