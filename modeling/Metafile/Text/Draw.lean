import Metafile.Error
import Metafile.Font.Face
import Metafile.Raster.Rasterizer
import Metafile.Text.Layout

/-! # Drawing text

A run of text is drawn in four layers: the background behind its cells, the outlines of its
glyphs, and the lines under and through it. Glyphs follow one another by the advances given, or by
those of the face.
-/
namespace Metafile

structure DeviceText where
  codeUnits : List UInt16
  glyphIndices : Bool
  advances : List Float32
  reference : DevicePoint
  align : TextAlign
  escapement : Float32
  height : Float32
  underline : Bool
  strikeOut : Bool
  color : ColorRef
  background : Option ColorRef

def Face.metrics (f : Face) : FaceMetrics where
  unitsPerEm := Float32.ofNat (max f.unitsPerEm 1)
  ascender := Float32.ofInt f.ascender
  descender := Float32.ofInt f.descender

structure PlacedGlyph where
  glyph : Nat
  advance : Float32

namespace DeviceText

/-- The advance of a span: the sum of its entries, or the face's when entries are missing. -/
def advanceOf (t : DeviceText) (face : Face) (scale : Float32) (glyph : Nat) (span : TextSpan) :
    Float32 :=
  let entries := (t.advances.drop span.start).take (span.stop - span.start)
  if span.stop ≤ t.advances.length && !entries.isEmpty then entries.foldl (· + ·) (-0.0)
  else Float32.ofNat ((face.advance? glyph).getD 0) * scale

/-- The glyphs of the text; a character that the face lacks is drawn with its first glyph. -/
def glyphs (t : DeviceText) (face : Face) (scale : Float32) : List PlacedGlyph :=
  (textSpans t.codeUnits t.glyphIndices).map fun span =>
    let glyph := match span.unit with
      | .glyph id => id.toNat
      | .char c => (face.glyph? c).getD 0
    ⟨glyph, t.advanceOf face scale glyph span⟩

end DeviceText

structure TextPlacement where
  reference : DevicePoint
  along : DevicePoint
  down : DevicePoint
  offset : Float32 × Float32

namespace TextPlacement

def pointAt (p : TextPlacement) (s t : Float32) : DevicePoint :=
  ⟨p.reference.x + p.along.x * (p.offset.1 + s) + p.down.x * (p.offset.2 + t),
   p.reference.y + p.along.y * (p.offset.1 + s) + p.down.y * (p.offset.2 + t)⟩

def band (p : TextPlacement) (width top bottom : Float32) : List DevicePoint :=
  [p.pointAt 0 top, p.pointAt width top, p.pointAt width bottom, p.pointAt 0 bottom]

end TextPlacement

/-- The lines to be drawn with a text, in font units: position above the baseline and thickness. -/
def DeviceText.rules (t : DeviceText) (face : Face) : List (Float32 × Float32) :=
  let m := face.metrics
  let measured (rule? : Option RuleMetrics) (position : Float32) : Float32 × Float32 :=
    match rule? with
    | some rule => (Float32.ofInt rule.position, Float32.ofInt rule.thickness)
    | none => (position, m.unitsPerEm / 20)
  (if t.underline then [measured face.underline? (-m.unitsPerEm / 10)] else []) ++
    (if t.strikeOut then [measured face.strikeOut? (m.ascender * 0.3)] else [])

namespace Plotter

variable (p : Plotter)

def fillBand (im : Image) (place : TextPlacement) (width top bottom : Float32) (color : ColorRef)
    (clip : Clip) : Image :=
  p.fillSolid im (p.rasterizer.polyline? (place.band width top bottom) true) color .unmoved clip

def drawGlyphs (face : Face) (t : DeviceText) (scale : Float32) (place : TextPlacement)
    (clip : Clip) (im : Image) (distance : Float32) : List PlacedGlyph → Image
  | [] => im
  | g :: rest =>
      let outline? := (face.outline? g.glyph).bind p.rasterizer.path?
      let placement := Placement.glyph scale (-t.escapement) (place.pointAt distance 0)
      drawGlyphs face t scale place clip (p.fillSolid im outline? t.color placement clip)
        (distance + g.advance) rest

def drawRun (im : Image) (face : Face) (t : DeviceText) (clip : Clip) : Float32 × Image :=
  let m := face.metrics
  let scale := m.emSize t.height / m.unitsPerEm
  let glyphs := t.glyphs face scale
  let width := (glyphs.map (·.advance)).foldl (· + ·) (-0.0)
  let ascent := m.ascender * scale
  let descent := -m.descender * scale
  let (along, down) := baselineAxes t.escapement
  let place : TextPlacement :=
    { reference := t.reference, along, down, offset := t.align.offset width ascent descent }
  let backed := t.background.elim im fun color =>
    p.fillBand im place width (-ascent) descent color clip
  let drawn := p.drawGlyphs face t scale place clip backed 0 glyphs
  let ruled := (t.rules face).foldl (fun im (position, thickness) =>
    let center := -position * scale
    let half := larger (thickness * scale) 1 / 2
    p.fillBand im place width (center - half) (center + half) t.color clip) drawn
  (width, ruled)

def drawText (im : Image) (reader : FontReader) (font : Bytes) (t : DeviceText) (clip : Clip) :
    Except Error (Float32 × Image) :=
  match reader font with
  | .error reason => .error (.drawing (.badFont reason))
  | .ok face => .ok (p.drawRun im face t clip)

end Plotter

end Metafile
