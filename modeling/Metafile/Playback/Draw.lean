import Metafile.Playback.Clip

/-! # Drawing in a context

What the drawing records do to the raster. Lines and curves from the current position move it before
they are drawn, but it is mapped to the raster before it moves. Text may move it, too, and learns
about fonts.
-/
namespace Metafile

namespace Context

def stroke (c : Context) (shape? : Option Shape) : Context :=
  match shape? with
  | none => c
  | some shape =>
      if c.state.pen.isNull then c
      else
        let (ax, ay) := c.axisScale
        let stroke := c.state.pen.strokeAt ((ax + ay) / 2)
        { c with
          raster := c.plotter.stroke c.raster shape (.solid c.state.pen.color) stroke c.state.clip }

def brushInk (c : Context) : Except Error (Option Ink) :=
  match c.state.brush with
  | .null => .ok none
  | .solid color | .hatched color _ => .ok (some (.solid color))
  | .pattern dib => (c.rasterizer.pattern dib).map fun tile => some (.tiled tile)

def fillShape (c : Context) (shape : Shape) : Outcome :=
  c.proceed c.brushInk fun
    | none => c.done
    | some ink =>
        c.setRaster (c.plotter.fill c.raster shape ink c.state.fillMode.rule c.state.clip)

/-- Fills a shape and strokes it. When it cannot be filled it is stroked all the same. -/
def fillAndStroke (c : Context) (shape? : Option Shape) : Outcome :=
  match shape? with
  | none => c.done
  | some shape =>
      let (filled, error?) := c.fillShape shape
      (filled.stroke (some shape), error?)

def lineShape? (c : Context) (points : List Point) (closed : Bool) : Option Shape :=
  c.rasterizer.polyline? (c.mapPoints points) closed

def curveShape? (c : Context) : List Point → Option Shape
  | [] => none
  | start :: rest => c.rasterizer.curves? (c.mapPoint start) (c.mapPoints rest)

def figuresShape? (c : Context) (poly : PolyPoly) (closed : Bool) : Option Shape :=
  c.rasterizer.polylines? (poly.figures.map c.mapPoints) closed

def ellipseShape? (c : Context) (r : Rect) : Option Shape :=
  (c.rasterizer.ofCorners? (c.mapPoint ⟨r.left, r.top⟩)
    (c.mapPoint ⟨r.right, r.bottom⟩)).bind c.rasterizer.ellipse?

def moveTo (c : Context) (p : Point) : Context := { c with state := { c.state with current := p } }

def lineTo (c : Context) (p : Point) : Context :=
  let start := c.mapPoint c.state.current
  let stop := c.mapPoint p
  let moved := c.moveTo p
  moved.stroke (moved.rasterizer.polyline? [start, stop] false)

def polylineTo (c : Context) (poly : Poly) : Context :=
  match poly.points.getLast? with
  | none => c
  | some last =>
      let points := c.mapPoint c.state.current :: c.mapPoints poly.points
      let moved := c.moveTo last
      moved.stroke (moved.rasterizer.polyline? points false)

def polyBezierTo (c : Context) (poly : Poly) : Context :=
  match poly.points.getLast? with
  | none => c
  | some last =>
      let start := c.mapPoint c.state.current
      let rest := c.mapPoints poly.points
      let moved := c.moveTo last
      moved.stroke (moved.rasterizer.curves? start rest)

def setPixel (c : Context) (p : Point) (color : ColorRef) : Outcome :=
  let place := c.mapPoint p
  let x := place.x.floor.toInt64.toInt
  let y := place.y.floor.toInt64.toInt
  c.setRaster (c.raster.setPixel x y color c.state.clip)

def transferSource (t : Transfer) : Except Error (Option Image) :=
  match t.source with
  | some dib => dib.toImage.map some
  | none => .ok none

/-- What a transfer takes as its pattern; a null brush counts as black. -/
def transferPattern (brush : Brush) (rop : UInt32) : Except Error Ink :=
  if (Rop.ofCode? rop).any (·.usesPattern) then
    match brush with
    | .solid color | .hatched color _ => .ok (.solid color)
    | .null => .ok (.solid .black)
    | .pattern dib => dib.toTile.map .tiled
  else .ok (.solid .black)

def transferBlit (c : Context) (t : Transfer) (source : Option Image) (pattern : Ink) : Blit :=
  let x := Float.ofInt t.xDest.toInt
  let y := Float.ofInt t.yDest.toInt
  let p := c.toDevice x y
  let q := c.toDevice (x + Float.ofInt t.cxDest.toInt) (y + Float.ofInt t.cyDest.toInt)
  { source, src := ⟨t.xSrc, t.ySrc, t.cxSrc, t.cySrc⟩, dest := ⟨p.x, p.y, q.x, q.y⟩,
    rop := t.rop, pattern }

def transfer (c : Context) (t : Transfer) : Outcome :=
  c.proceed (transferSource t) fun source =>
    c.proceed (transferPattern c.state.brush t.rop) fun pattern =>
      c.proceed (c.raster.blit (c.transferBlit t source pattern) c.state.clip) fun (_, raster) =>
        c.setRaster raster

def deviceText (c : Context) (text : TextRun) (reference : Point) : DeviceText :=
  let s := c.state
  let (ax, ay) := c.axisScale
  { codeUnits := text.codeUnits
    glyphIndices := text.options.hasGlyphIndices
    advances := text.dx.map fun dx => dx.toFloat32 * ax
    reference := c.mapPoint reference
    align := s.textAlign
    escapement := s.font.escapement.toFloat32 / 10
    height := s.font.height.toFloat32 * ay
    underline := s.font.underline
    strikeOut := s.font.strikeOut
    color := s.textColor
    background := if s.bkMode = .opaqueCells then some s.bkColor else none }

/-- How far a text moves the current position: the sum of its advances or, without these, its
width on the raster in logical units. -/
def textAdvance (c : Context) (text : TextRun) (width : Float32) : Int :=
  if text.dx.isEmpty then
    let ax := c.axisScale.1
    if 0 < ax then (width / ax).toInt64.toInt else 0
  else (text.dx.map (·.toInt)).foldr (· + ·) 0

def afterText (align : TextAlign) (start : Int32) (advance : Int) : Int32 :=
  let step := (saturate32 advance).toInt
  if align.isRight then saturate32 (start.toInt - step)
  else if align.isCenter then start
  else saturate32 (start.toInt + step)

/-- Draws the characters of a text. A text without characters, or without a font, draws nothing. -/
def drawCharacters (c : Context) (text : TextRun) : Outcome :=
  if text.codeUnits.isEmpty then c.done
  else
    let s := c.state
    let reference := if s.textAlign.updatesPosition then s.current else text.reference
    let (font?, fonts) := c.fonts.load s.font.face
    let c := { c with fonts }
    match font? with
    | none => c.done
    | some font =>
        c.proceed (c.plotter.drawText c.raster c.fonts.reader font (c.deviceText text reference) s.clip)
          fun (width, raster) =>
            let c := { c with raster }
            if s.textAlign.updatesPosition then
              let x := afterText s.textAlign reference.x (c.textAdvance text width)
              c.setState { s with current := { s.current with x } }
            else c.done

def backed (c : Context) (text : TextRun) : Context :=
  if text.options.isOpaque then
    let shape? := c.rectShape? text.rectangle
    { c with
      raster := c.plotter.fillSolid c.raster shape? c.state.bkColor .unmoved c.state.clip }
  else c

/-- Draws the characters of a text under a clip that is narrowed to its rectangle and put back. -/
def drawNarrowed (c : Context) (text : TextRun) : Outcome :=
  match c.clipRect text.rectangle .intersect with
  | (narrowed, some e) => (narrowed, some e)
  | (narrowed, none) =>
      let (drawn, error?) := narrowed.drawCharacters text
      ({ drawn with state := { drawn.state with clip := c.state.clip } }, error?)

def drawTextOut (c : Context) (text : TextRun) : Outcome :=
  let c := c.backed text
  if text.options.isClipped then c.drawNarrowed text else c.drawCharacters text

end Context

end Metafile
