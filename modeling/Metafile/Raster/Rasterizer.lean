import Metafile.Object.Pen
import Metafile.Raster.Paint
import Metafile.Raster.Path

/-! # Rasterizers

How shapes become pixels is left to a rasterizer, which is no more than its operations, but for a
draft without steps, which makes no path. An operation that it can refuse has no result then.
Whatever else is relied on is stated where it is needed.
-/
namespace Metafile

inductive FillRule where
  | evenOdd
  | winding
deriving DecidableEq, Repr

structure Paint where
  ink : Ink
  antiAlias : Bool

inductive Placement where
  | unmoved
  /-- Scaled, turned upside down and by an angle in degrees, and moved from the origin to a point. -/
  | glyph (scale degrees : Float32) (origin : DevicePoint)

structure Rasterizer where
  raster? : Nat → Nat → ColorRef → Option Image
  /-- A tile as it is painted with. -/
  tile? : Tile → Option Tile
  /-- A mask that covers nothing. -/
  mask? : Nat → Nat → Option Mask
  /-- The box with a left, a top, a right and a bottom edge. -/
  box? : Float32 → Float32 → Float32 → Float32 → Option Bounds
  path? : PathDraft → Option Shape
  path?_nil : path? [] = none
  ellipse? : Bounds → Option Shape
  /-- The mask with the inside of a shape covered as well, by the winding rule and with sharp
  edges. -/
  cover : Mask → Shape → Mask
  fill : Image → Shape → Paint → FillRule → Placement → Clip → Image
  stroke : Image → Shape → Paint → Stroke → Clip → Image
  /-- A pixel of the raster as one of a picture, whose colours do not depend on its alpha. -/
  demultiply : Rgba → Rgba
  picture? : Nat → Nat → Bytes → Option Image

namespace Rasterizer

variable (r : Rasterizer)

def polyline? (points : List DevicePoint) (closed : Bool) : Option Shape :=
  if points.isEmpty then none else r.path? (.polyline points closed)

def polylines? (figures : List (List DevicePoint)) (closed : Bool) : Option Shape :=
  r.path? (.polylines figures closed)

def curves? (start : DevicePoint) (points : List DevicePoint) : Option Shape :=
  r.path? (.curves start points)

def ofCorners? (a b : DevicePoint) : Option Bounds :=
  if a.x.isFinite && a.y.isFinite && b.x.isFinite && b.y.isFinite then
    r.box? (smaller a.x b.x) (smaller a.y b.y) (larger a.x b.x) (larger a.y b.y)
  else none

def pattern (dib : Dib) : Except Error Tile := do
  let tile ← dib.toTile
  match r.tile? tile with
  | some tile => return tile
  | none => throw (.invalidBitmap (.noPattern tile.image.width tile.image.height))

end Rasterizer

/-- A rasterizer and the setting that it is used with. -/
structure Plotter where
  rasterizer : Rasterizer
  antiAlias : Bool

namespace Plotter

variable (t : Plotter)

def paint (ink : Ink) : Paint := ⟨ink, t.antiAlias⟩

def fill (im : Image) (shape : Shape) (ink : Ink) (rule : FillRule) (clip : Clip) : Image :=
  t.rasterizer.fill im shape (t.paint ink) rule .unmoved clip

def stroke (im : Image) (shape : Shape) (ink : Ink) (stroke : Stroke) (clip : Clip) : Image :=
  t.rasterizer.stroke im shape (t.paint ink) stroke clip

def fillSolid (im : Image) (shape? : Option Shape) (color : ColorRef) (placement : Placement)
    (clip : Clip) : Image :=
  match shape? with
  | none => im
  | some shape => t.rasterizer.fill im shape (t.paint (.solid color)) .winding placement clip

end Plotter

end Metafile
