import Metafile.Config.Options
import Metafile.Document
import Metafile.Playback.SaveStack
import Metafile.Playback.State
import Metafile.Raster.Blit
import Metafile.Text.Draw

/-! # Device contexts

Everything that playback changes: the raster, the objects, the drawing state with its saved copies,
and what is known about fonts. Coordinates go from logical units through the world transform and
the mapping mode to pixels; the top left corner of the picture's bounds is pixel `(0, 0)`.
-/
namespace Metafile

def RenderOptions.backgroundColor (options : RenderOptions) : ColorRef :=
  .ofRgb options.background.1 options.background.2.1 options.background.2.2

structure Context where
  raster : Image
  plotter : Plotter
  bounds : Rect
  objects : ObjectTable
  state : DrawState
  saved : SaveStack DrawState
  fonts : FontLibrary

namespace Context

abbrev rasterizer (c : Context) : Rasterizer := c.plotter.rasterizer

def new (header : Header) (options : RenderOptions) (fonts : FontLibrary) (rasterizer : Rasterizer) :
    Except Error Context := do
  let (width, height) ← header.rasterSize
  if options.maxDimension < width ∨ options.maxDimension < height then
    throw (.invalidRasterSize width height)
  match rasterizer.raster? width height options.backgroundColor with
  | none => throw (.invalidRasterSize width height)
  | some raster =>
      return {
        raster
        plotter := ⟨rasterizer, options.antiAlias⟩
        bounds := header.bounds
        objects := .empty
        state := .initial
        saved := .empty
        fonts }

def finish (c : Context) : Except Error Image :=
  let data := (c.raster.map c.rasterizer.demultiply).bytes
  match c.rasterizer.picture? c.raster.width c.raster.height data with
  | some image => .ok image
  | none => .error (.invalidRasterSize c.raster.width c.raster.height)

def scale (c : Context) : Float × Float := c.state.scale c.raster.width c.raster.height

/-- The place on the raster of a point in logical units. -/
def toDevice (c : Context) (x y : Float) : DevicePoint :=
  let s := c.state
  let (wx, wy) := s.world.apply x y
  let (sx, sy) := c.scale
  let place (w scale : Float) (window viewport edge : Int32) : Float32 :=
    ((w - Float.ofInt window.toInt) * scale + Float.ofInt viewport.toInt -
      Float.ofInt edge.toInt).toFloat32
  ⟨place wx sx s.windowOrg.x s.viewportOrg.x c.bounds.left,
   place wy sy s.windowOrg.y s.viewportOrg.y c.bounds.top⟩

def mapPoint (c : Context) (p : Point) : DevicePoint :=
  c.toDevice (Float.ofInt p.x.toInt) (Float.ofInt p.y.toInt)

def mapPoints (c : Context) (points : List Point) : List DevicePoint := points.map c.mapPoint

def axisScale (c : Context) : Float32 × Float32 :=
  let (sx, sy) := c.scale
  let w := c.state.world
  ((sx.abs * vectorLength w.m11 w.m12).toFloat32, (sy.abs * vectorLength w.m21 w.m22).toFloat32)

def rectCorners (c : Context) (r : Rect) : List DevicePoint :=
  c.mapPoints [⟨r.left, r.top⟩, ⟨r.right, r.top⟩, ⟨r.right, r.bottom⟩, ⟨r.left, r.bottom⟩]

def rectShape? (c : Context) (r : Rect) : Option Shape :=
  c.rasterizer.polyline? (c.rectCorners r) true

/-- What has been done, and what could not be. -/
abbrev Outcome := Context × Option Error

def done (c : Context) : Outcome := (c, none)

/-- Goes on with what a step has come to. When it has failed, the context stays as it is by then. -/
def proceed {α : Type} (c : Context) (step : Except Error α) (next : α → Outcome) : Outcome :=
  match step with
  | .ok a => next a
  | .error e => (c, some e)

def setState (c : Context) (s : DrawState) : Outcome := ({ c with state := s }, none)

def setRaster (c : Context) (raster : Image) : Outcome := ({ c with raster }, none)

end Context

end Metafile
