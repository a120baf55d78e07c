import Metafile.Numeric
import Metafile.Object.Brush
import Metafile.Object.Pen
import Metafile.Object.Table
import Metafile.Playback.Mode
import Metafile.Raster.Paint
import Metafile.Text.Layout

/-! # The drawing state

What is saved and restored as a whole: the mapping of coordinates, the selected objects as they are
drawn with, the current position, colours, modes, and the clip.
-/
namespace Metafile

structure DrawState where
  mapMode : MapMode
  windowOrg : Point
  /-- None until a record sets it, as with the viewport. -/
  windowExt : Option Size
  viewportOrg : Point
  viewportExt : Option Size
  world : Transform
  pen : Pen
  brush : Brush
  font : FontDescription
  current : Point
  textColor : ColorRef
  bkColor : ColorRef
  bkMode : BackgroundMode
  fillMode : FillMode
  textAlign : TextAlign
  clip : Clip

namespace DrawState

def initial : DrawState where
  mapMode := .text
  windowOrg := ⟨0, 0⟩
  windowExt := none
  viewportOrg := ⟨0, 0⟩
  viewportExt := none
  world := .identity
  pen := .default
  brush := .default
  font := .default
  current := ⟨0, 0⟩
  textColor := .black
  bkColor := .white
  bkMode := .opaqueCells
  fillMode := .alternate
  textAlign := ⟨0⟩
  clip := none

instance : Inhabited DrawState := ⟨initial⟩

/-- Draws with an object from now on; palettes are not drawn with. -/
def drawWith (s : DrawState) : GraphicsObject → DrawState
  | .pen d => { s with pen := .ofDescription d }
  | .extPen d => { s with pen := .ofExtDescription d }
  | .brush d => { s with brush := .ofDescription d }
  | .bitmap dib => { s with brush := .pattern dib }
  | .font d => { s with font := d }
  | .palette _ => s

def usable? (size : Option Size) : Option Size := size.filter fun s => s.cx != 0 && s.cy != 0

def ratio (a b : Int32) : Float := Float.ofInt a.toInt / Float.ofInt b.toInt

/-- Pixels per unit of the page along each axis, on a raster of some size. Without usable extents
a unit is a pixel; when both axes are to be scaled alike, the one along x counts for both and y
keeps its direction. -/
def scale (s : DrawState) (width height : Nat) : Float × Float :=
  match usable? s.windowExt with
  | none => (1, 1)
  | some window =>
      if s.mapMode.usesViewportExtent then
        match usable? s.viewportExt with
        | none => (1, 1)
        | some viewport =>
            let sx := ratio viewport.cx window.cx
            let sy := ratio viewport.cy window.cy
            if s.mapMode = .isotropic then (sx, sx.abs * signOf sy) else (sx, sy)
      else
        (Float.ofNat width / Float.ofInt window.cx.toInt,
         Float.ofNat height / Float.ofInt window.cy.toInt)

end DrawState

end Metafile
