import Metafile.Bitmap.Image
import Metafile.Raster.Mask

/-! # Painting

What areas are painted with, and how single pixels get a new colour. A pixel that the clip does not
show keeps its colour.
-/
namespace Metafile

/-- What an area is painted with; a tile is repeated from the corner of the raster. -/
inductive Ink where
  | solid (color : ColorRef)
  | tiled (tile : Tile)
deriving DecidableEq, Repr

def Ink.colorAt (ink : Ink) (x y : Nat) : Rgba :=
  match ink with
  | solid color => color.toRgba
  | tiled tile =>
      (tile.image.pixel? (x % tile.image.width) (y % tile.image.height)).getD ColorRef.black.toRgba

namespace Image

def recolor (im : Image) (color : Nat → Rgba → Option Rgba) : Image where
  width := im.width
  height := im.height
  pixels := im.pixels.mapIdx fun i old => (color i old).getD old
  filled := by rw [Array.size_mapIdx, im.filled]

def setPixel (im : Image) (x y : Int) (color : ColorRef) (clip : Clip) : Image :=
  if 0 ≤ x ∧ x < im.width ∧ 0 ≤ y ∧ y < im.height then
    let index := y.toNat * im.width + x.toNat
    im.recolor fun i _ => if i = index && clip.shows i then some color.toRgba else none
  else im

end Image

end Metafile
