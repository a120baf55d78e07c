import Metafile.Raster.Stroke

/-! # A sampling rasterizer

A pixel belongs to a shape or it does not, as its sample point does, and it takes the colour of the
paint as a whole. Edges are sharp, whether they are to be smoothed or not.
-/
namespace Metafile

namespace Image

def maxRowBytes : Nat := 0x7FFFFFFF

def Drawable (width height : Nat) : Prop := 0 < width ∧ 0 < height ∧ width * 4 ≤ maxRowBytes

instance (width height : Nat) : Decidable (Drawable width height) :=
  inferInstanceAs (Decidable (_ ∧ _ ∧ _))

def paint (im : Image) (area : Mask) (ink : Ink) (clip : Clip) : Image :=
  im.recolor fun i _ =>
    if area.covers i && clip.shows i then some (ink.colorAt (i % im.width) (i / im.width)) else none

def ofBytes (width height : Nat) (data : Bytes) : Image :=
  .generate width height fun x y =>
    let i := 4 * (y * width + x)
    ⟨data.byteAt i, data.byteAt (i + 1), data.byteAt (i + 2), data.byteAt (i + 3)⟩

end Image

def Placement.pointAt (p : DevicePoint) : Placement → DevicePoint
  | unmoved => p
  | glyph scale degrees origin =>
      let angle := radians degrees
      let (c, s) := (angle.cos, angle.sin)
      ⟨p.x * (c * scale) + p.y * (s * scale) + origin.x,
       p.x * (s * scale) + p.y * (c * -scale) + origin.y⟩

def Shape.place? (shape : Shape) (placement : Placement) : Option Shape :=
  match shape, placement with
  | path p, .glyph .. => (p.map? fun point => placement.pointAt point).map .path
  | shape, _ => some shape

/-- The colours of a pixel divided by its alpha, which they have been multiplied with. -/
def Rgba.divided (p : Rgba) : Rgba :=
  if p.alpha = 255 then p
  else
    let part := p.alpha.toFloat / 255
    let whole (v : UInt8) : UInt8 := (v.toFloat / part + 0.5).toUInt8
    ⟨whole p.red, whole p.green, whole p.blue, p.alpha⟩

def Rasterizer.sampling : Rasterizer where
  raster? width height color :=
    if Image.Drawable width height then some (.generate width height fun _ _ => color.toRgba)
    else none
  tile? tile := if Image.Drawable tile.image.width tile.image.height then some tile else none
  mask? width height := if 0 < width ∧ 0 < height then some (.blank width height) else none
  box? := Bounds.ofEdges?
  path? draft := draft.finish?.map .path
  path?_nil := rfl
  ellipse? box := some (.ellipse box)
  cover mask shape :=
    let inside := shape.fillMask mask.width mask.height .winding
    mask.mapIdx fun i v => if inside.covers i then 255 else v
  fill im shape paint rule placement clip :=
    match shape.place? placement with
    | some placed => im.paint (placed.fillMask im.width im.height rule) paint.ink clip
    | none => im
  stroke im shape paint stroke clip :=
    im.paint (shape.strokeMask im.width im.height stroke) paint.ink clip
  demultiply := Rgba.divided
  picture? width height data :=
    if 4 * (width * height) ≤ data.size then some (.ofBytes width height data) else none

end Metafile
