import Metafile.Numeric
import Metafile.Raster.Paint
import Metafile.Raster.Rop

/-! # Transfers of pixels

A transfer covers a rectangle of the raster between two corners. Each pixel takes the source
pixel at the same fraction of the source rectangle, without mixing neighbours; turned corners and
negative extents mirror the picture. A pixel whose source lies outside the image stays as it is.
-/
namespace Metafile

/-- A rectangle of an image, in pixels; a negative extent goes backwards from the corner. -/
structure SourceRect where
  x : Int32
  y : Int32
  cx : Int32
  cy : Int32
deriving DecidableEq, Repr

structure DeviceRect where
  x0 : Float32
  y0 : Float32
  x1 : Float32
  y1 : Float32
deriving Repr

def sourceCoord (origin extent : Int32) (fraction : Float32) : Int :=
  let step := (fraction * Float32.ofNat extent.toInt.natAbs).floor.toInt64.toInt
  if 0 ≤ extent then origin.toInt + step else origin.toInt - 1 - step

/-- How far the middle of a pixel lies between two corners, short of the whole way. -/
def fractionAt (pixel : Nat) (start length : Float32) : Float32 :=
  clampNumber ((Float32.ofNat pixel + 0.5 - start) / length) 0 0.999999

def pixelRange (a b : Float32) (limit : Nat) : Int × Int :=
  (clampInt (smaller a b).round.toInt64.toInt 0 limit,
   clampInt (larger a b).round.toInt64.toInt 0 limit)

structure Blit where
  source : Option Image
  src : SourceRect
  dest : DeviceRect
  rop : UInt32
  pattern : Ink

namespace Blit

/-- Whether the pixel in a column and row lies in the target rectangle, which is empty when one
of its extents is zero. -/
def reaches (b : Blit) (width height x y : Nat) : Bool :=
  let columns := pixelRange b.dest.x0 b.dest.x1 width
  let rows := pixelRange b.dest.y0 b.dest.y1 height
  !(b.dest.x1 - b.dest.x0 == 0) && !(b.dest.y1 - b.dest.y0 == 0) &&
    decide (columns.1 ≤ x ∧ x < columns.2 ∧ rows.1 ≤ y ∧ y < rows.2)

/-- The source's colour for a pixel: black without a source, none outside the source. -/
def sample? (b : Blit) (x y : Nat) : Option Rgba :=
  match b.source with
  | none => some ColorRef.black.toRgba
  | some image =>
      image.pixel?
        (sourceCoord b.src.x b.src.cx (fractionAt x b.dest.x0 (b.dest.x1 - b.dest.x0)))
        (sourceCoord b.src.y b.src.cy (fractionAt y b.dest.y0 (b.dest.y1 - b.dest.y0)))

def mix (op : Rop) (s d p : Rgba) : Rgba :=
  ⟨op.combine s.red d.red p.red, op.combine s.green d.green p.green,
    op.combine s.blue d.blue p.blue, 255⟩

def write? (b : Blit) (op : Rop) (width height : Nat) (clip : Clip) (i : Nat) (old : Rgba) :
    Option Rgba :=
  let x := i % width
  let y := i / width
  if b.reaches width height x y && clip.shows i then
    (b.sample? x y).map fun s => mix op s old (b.pattern.colorAt x y)
  else none

end Blit

def Image.blit (im : Image) (b : Blit) (clip : Clip) : Except Error (Nat × Image) :=
  match Rop.ofCode? b.rop with
  | none => .error (.drawing (.unknownRop b.rop))
  | some op =>
      if op.usesSource && b.source.isNone then .error (.invalidBitmap (.missingSource b.rop))
      else
        let write? := b.write? op im.width im.height clip
        let written := (List.range im.pixels.size).countP fun i =>
          (write? i (im.pixels[i]?.getD default)).isSome
        .ok (written, im.recolor write?)

end Metafile
