import Metafile.Bitmap.Dib
import Metafile.Error

/-! # Images

Rows of colours from top to bottom. The pixels of a bitmap are stored blue first, in rows that
are filled up to a multiple of four bytes; only uncompressed bitmaps of 24 or 32 bits a pixel are
read. Their fourth byte has no meaning, so an image made of a bitmap is opaque. It has at least one
pixel, so it can be repeated as a tile.
-/
namespace Metafile

structure Rgba where
  red : UInt8
  green : UInt8
  blue : UInt8
  alpha : UInt8
deriving DecidableEq, Repr, Inhabited

def ColorRef.toRgba (c : ColorRef) : Rgba := ⟨c.red, c.green, c.blue, 255⟩

def Rgba.byte (p : Rgba) (k : Nat) : UInt8 :=
  match k with
  | 0 => p.red
  | 1 => p.green
  | 2 => p.blue
  | _ => p.alpha

/-- An image; the pixel at `(x, y)` has the index `y * width + x`. -/
structure Image where
  width : Nat
  height : Nat
  pixels : Array Rgba
  filled : pixels.size = width * height
deriving DecidableEq, Repr

namespace Image

def generate (width height : Nat) (color : Nat → Nat → Rgba) : Image where
  width := width
  height := height
  pixels := Array.ofFn fun i : Fin (width * height) => color (i % width) (i / width)
  filled := Array.size_ofFn

def pixel? (im : Image) (x y : Int) : Option Rgba :=
  if 0 ≤ x ∧ x < im.width ∧ 0 ≤ y ∧ y < im.height then
    im.pixels[y.toNat * im.width + x.toNat]?
  else none

def map (im : Image) (f : Rgba → Rgba) : Image :=
  { im with pixels := im.pixels.map f, filled := by rw [Array.size_map, im.filled] }

def bytes (im : Image) : Bytes :=
  Array.ofFn fun i : Fin (4 * im.pixels.size) => (im.pixels[i.val / 4]?.getD default).byte (i % 4)

end Image

structure Tile where
  image : Image
  columns : 0 < image.width
  rows : 0 < image.height
deriving DecidableEq, Repr

namespace Dib

def pixelBytes? (bits : Nat) : Option Nat :=
  match bits with
  | 24 => some 3
  | 32 => some 4
  | _ => none

/-- Bytes of a row: its bits rounded up to a multiple of 32. -/
def rowStride (width bits : Nat) : Nat := (width * bits + 31) / 32 * 4

def dataSize? (width height bits : Nat) : Option Nat :=
  let size := rowStride width bits * height
  if size < UInt64.size then some size else none

def storedColor (data : Bytes) (width bits pixelBytes : Nat) (x row : Nat) : Rgba :=
  let i := row * rowStride width bits + x * pixelBytes
  ⟨data.byteAt (i + 2), data.byteAt (i + 1), data.byteAt i, 255⟩

def checkData (data : Bytes) (width height bits : Nat) : Except Error Unit :=
  match dataSize? width height bits with
  | none => .error (.invalidBitmap (.tooLarge width height))
  | some needed =>
      if data.size < needed then
        .error (.invalidBitmap (.dataTooShort width height bits needed data.size))
      else .ok ()

def channels (color : Rgba) (count : Nat) : List UInt8 :=
  [color.red, color.green, color.blue, color.alpha].take count

/-- The pixels of stored rows one behind the other, red first and without filling. -/
def convert (data : Bytes) (width height sourceBits targetBits : Nat) : Except Error Bytes := do
  let some sourceBytes := pixelBytes? sourceBits
    | throw (.unsupportedPixelFormat (.sourceDepth sourceBits))
  let some targetBytes := pixelBytes? targetBits
    | throw (.unsupportedPixelFormat (.targetDepth targetBits))
  checkData data width height sourceBits
  let colors := (List.range (width * height)).map fun i =>
    storedColor data width sourceBits sourceBytes (i % width) (i / width)
  return (colors.flatMap (channels · targetBytes)).toArray

def uncompressed : UInt32 := 0

/-- The picture of a bitmap, its rows turned so that the top one comes first. -/
def toImage (d : Dib) : Except Error Image := do
  let h := d.header
  if h.compression ≠ uncompressed then
    throw (.unsupportedPixelFormat (.compression h.compression.toNat))
  let some pixelBytes := pixelBytes? h.bitCount.toNat
    | throw (.unsupportedPixelFormat (.depth h.bitCount.toNat))
  if h.width ≤ 0 ∨ h.height = 0 then
    throw (.invalidBitmap (.empty h.width.toInt h.height.toInt))
  let width := d.width.toNat
  let height := d.rowCount
  checkData d.bits width height h.bitCount.toNat
  return .generate width height fun x y =>
    storedColor d.bits width h.bitCount.toNat pixelBytes x
      (if d.isBottomUp then height - 1 - y else y)

theorem sides_of_toImage {d : Dib} {im : Image} (read : d.toImage = .ok im) :
    0 < im.width ∧ 0 < im.height := by
  unfold toImage at read
  dsimp only at read
  split at read
  · cases read
  split at read
  · split at read
    · cases read
    rename_i sides
    cases checked : checkData d.bits d.width.toNat d.rowCount d.header.bitCount.toNat with
    | error e =>
      rw [checked] at read
      cases read
    | ok done =>
      rw [checked] at read
      cases read
      have wide : 0 < d.header.width := Int32.not_le.mp fun narrow => sides (Or.inl narrow)
      have column : 0 < d.header.width.toInt := Int32.lt_iff_toInt_lt.mp wide
      have row : d.header.height.toInt ≠ 0 := fun none =>
        sides (Or.inr (Int32.toInt_inj.mp none))
      exact ⟨Int.lt_toNat.mpr column, Int.natAbs_pos.mpr row⟩
  · cases read

def toTile (d : Dib) : Except Error Tile :=
  match read : d.toImage with
  | .ok image => .ok ⟨image, (sides_of_toImage read).1, (sides_of_toImage read).2⟩
  | .error e => .error e

end Dib

end Metafile
