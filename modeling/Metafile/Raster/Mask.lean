import Metafile.Bitmap.Image

/-! # Masks and clips

A mask has one byte for each pixel of a raster, and covers the pixels whose byte is not zero. A
clip is a mask or none; without a mask every pixel is visible.
-/
namespace Metafile

structure Mask where
  width : Nat
  height : Nat
  values : Array UInt8
  filled : values.size = width * height
deriving DecidableEq, Repr

namespace Mask

def level (covered : Bool) : UInt8 := if covered then 255 else 0

def ofBytes (width height : Nat) (value : Nat → UInt8) : Mask where
  width := width
  height := height
  values := Array.ofFn fun i : Fin (width * height) => value i
  filled := Array.size_ofFn

def covers (m : Mask) (i : Nat) : Bool := m.values[i]?.getD 0 != 0

def complement (m : Mask) : Mask where
  width := m.width
  height := m.height
  values := m.values.map fun v => level (v == 0)
  filled := by rw [Array.size_map, m.filled]

def mapIdx (m : Mask) (value : Nat → UInt8 → UInt8) : Mask where
  width := m.width
  height := m.height
  values := m.values.mapIdx value
  filled := by rw [Array.size_mapIdx, m.filled]

end Mask

abbrev Clip := Option Mask

def Clip.shows (clip : Clip) (i : Nat) : Bool := clip.all (·.covers i)

inductive ClipOp where
  | intersect
  | union
  | xor
  /-- What the clip shows outside the area. -/
  | difference
  | replace
deriving DecidableEq, Repr

namespace ClipOp

def ofMode? (mode : UInt32) : Option ClipOp :=
  match mode.toNat with
  | 1 => some intersect
  | 2 => some union
  | 3 => some xor
  | 4 => some difference
  | 5 => some replace
  | _ => none

def keeps (op : ClipOp) (shown covered : Bool) : Bool :=
  match op with
  | intersect => shown && covered
  | union => shown || covered
  | xor => shown != covered
  | difference => shown && !covered
  | replace => covered

end ClipOp

/-- The clip after an operation with an area. A byte without one in the area stays as it is. -/
def Clip.combine (clip : Clip) (area : Mask) (op : ClipOp) : Clip :=
  match clip, op with
  | none, .intersect | none, .replace | some _, .replace => some area
  | none, .union => none
  | none, .xor | none, .difference => some area.complement
  | some mask, op =>
      some (mask.mapIdx fun i v =>
        (area.values[i]?.map fun a => Mask.level (op.keeps (v != 0) (a != 0))).getD v)

end Metafile
