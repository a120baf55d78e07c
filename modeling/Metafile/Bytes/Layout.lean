/-! # Bytes and fixed layouts

Multi-byte fields are little-endian. A `FixedLayout` type occupies the same number of bytes
wherever it is stored, and is decoded from exactly those bytes.
-/
namespace Metafile

abbrev Bytes := Array UInt8

namespace Bytes

def byteAt (b : Bytes) (i : Nat) : UInt8 := b[i]?.getD 0

/-- The `count` bytes from `start` on, fewer when the end comes first. -/
def slice (b : Bytes) (start count : Nat) : Bytes := b.extract start (start + count)

def u16At (b : Bytes) (i : Nat) : UInt16 :=
  (b.byteAt i).toUInt16 ||| (b.byteAt (i + 1)).toUInt16 <<< 8

def u32At (b : Bytes) (i : Nat) : UInt32 :=
  (b.u16At i).toUInt32 ||| (b.u16At (i + 2)).toUInt32 <<< 16

def i16At (b : Bytes) (i : Nat) : Int16 := (b.u16At i).toInt16

def i32At (b : Bytes) (i : Nat) : Int32 := (b.u32At i).toInt32

def f32At (b : Bytes) (i : Nat) : Float32 := .ofBits (b.u32At i)

theorem size_slice {b : Bytes} {start count : Nat} (h : start + count ≤ b.size) :
    (b.slice start count).size = count := by
  simp only [slice, Array.size_extract]
  omega

theorem getElem?_slice {b : Bytes} {start count i : Nat} (hi : i < count) :
    (b.slice start count)[i]? = b[start + i]? := by
  simp only [slice, Array.getElem?_extract]
  by_cases h : start + i < b.size
  · rw [if_pos (by omega)]
  · rw [if_neg (by omega), Array.getElem?_eq_none (by omega)]

theorem byteAt_slice {b : Bytes} {start count i : Nat} (hi : i < count) :
    (b.slice start count).byteAt i = b.byteAt (start + i) := by
  simp only [byteAt, getElem?_slice hi]

end Bytes

/-- A type whose values occupy `width` bytes; `ofBytes` is given exactly those. -/
class FixedLayout (α : Type) where
  width : Nat
  ofBytes : Bytes → α
  width_pos : 0 < width := by decide

def Bytes.valueAt (α : Type) [FixedLayout α] (b : Bytes) (i : Nat) : α :=
  FixedLayout.ofBytes (b.slice i (FixedLayout.width α))

def Bytes.valuesAt (α : Type) [FixedLayout α] (b : Bytes) (start count : Nat) : List α :=
  (List.range count).map fun i => b.valueAt α (start + i * FixedLayout.width α)

instance : FixedLayout UInt8 := { width := 1, ofBytes := fun b => b.byteAt 0 }

instance : FixedLayout UInt16 := { width := 2, ofBytes := fun b => b.u16At 0 }

instance : FixedLayout Int16 := { width := 2, ofBytes := fun b => b.i16At 0 }

instance : FixedLayout UInt32 := { width := 4, ofBytes := fun b => b.u32At 0 }

instance : FixedLayout Int32 := { width := 4, ofBytes := fun b => b.i32At 0 }

instance : FixedLayout Float32 := { width := 4, ofBytes := fun b => b.f32At 0 }

end Metafile
