import Metafile.Proofs.CursorInPlace
import Metafile.Proofs.Padding

/-! # Stored values

The other way round from a layout: the bytes that a value is stored in, and what is read from bytes
that have been put together from values. -/
namespace Metafile

/-- A layout whose values have bytes that they are read from. -/
class Stored (α : Type) [FixedLayout α] where
  toBytes : α → Bytes
  size_toBytes : ∀ a, (toBytes a).size = FixedLayout.width α
  ofBytes_toBytes : ∀ a, FixedLayout.ofBytes (toBytes a) = a

namespace Bytes

open Stored

section

variable {α : Type} [FixedLayout α] {a b : Bytes} {i n : Nat}

theorem valueAt_append_right (behind : a.size ≤ i) :
    (a ++ b).valueAt α i = b.valueAt α (i - a.size) := by
  rw [valueAt, slice_append_right behind, valueAt]

theorem valuesAt_append_right (behind : a.size ≤ i) :
    (a ++ b).valuesAt α i n = b.valuesAt α (i - a.size) n :=
  valuesAt_eq_of_slice (slice_append_right behind)

theorem valueAt_toBytes [Stored α] (value : α) (rest : Bytes) :
    (toBytes value ++ rest).valueAt α 0 = value := by
  rw [valueAt, slice_append_left (by rw [size_toBytes]; omega), ← size_toBytes value, slice_self,
    ofBytes_toBytes]

theorem valueAt_i16 : b.valueAt Int16 i = b.i16At i := by
  change ((b.slice i 2).u16At 0).toInt16 = _
  rw [u16At_slice (by omega), Nat.add_zero, i16At]

theorem valueAt_u32 : b.valueAt UInt32 i = b.u32At i := by
  change (b.slice i 4).u32At 0 = _
  rw [u32At_slice (by omega), Nat.add_zero]

end

def ofU16 (n : UInt16) : Bytes := #[n.toUInt8, (n >>> 8).toUInt8]

theorem u16At_ofU16 (n : UInt16) : (ofU16 n).u16At 0 = n := by
  have small := n.toNat_lt
  have bytes : (ofU16 n).byteAt 0 = n.toUInt8 ∧ (ofU16 n).byteAt 1 = (n >>> 8).toUInt8 :=
    ⟨rfl, rfl⟩
  rw [← UInt16.toNat_inj, toNat_u16At, bytes.1, bytes.2]
  simp only [UInt16.toNat_toUInt8, UInt16.toNat_shiftRight, Nat.shiftRight_eq_div_pow]
  change n.toNat % 256 + 256 * (n.toNat / 256 % 256) = n.toNat
  omega

end Bytes

instance : Stored UInt32 where
  toBytes := Bytes.ofU32
  size_toBytes _ := rfl
  ofBytes_toBytes := Bytes.u32At_ofU32

instance : Stored Int32 where
  toBytes x := Bytes.ofU32 x.toUInt32
  size_toBytes _ := rfl
  ofBytes_toBytes x := by
    change ((Bytes.ofU32 x.toUInt32).u32At 0).toInt32 = x
    rw [Bytes.u32At_ofU32, Int32.toInt32_toUInt32]

instance : Stored Int16 where
  toBytes x := Bytes.ofU16 x.toUInt16
  size_toBytes _ := rfl
  ofBytes_toBytes x := by
    change ((Bytes.ofU16 x.toUInt16).u16At 0).toInt16 = x
    rw [Bytes.u16At_ofU16, Int16.toInt16_toUInt16]

namespace Bytes

open Stored

variable {α : Type} [FixedLayout α] [Stored α]

def storeAll (values : List α) : Bytes :=
  values.foldr (fun value rest => toBytes value ++ rest) #[]

theorem size_storeAll (values : List α) :
    (storeAll values).size = values.length * FixedLayout.width α := by
  induction values with
  | nil => exact (Nat.zero_mul _).symm
  | cons value rest ih =>
    change (toBytes value ++ storeAll rest).size = _
    rw [Array.size_append, size_toBytes, ih, List.length_cons, Nat.succ_mul, Nat.add_comm]

theorem valuesAt_storeAll (values : List α) (rest : Bytes) :
    (storeAll values ++ rest).valuesAt α 0 values.length = values := by
  induction values with
  | nil => rfl
  | cons value values ih =>
    change (toBytes value ++ storeAll values ++ rest).valuesAt α 0 (values.length + 1) = _
    have behind : (toBytes value).size ≤ 0 + FixedLayout.width α := by
      rw [size_toBytes]
      omega
    rw [Array.append_assoc, valuesAt_succ, valueAt_toBytes, valuesAt_append_right behind,
      size_toBytes, Nat.zero_add, Nat.sub_self, ih]

theorem valueAt_storeAll {values : List α} {i : Nat} {value : α} (h : values[i]? = some value) :
    (storeAll values).valueAt α (i * FixedLayout.width α) = value := by
  obtain ⟨inside, -⟩ := List.getElem?_eq_some_iff.mp h
  have whole := valuesAt_storeAll values #[]
  rw [Array.append_empty] at whole
  have found : ((storeAll values).valuesAt α 0 values.length)[i]? =
      some ((storeAll values).valueAt α (0 + i * FixedLayout.width α)) := getElem?_valuesAt inside
  rw [whole, h, Nat.zero_add] at found
  exact (Option.some.inj found).symm

theorem i32At_storeAll {values : List Int32} {i : Nat} {x : Int32} (h : values[i]? = some x) :
    (storeAll values).i32At (i * 4) = x := by
  rw [← valueAt_i32]
  exact valueAt_storeAll h

theorem i16At_storeAll {values : List Int16} {i : Nat} {x : Int16} (h : values[i]? = some x) :
    (storeAll values).i16At (i * 2) = x := by
  rw [← valueAt_i16]
  exact valueAt_storeAll h

end Bytes

open Bytes

instance : Stored Point where
  toBytes p := storeAll [p.x, p.y]
  size_toBytes p := size_storeAll [p.x, p.y]
  ofBytes_toBytes p := by
    have x : (storeAll [p.x, p.y]).i32At 0 = p.x := i32At_storeAll (i := 0) rfl
    have y : (storeAll [p.x, p.y]).i32At 4 = p.y := i32At_storeAll (i := 1) rfl
    change Point.mk _ _ = p
    rw [x, y]

instance : Stored ShortPoint where
  toBytes p := storeAll [p.x, p.y]
  size_toBytes p := size_storeAll [p.x, p.y]
  ofBytes_toBytes p := by
    have x : (storeAll [p.x, p.y]).i16At 0 = p.x := i16At_storeAll (i := 0) rfl
    have y : (storeAll [p.x, p.y]).i16At 2 = p.y := i16At_storeAll (i := 1) rfl
    change ShortPoint.mk _ _ = p
    rw [x, y]

instance : Stored Rect where
  toBytes r := storeAll [r.left, r.top, r.right, r.bottom]
  size_toBytes r := size_storeAll [r.left, r.top, r.right, r.bottom]
  ofBytes_toBytes r := by
    let edges : Bytes := storeAll [r.left, r.top, r.right, r.bottom]
    have left : edges.i32At 0 = r.left := i32At_storeAll (i := 0) rfl
    have top : edges.i32At 4 = r.top := i32At_storeAll (i := 1) rfl
    have right : edges.i32At 8 = r.right := i32At_storeAll (i := 2) rfl
    have bottom : edges.i32At 12 = r.bottom := i32At_storeAll (i := 3) rfl
    change Rect.mk (edges.i32At 0) (edges.i32At 4) (edges.i32At 8) (edges.i32At 12) = r
    rw [left, top, right, bottom]

namespace Bytes

open Stored

/-- Bytes end in others that start at a place. -/
def EndsFrom (b : Bytes) (i : Nat) (ending : Bytes) : Prop :=
  ∃ front : Bytes, front.size = i ∧ b = front ++ ending

namespace EndsFrom

variable {b a rest : Bytes} {i : Nat} {α : Type} [FixedLayout α] [Stored α]

theorem whole : b.EndsFrom 0 b := ⟨#[], rfl, Array.empty_append.symm⟩

theorem size_eq (h : b.EndsFrom i a) : b.size = i + a.size := by
  obtain ⟨front, rfl, rfl⟩ := h
  exact Array.size_append

theorem next (h : b.EndsFrom i (a ++ rest)) : b.EndsFrom (i + a.size) rest := by
  obtain ⟨front, rfl, rfl⟩ := h
  exact ⟨front ++ a, Array.size_append, Array.append_assoc.symm⟩

theorem behind {value : α} (h : b.EndsFrom i (toBytes value ++ rest)) :
    b.EndsFrom (i + FixedLayout.width α) rest := by
  rw [← size_toBytes value]
  exact h.next

theorem valueAt {value : α} (h : b.EndsFrom i (toBytes value ++ rest)) :
    b.valueAt α i = value := by
  obtain ⟨front, rfl, rfl⟩ := h
  rw [valueAt_append_right (Nat.le_refl _), Nat.sub_self, valueAt_toBytes]

theorem u32At {n : UInt32} (h : b.EndsFrom i (toBytes n ++ rest)) : b.u32At i = n := by
  rw [← valueAt_u32]
  exact h.valueAt

theorem valuesAt {values : List α} (h : b.EndsFrom i (storeAll values ++ rest)) :
    b.valuesAt α i values.length = values := by
  obtain ⟨front, rfl, rfl⟩ := h
  rw [valuesAt_append_right (Nat.le_refl _), Nat.sub_self, valuesAt_storeAll]

end EndsFrom

end Bytes

namespace Record

open Bytes Stored

theorem arrayFrom_stored {α : Type} [FixedLayout α] [Stored α] {w rest : Bytes} {i : Nat}
    {values : List α} (h : w.EndsFrom i (storeAll values ++ rest)) :
    arrayFrom α w i values.length = .ok values := by
  have size := h.size_eq
  rw [Array.size_append, size_storeAll] at size
  exact (arrayFrom_eq_ok_iff (by omega)).mpr ⟨by omega, h.valuesAt⟩

def wrap (tag : UInt32) (body : Bytes) : Bytes :=
  toBytes tag ++ (toBytes (UInt32.ofNat (headerSize + body.size)) ++ body)

variable {tag : UInt32} {body : Bytes}

theorem size_wrap : (wrap tag body).size = headerSize + body.size := by
  rw [wrap, Array.size_append, Array.size_append, size_toBytes, size_toBytes]
  exact (Nat.add_assoc 4 4 _).symm

theorem wrap_tag : (wrap tag body).u32At 0 = tag :=
  EndsFrom.whole.u32At

theorem wrap_size (small : (wrap tag body).size < UInt32.size) :
    ((wrap tag body).u32At 4).toNat = (wrap tag body).size := by
  have head : (wrap tag body).EndsFrom 0 (wrap tag body) := .whole
  have declared : (wrap tag body).u32At 4 = UInt32.ofNat (headerSize + body.size) :=
    head.behind.u32At
  have size : (wrap tag body).size = headerSize + body.size := size_wrap
  rw [declared, ← size, UInt32.toNat_ofNat_of_lt' small]

theorem wrap_body : (wrap tag body).EndsFrom headerSize body := by
  have head : (wrap tag body).EndsFrom 0 (wrap tag body) := .whole
  exact head.behind.behind

end Record

namespace Cursor

/-- A record that stands first behind a cursor is read, whether it decodes or not. -/
theorem readRecord_wrap {c : Cursor} {tag : UInt32} {body rest : Bytes}
    (small : (Record.wrap tag body).size < UInt32.size)
    (placed : c.ahead = Record.wrap tag body ++ rest) :
    c.readRecord =
      match Record.decode tag (Record.wrap tag body) with
      | .ok record => .ok (record, c.advance (Record.wrap tag body).size)
      | .error fault => .error (.malformedRecord c.absolutePosition tag fault) := by
  have minimal : Record.headerSize ≤ (Record.wrap tag body).size := by
    rw [Record.size_wrap]
    omega
  have filled : 0 < (Record.wrap tag body).size := by
    unfold Record.headerSize at minimal
    omega
  obtain ⟨room, first, -⟩ := split_ahead filled placed
  have declared : c.recordSize = (Record.wrap tag body).size := by
    rw [← u32At_size minimal, first, Record.wrap_size small]
  have tagged : c.recordTag = tag := by
    rw [← u32At_tag minimal, first, Record.wrap_tag]
  rw [readRecord_of_fits declared minimal room, first, Record.decodeWhole, Record.wrap_tag]
  cases Record.decode tag (Record.wrap tag body) with
  | ok record =>
    dsimp only [frame]
    rw [declared]
  | error fault =>
    dsimp only [frame]
    rw [tagged]

end Cursor

end Metafile
