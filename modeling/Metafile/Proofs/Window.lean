import Metafile.Record.Stream

/-! # Windows

However deep a cursor's window is nested, its bytes are those of the outermost buffer from its base
on. Slices of slices are slices, so what is read behind a cursor is a slice of the outermost buffer
at the absolute position. -/
namespace Metafile

namespace Bytes

theorem u16At_slice {b : Bytes} {start count i : Nat} (hi : i + 2 ≤ count) :
    (b.slice start count).u16At i = b.u16At (start + i) := by
  simp only [u16At, Nat.add_assoc]
  rw [byteAt_slice (by omega), byteAt_slice (by omega)]

theorem u32At_slice {b : Bytes} {start count i : Nat} (hi : i + 4 ≤ count) :
    (b.slice start count).u32At i = b.u32At (start + i) := by
  simp only [u32At, Nat.add_assoc]
  rw [u16At_slice (by omega), u16At_slice (by omega)]

theorem slice_slice {b : Bytes} {start count i n : Nat} (h : i + n ≤ count) :
    (b.slice start count).slice i n = b.slice (start + i) n := by
  simp only [slice, Array.extract_extract]
  congr 1
  omega

theorem i32At_slice {b : Bytes} {start count i : Nat} (h : i + 4 ≤ count) :
    (b.slice start count).i32At i = b.i32At (start + i) := by
  rw [i32At, u32At_slice h, i32At]

theorem f32At_slice {b : Bytes} {start count i : Nat} (h : i + 4 ≤ count) :
    (b.slice start count).f32At i = b.f32At (start + i) := by
  rw [f32At, u32At_slice h, f32At]

theorem valueAt_slice {α : Type} [FixedLayout α] {b : Bytes} {start count i : Nat}
    (h : i + FixedLayout.width α ≤ count) :
    (b.slice start count).valueAt α i = b.valueAt α (start + i) := by
  rw [valueAt, slice_slice h, valueAt]

theorem valuesAt_slice {α : Type} [FixedLayout α] {b : Bytes} {start count i n : Nat}
    (h : i + n * FixedLayout.width α ≤ count) :
    (b.slice start count).valuesAt α i n = b.valuesAt α (start + i) n := by
  unfold valuesAt
  refine List.map_congr_left fun k member => ?_
  have inside : (k + 1) * FixedLayout.width α ≤ n * FixedLayout.width α :=
    Nat.mul_le_mul_right _ (List.mem_range.mp member)
  rw [Nat.succ_mul] at inside
  rw [valueAt_slice (by omega), Nat.add_assoc]

theorem slice_append_left {a b : Bytes} {i n : Nat} (inside : i + n ≤ a.size) :
    (a ++ b).slice i n = a.slice i n := by
  have none : b.extract (i - a.size) (i + n - a.size) = #[] := by
    simp
    omega
  rw [slice, Array.extract_append, none, Array.append_empty, slice]

theorem slice_append_right {a b : Bytes} {i n : Nat} (behind : a.size ≤ i) :
    (a ++ b).slice i n = b.slice (i - a.size) n := by
  have none : a.extract i (i + n) = #[] := by
    simp
    omega
  rw [slice, Array.extract_append, none, Array.empty_append, slice, Nat.sub_add_comm behind]

@[simp] theorem slice_zero (b : Bytes) (start : Nat) : b.slice start 0 = #[] :=
  Array.extract_empty_of_stop_le_start (Nat.le_refl _)

theorem slice_self (b : Bytes) : b.slice 0 b.size = b := by
  simp [slice]

end Bytes

namespace Cursor

/-- The cursors on a buffer: at any place of the whole, or of a window cut out of the window of
another one. -/
inductive WindowOn (data : Bytes) : Cursor → Prop where
  | whole : WindowOn data (.ofBytes data)
  | moved {c : Cursor} {pos : Nat} : WindowOn data c → pos ≤ c.data.size →
      WindowOn data { c with pos }
  | sub {c window : Cursor} {start count : UInt64} : WindowOn data c →
      c.subCursor start count = .ok window → WindowOn data window

structure Inside (data : Bytes) (c : Cursor) : Prop where
  fits : c.base + c.data.size ≤ data.size
  bytes : c.data = data.slice c.base c.data.size
  pos_le : c.pos ≤ c.data.size

theorem subCursor_of_fits {c : Cursor} {start count : UInt64}
    (room : start.toNat + count.toNat ≤ c.data.size)
    (word : start.toNat + count.toNat < UInt64.size) :
    c.subCursor start count =
      .ok ⟨c.data.slice start.toNat count.toNat, 0, c.base + start.toNat⟩ :=
  if_pos ⟨room, word⟩

theorem subCursor_ok {c window : Cursor} {start count : UInt64}
    (h : c.subCursor start count = .ok window) :
    start.toNat + count.toNat ≤ c.data.size ∧
    window = ⟨c.data.slice start.toNat count.toNat, 0, c.base + start.toNat⟩ := by
  unfold subCursor at h
  split at h
  · rename_i room
    exact ⟨room.1, (Except.ok.inj h).symm⟩
  · cases h

theorem Inside.sub {data : Bytes} {c window : Cursor} {start count : UInt64}
    (hc : c.Inside data) (h : c.subCursor start count = .ok window) : window.Inside data := by
  obtain ⟨room, rfl⟩ := subCursor_ok h
  have size := Bytes.size_slice room
  have fits := hc.fits
  constructor
  · dsimp only
    omega
  · dsimp only
    rw [size]
    calc c.data.slice start.toNat count.toNat
        = (data.slice c.base c.data.size).slice start.toNat count.toNat := by rw [← hc.bytes]
      _ = data.slice (c.base + start.toNat) count.toNat := Bytes.slice_slice room
  · exact Nat.zero_le _

theorem WindowOn.inside {data : Bytes} {c : Cursor} (h : WindowOn data c) : c.Inside data := by
  induction h with
  | whole =>
    constructor
    · exact Nat.le_of_eq (Nat.zero_add _)
    · exact (Bytes.slice_self data).symm
    · exact Nat.zero_le _
  | moved _ room ih => exact ⟨ih.fits, ih.bytes, room⟩
  | sub _ cut ih => exact ih.sub cut

/-- The bytes from a cursor on stand in the outermost buffer at its absolute position. -/
theorem Inside.slice_eq {data : Bytes} {c : Cursor} {n : Nat} (hc : c.Inside data)
    (room : n ≤ c.remaining) : c.data.slice c.pos n = data.slice c.absolutePosition n := by
  have pos_le := hc.pos_le
  simp only [remaining] at room
  calc c.data.slice c.pos n
      = (data.slice c.base c.data.size).slice c.pos n := by rw [← hc.bytes]
    _ = data.slice c.absolutePosition n := Bytes.slice_slice (by omega)

end Cursor

end Metafile
