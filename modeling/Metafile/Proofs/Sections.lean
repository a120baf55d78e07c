import Metafile.Proofs.Framing
import Metafile.Proofs.Success

/-! # Sections by their bounds

Whether a record decodes is a matter of the bounds of its sections. A section is read exactly when it
starts behind the head of the record and ends inside it, and what is read are its own bytes. -/
namespace Metafile

theorem bind_eq_ok_iff {ε α β : Type} {x : Except ε α} {f : α → Except ε β} {b : β} :
    x >>= f = .ok b ↔ ∃ a, x = .ok a ∧ f a = .ok b := by
  constructor
  · exact of_bind_ok
  · rintro ⟨a, rfl, h⟩
    exact h

theorem map_eq_ok_iff {ε α β : Type} {x : Except ε α} {f : α → β} {b : β} :
    f <$> x = .ok b ↔ ∃ a, x = .ok a ∧ f a = b := by
  constructor
  · exact of_map_ok
  · rintro ⟨a, rfl, rfl⟩
    rfl

theorem refuse_eq_ok_iff {ε α β : Type} {c : Prop} [Decidable c] {fault : ε}
    {unseen : α → Except ε β} {outcome : Except ε β} {b : β} :
    (if c then throw fault >>= unseen else outcome) = .ok b ↔ ¬ c ∧ outcome = .ok b := by
  by_cases h : c
  · rw [if_pos h]
    constructor
    · intro impossible
      cases impossible
    · rintro ⟨passed, -⟩
      exact absurd h passed
  · rw [if_neg h]
    simp [h]

namespace Bytes

variable {b : Bytes} {start i n : Nat} {α : Type} [FixedLayout α]

theorem valuesAt_eq_of_slice {b' : Bytes} {start' : Nat}
    (same : b.slice start (n * FixedLayout.width α) = b'.slice start' (n * FixedLayout.width α)) :
    b.valuesAt α start n = b'.valuesAt α start' n := by
  have whole (b : Bytes) (start : Nat) :
      (b.slice start (n * FixedLayout.width α)).valuesAt α 0 n = b.valuesAt α start n := by
    rw [valuesAt_slice (by omega), Nat.add_zero]
  rw [← whole b, same, whole b']

@[simp] theorem length_valuesAt : (b.valuesAt α start n).length = n := by
  simp [valuesAt]

theorem getElem?_valuesAt (h : i < n) :
    (b.valuesAt α start n)[i]? = some (b.valueAt α (start + i * FixedLayout.width α)) := by
  simp [valuesAt, h]

theorem valueAt_u16 : b.valueAt UInt16 i = b.u16At i := by
  change (b.slice i 2).u16At 0 = _
  rw [u16At_slice (by omega), Nat.add_zero]

theorem valueAt_i32 : b.valueAt Int32 i = b.i32At i := by
  change (b.slice i 4).i32At 0 = _
  rw [i32At_slice (by omega), Nat.add_zero]

end Bytes

namespace Bytes

/-- Two runs of bytes hold the same from one position to another. -/
def AgreeOn (w w' : Bytes) (start stop : Nat) : Prop :=
  w.slice start (stop - start) = w'.slice start (stop - start)

instance (w w' : Bytes) (start stop : Nat) : Decidable (AgreeOn w w' start stop) :=
  inferInstanceAs (Decidable (_ = _))

namespace AgreeOn

variable {w w' : Bytes} {start stop i : Nat} (same : AgreeOn w w' start stop)
include same

theorem slice {n : Nat} (inside : start ≤ i ∧ i + n ≤ stop) : w.slice i n = w'.slice i n := by
  have part (b : Bytes) : (b.slice start (stop - start)).slice (i - start) n = b.slice i n := by
    rw [slice_slice (by omega), Nat.add_sub_cancel' inside.1]
  rw [← part w, same, part w']

theorem byteAt (inside : start ≤ i ∧ i + 1 ≤ stop) : w.byteAt i = w'.byteAt i := by
  have part (b : Bytes) : (b.slice i 1).byteAt 0 = b.byteAt i := byteAt_slice (by decide)
  rw [← part w, same.slice inside, part w']

theorem u16At (inside : start ≤ i ∧ i + 2 ≤ stop) : w.u16At i = w'.u16At i := by
  have part (b : Bytes) : (b.slice i 2).u16At 0 = b.u16At i := u16At_slice (by decide)
  rw [← part w, same.slice inside, part w']

theorem u32At (inside : start ≤ i ∧ i + 4 ≤ stop) : w.u32At i = w'.u32At i := by
  have part (b : Bytes) : (b.slice i 4).u32At 0 = b.u32At i := u32At_slice (by decide)
  rw [← part w, same.slice inside, part w']

theorem i32At (inside : start ≤ i ∧ i + 4 ≤ stop) : w.i32At i = w'.i32At i := by
  rw [Bytes.i32At, same.u32At inside, Bytes.i32At]

theorem f32At (inside : start ≤ i ∧ i + 4 ≤ stop) : w.f32At i = w'.f32At i := by
  rw [Bytes.f32At, same.u32At inside, Bytes.f32At]

theorem valueAt {α : Type} [FixedLayout α] (inside : start ≤ i ∧ i + FixedLayout.width α ≤ stop) :
    w.valueAt α i = w'.valueAt α i := by
  rw [Bytes.valueAt, same.slice inside, Bytes.valueAt]

theorem valuesAt {α : Type} [FixedLayout α] {n : Nat}
    (inside : start ≤ i ∧ i + n * FixedLayout.width α ≤ stop) :
    w.valuesAt α i n = w'.valuesAt α i n :=
  valuesAt_eq_of_slice (same.slice inside)

end AgreeOn

end Bytes

namespace Record

def SectionFits (size offset length : Nat) : Prop :=
  headerSize ≤ offset ∧ offset + length ≤ size

instance (size offset length : Nat) : Decidable (SectionFits size offset length) :=
  inferInstanceAs (Decidable (_ ∧ _))

variable {w : Bytes}

theorem needFixed_eq_ok_iff {needed : Nat} {done : Unit} :
    needFixed w needed = .ok done ↔ needed ≤ w.size := by
  unfold needFixed
  split <;> simp <;> omega

theorem checkOffset_eq_ok_iff {offset : Nat} {done : Unit} :
    checkOffset w offset = .ok done ↔ headerSize ≤ offset ∧ offset ≤ w.size := by
  unfold checkOffset
  split <;> simp <;> omega

theorem arrayFrom_eq_ok_iff {α : Type} [FixedLayout α] {start count : Nat} {values : List α}
    (inside : start ≤ w.size) :
    arrayFrom α w start count = .ok values ↔
      start + count * FixedLayout.width α ≤ w.size ∧ w.valuesAt α start count = values := by
  unfold arrayFrom
  split
  · simp
    omega
  · simp
    omega

theorem arrayAt_eq_ok_iff {α : Type} [FixedLayout α] {offset count : UInt32} {values : List α} :
    arrayAt α w offset count = .ok values ↔
      SectionFits w.size offset.toNat (count.toNat * FixedLayout.width α) ∧
        w.valuesAt α offset.toNat count.toNat = values := by
  rw [arrayAt, bind_eq_ok_iff, SectionFits]
  constructor
  · rintro ⟨_, placed, read⟩
    obtain ⟨behind, inside⟩ := checkOffset_eq_ok_iff.mp placed
    obtain ⟨room, same⟩ := (arrayFrom_eq_ok_iff inside).mp read
    exact ⟨⟨behind, room⟩, same⟩
  · rintro ⟨⟨behind, room⟩, same⟩
    have inside : offset.toNat ≤ w.size := by omega
    exact ⟨(), checkOffset_eq_ok_iff.mpr ⟨behind, inside⟩,
      (arrayFrom_eq_ok_iff inside).mpr ⟨room, same⟩⟩

theorem bytesAt_eq_ok_iff {offset length : UInt32} {bytes : Bytes} :
    bytesAt w offset length = .ok bytes ↔
      SectionFits w.size offset.toNat length.toNat ∧
        w.slice offset.toNat length.toNat = bytes := by
  rw [bytesAt, bind_eq_ok_iff, SectionFits]
  constructor
  · rintro ⟨_, placed, read⟩
    obtain ⟨behind, inside⟩ := checkOffset_eq_ok_iff.mp placed
    split at read
    · cases read
    · exact ⟨⟨behind, by omega⟩, Except.ok.inj read⟩
  · rintro ⟨⟨behind, room⟩, rfl⟩
    refine ⟨(), checkOffset_eq_ok_iff.mpr ⟨behind, by omega⟩, ?_⟩
    rw [if_neg (by omega)]

end Record

namespace Cursor

def recordBytes (c : Cursor) : Bytes := c.data.slice c.pos c.recordSize

theorem recordBytes_ofBytes {bytes : Bytes} (declared : (ofBytes bytes).recordSize = bytes.size) :
    (ofBytes bytes).recordBytes = bytes := by
  rw [recordBytes, declared]
  exact Bytes.slice_self bytes

/-- A record of some type starts at a cursor. It is all there, its fixed fields included. -/
structure Holds (c : Cursor) (type : RecordType) (needed : Nat) : Prop where
  tagged : c.recordTag = type.tag
  fixed : needed ≤ c.recordSize
  room : c.recordSize ≤ c.remaining

namespace Holds

variable {c : Cursor} {type : RecordType} {needed : Nat}

theorem size_recordBytes (h : c.Holds type needed)
    (head : Record.headerSize ≤ needed := by decide) :
    c.recordBytes.size = c.recordSize := by
  have fixed := h.fixed
  have room := h.room
  unfold Record.headerSize at head
  unfold remaining at room
  exact Bytes.size_slice (by omega)

theorem size_lt (h : c.Holds type needed)
    (head : Record.headerSize ≤ needed := by decide) :
    c.recordBytes.size < UInt32.size := by
  rw [h.size_recordBytes head]
  exact UInt32.toNat_lt _

theorem readRecord_eq_ok_iff (h : c.Holds type needed) {record : Record} {next : Cursor}
    (head : Record.headerSize ≤ needed := by decide) :
    c.readRecord = .ok (record, next) ↔
      Record.decodeAs c.recordBytes type = .ok record ∧ next = c.advance c.recordSize := by
  have decodes : Record.decodeWhole c.recordBytes = Record.decodeAs c.recordBytes type := by
    rw [Record.decodeWhole, recordBytes, u32At_tag (Nat.le_trans head h.fixed), h.tagged,
      Record.decode, RecordType.ofTag?_tag]
  rw [readRecord_of_fits rfl (Nat.le_trans head h.fixed) h.room]
  change c.frame (Record.decodeWhole c.recordBytes) = _ ↔ _
  rw [decodes]
  cases Record.decodeAs c.recordBytes type with
  | error fault => simp [frame]
  | ok decoded => simp [frame, eq_comm]

end Holds

end Cursor

end Metafile
