import Metafile.Proofs.InPlace
import Metafile.Proofs.Window

/-! # Cursors in place

A reader moves one cursor along, value by value. An array is read in a loop behind a check of its
total size, so a cursor that has begun to read one never stops halfway. -/
namespace Metafile

abbrev CursorUpdate := InPlace Cursor

theorem Bytes.valuesAt_succ {α : Type} [FixedLayout α] (b : Bytes) (start count : Nat) :
    b.valuesAt α start (count + 1) =
      b.valueAt α start :: b.valuesAt α (start + FixedLayout.width α) count := by
  unfold valuesAt
  rw [List.range_succ_eq_map, List.map_cons, List.map_map, Nat.zero_mul, Nat.add_zero]
  refine congrArg _ (List.map_congr_left fun i _ => ?_)
  rw [Function.comp_apply, Nat.succ_mul, Nat.add_assoc, Nat.add_comm (i * _)]

namespace Cursor

variable {α : Type} [FixedLayout α] {c : Cursor}

theorem readBytes_of_lt {count : Nat} (short : c.remaining < count) :
    c.readBytes count = .error (c.unexpectedEnd count) := if_pos short

theorem readBytes_of_le {count : Nat} (room : count ≤ c.remaining) :
    c.readBytes count = .ok (c.data.slice c.pos count, { c with pos := c.pos + count }) :=
  if_neg (Nat.not_lt.mpr room)

theorem read_of_lt (short : c.remaining < FixedLayout.width α) :
    c.read α = .error (c.unexpectedEnd (FixedLayout.width α)) := by
  rw [read, readBytes_of_lt short]
  rfl

theorem read_of_le (room : FixedLayout.width α ≤ c.remaining) :
    c.read α = .ok (c.data.valueAt α c.pos, { c with pos := c.pos + FixedLayout.width α }) := by
  rw [read, readBytes_of_le room]
  rfl

theorem readArray_of_huge {count : UInt64}
    (huge : UInt64.size ≤ count.toNat * FixedLayout.width α) :
    c.readArray α count = .error (c.unexpectedEnd (UInt64.size - 1)) := if_pos huge

theorem readArray_of_lt {count : UInt64} (word : count.toNat * FixedLayout.width α < UInt64.size)
    (short : c.remaining < count.toNat * FixedLayout.width α) :
    c.readArray α count = .error (c.unexpectedEnd (count.toNat * FixedLayout.width α)) :=
  (if_neg (Nat.not_le.mpr word)).trans (if_pos short)

theorem readArray_of_le {count : UInt64} (word : count.toNat * FixedLayout.width α < UInt64.size)
    (room : count.toNat * FixedLayout.width α ≤ c.remaining) :
    c.readArray α count = .ok (c.data.valuesAt α c.pos count.toNat,
      { c with pos := c.pos + count.toNat * FixedLayout.width α }) :=
  (if_neg (Nat.not_le.mpr word)).trans (if_neg (Nat.not_lt.mpr room))

end Cursor

namespace CursorUpdate

def readBytes (count : Nat) : CursorUpdate Bytes := do
  let c ← get
  if c.remaining < count then throw (c.unexpectedEnd count)
  set { c with pos := c.pos + count }
  return c.data.slice c.pos count

/-- The next value. Bytes of another width than asked for would be refused when the cursor has
already moved behind them. -/
def read (α : Type) [FixedLayout α] : CursorUpdate α := do
  let bytes ← readBytes (FixedLayout.width α)
  if bytes.size ≠ FixedLayout.width α then
    throw (.unexpectedEnd ((← get).absolutePosition - FixedLayout.width α) (FixedLayout.width α)
      bytes.size)
  return FixedLayout.ofBytes bytes

def readEach (α : Type) [FixedLayout α] : Nat → CursorUpdate (List α)
  | 0 => return []
  | count + 1 => do
    let first ← read α
    let rest ← readEach α count
    return first :: rest

def readArray (α : Type) [FixedLayout α] (count : UInt64) : CursorUpdate (List α) := do
  let c ← get
  let total := count.toNat * FixedLayout.width α
  if UInt64.size ≤ total then throw (c.unexpectedEnd (UInt64.size - 1))
  if c.remaining < total then throw (c.unexpectedEnd total)
  readEach α count.toNat

def seekRelative (delta : Int64) : CursorUpdate Unit := do
  let c ← get
  let target := Int64.ofNat c.pos + delta
  if target < 0 ∨ c.data.size < target.toInt.toNat then
    throw (.invalidOffset c.absolutePosition delta (c.base + c.data.size))
  set { c with pos := target.toInt.toNat }

def seekTo (position : UInt64) : CursorUpdate Unit := do
  seekRelative (position.toInt64 - Int64.ofNat (← get).pos)

variable {α : Type} [FixedLayout α] {c : Cursor}

theorem outcome_readBytes (c : Cursor) (count : Nat) :
    (readBytes count).outcome c = InPlace.keep c (c.readBytes count) := by
  rw [readBytes, InPlace.outcome_get]
  by_cases short : c.remaining < count
  · rw [if_pos short, Cursor.readBytes_of_lt short]
    rfl
  · rw [if_neg short, Cursor.readBytes_of_le (Nat.not_lt.mp short)]
    rfl

/-- As many bytes come as are asked for, so none are refused behind the cursor. -/
theorem outcome_read (α : Type) [FixedLayout α] (c : Cursor) :
    (read α).outcome c = InPlace.keep c (c.read α) := by
  rw [read, InPlace.outcome_bind, outcome_readBytes]
  by_cases short : c.remaining < FixedLayout.width α
  · rw [Cursor.readBytes_of_lt short, Cursor.read_of_lt short]
    rfl
  · have room := Nat.not_lt.mp short
    have some_bytes : 0 < FixedLayout.width α := FixedLayout.width_pos
    have inside : c.pos + FixedLayout.width α ≤ c.data.size := by
      unfold Cursor.remaining at room
      omega
    rw [Cursor.readBytes_of_le room, Cursor.read_of_le room]
    dsimp only [InPlace.keep]
    rw [if_neg (not_not_intro (Bytes.size_slice inside))]
    rfl

theorem outcome_readEach {count : Nat} (room : count * FixedLayout.width α ≤ c.remaining) :
    (readEach α count).outcome c = (.ok (c.data.valuesAt α c.pos count),
      { c with pos := c.pos + count * FixedLayout.width α }) := by
  induction count generalizing c with
  | zero =>
    rw [Nat.zero_mul, Nat.add_zero]
    rfl
  | succ count ih =>
    rw [Nat.succ_mul] at room
    have rest_room : count * FixedLayout.width α ≤
        ({ c with pos := c.pos + FixedLayout.width α } : Cursor).remaining := by
      unfold Cursor.remaining at room ⊢
      dsimp only
      omega
    rw [readEach, InPlace.outcome_bind, outcome_read, Cursor.read_of_le (by omega)]
    dsimp only [InPlace.keep]
    rw [InPlace.outcome_bind, ih rest_room]
    dsimp only
    rw [Bytes.valuesAt_succ, Nat.succ_mul, Nat.add_assoc, Nat.add_comm (FixedLayout.width α)]
    rfl

theorem outcome_readArray (c : Cursor) (count : UInt64) :
    (readArray α count).outcome c = InPlace.keep c (c.readArray α count) := by
  rw [readArray, InPlace.outcome_get]
  by_cases huge : UInt64.size ≤ count.toNat * FixedLayout.width α
  · rw [if_pos huge, Cursor.readArray_of_huge huge]
    rfl
  have word := Nat.not_le.mp huge
  by_cases short : c.remaining < count.toNat * FixedLayout.width α
  · rw [if_neg huge, if_pos short, Cursor.readArray_of_lt word short]
    rfl
  · have room := Nat.not_lt.mp short
    rw [if_neg huge, if_neg short, Cursor.readArray_of_le word room]
    exact outcome_readEach room

theorem outcome_seekRelative (c : Cursor) (delta : Int64) :
    (seekRelative delta).outcome c =
      InPlace.keep c ((c.seekRelative delta).map fun next => ((), next)) := by
  rw [seekRelative, InPlace.outcome_get, Cursor.seekRelative]
  dsimp only
  split <;> rfl

theorem outcome_seekTo (c : Cursor) (position : UInt64) :
    (seekTo position).outcome c =
      InPlace.keep c ((c.seekTo position).map fun next => ((), next)) := by
  rw [seekTo, InPlace.outcome_get]
  exact outcome_seekRelative c _

end CursorUpdate

end Metafile
