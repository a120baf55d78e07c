import Metafile.Proofs.CursorInPlace
import Metafile.Proofs.Sections

/-! # Arrays and their values

Reading an array comes to reading its values one after the other, when there are enough bytes for
all of them. When there are not, the values would be read up to the last whole one, and the array
not at all. -/
namespace Metafile

namespace Cursor

variable {α : Type} [FixedLayout α] {c : Cursor} {count : Nat}

def behind (α : Type) [FixedLayout α] (c : Cursor) (count : Nat) : Cursor :=
  { c with pos := c.pos + count * FixedLayout.width α }

/-- How many values can be read before the bytes run out. -/
def wholeValues (α : Type) [FixedLayout α] (c : Cursor) : Nat :=
  c.remaining / FixedLayout.width α

theorem remaining_behind : (c.behind α count).remaining =
    c.remaining - count * FixedLayout.width α :=
  Nat.sub_add_eq ..

theorem wholeValues_room : c.wholeValues α * FixedLayout.width α ≤ c.remaining :=
  Nat.div_mul_le_self _ _

theorem wholeValues_lt (short : c.remaining < count * FixedLayout.width α) :
    c.wholeValues α < count :=
  Nat.div_lt_of_lt_mul (Nat.mul_comm count _ ▸ short)

theorem remaining_behind_wholeValues :
    (c.behind α (c.wholeValues α)).remaining < FixedLayout.width α := by
  have rest : c.remaining - c.remaining / FixedLayout.width α * FixedLayout.width α =
      c.remaining % FixedLayout.width α := Nat.sub_eq_of_eq_add (Nat.mod_add_div' _ _).symm
  rw [remaining_behind, wholeValues, rest]
  exact Nat.mod_lt _ FixedLayout.width_pos

theorem readArray_eq (memory : c.remaining < UInt64.size) (count : UInt64) :
    c.readArray α count =
      if count.toNat * FixedLayout.width α ≤ c.remaining then
        .ok (c.data.valuesAt α c.pos count.toNat, c.behind α count.toNat)
      else .error (c.unexpectedEnd (min (count.toNat * FixedLayout.width α) (UInt64.size - 1))) := by
  by_cases huge : UInt64.size ≤ count.toNat * FixedLayout.width α
  · rw [readArray_of_huge huge, if_neg (by omega), Nat.min_eq_right (by omega)]
  have word := Nat.not_le.mp huge
  by_cases room : count.toNat * FixedLayout.width α ≤ c.remaining
  · rw [readArray_of_le word room, if_pos room]
    rfl
  · rw [readArray_of_lt word (Nat.not_le.mp room), if_neg room, Nat.min_eq_left (by omega)]

end Cursor

namespace CursorUpdate

variable {α : Type} [FixedLayout α] {c : Cursor}

theorem readEach_add (first second : Nat) :
    readEach α (first + second) = do
      let front ← readEach α first
      let rest ← readEach α second
      return front ++ rest := by
  induction first with
  | zero => simp [readEach]
  | succ first ih =>
    rw [Nat.succ_add, readEach, ih, readEach]
    simp

theorem outcome_readEach_of_le {count : Nat} (room : count * FixedLayout.width α ≤ c.remaining) :
    (readEach α count).outcome c = (.ok (c.data.valuesAt α c.pos count), c.behind α count) :=
  outcome_readEach room

theorem outcome_readEach_of_lt {count : Nat} (short : c.remaining < count * FixedLayout.width α) :
    (readEach α count).outcome c =
      (.error ((c.behind α (c.wholeValues α)).unexpectedEnd (FixedLayout.width α)),
        c.behind α (c.wholeValues α)) := by
  obtain ⟨more, rfl⟩ := Nat.exists_eq_add_of_lt (Cursor.wholeValues_lt short)
  rw [Nat.add_assoc, readEach_add, InPlace.outcome_bind,
    outcome_readEach_of_le Cursor.wholeValues_room]
  dsimp only
  rw [InPlace.outcome_bind, readEach, InPlace.outcome_bind, outcome_read,
    Cursor.read_of_lt Cursor.remaining_behind_wholeValues]
  rfl

/-- With room for all of them, an array is read as its values are. -/
theorem outcome_readArray_of_le {count : UInt64} (memory : c.remaining < UInt64.size)
    (room : count.toNat * FixedLayout.width α ≤ c.remaining) :
    (readArray α count).outcome c = (readEach α count.toNat).outcome c := by
  rw [outcome_readArray, outcome_readEach_of_le room, Cursor.readArray_eq memory, if_pos room]
  rfl

def readBoth (α : Type) [FixedLayout α] (first second : UInt64) : CursorUpdate (List α) := do
  let front ← readArray α first
  let rest ← readArray α second
  return front ++ rest

section

variable {first second count : UInt64} (memory : c.remaining < UInt64.size)
  (total : first.toNat + second.toNat = count.toNat)

include memory

theorem remaining_behind_lt (n : Nat) : (c.behind α n).remaining < UInt64.size := by
  rw [Cursor.remaining_behind]
  exact Nat.lt_of_le_of_lt (Nat.sub_le _ _) memory

include total

theorem outcome_readBoth_of_le (room : count.toNat * FixedLayout.width α ≤ c.remaining) :
    (readBoth α first second).outcome c = (readArray α count).outcome c := by
  rw [outcome_readArray_of_le memory room]
  rw [← total, Nat.add_mul] at room
  have front_room : first.toNat * FixedLayout.width α ≤ c.remaining := by omega
  have rest_room : second.toNat * FixedLayout.width α ≤ (c.behind α first.toNat).remaining := by
    rw [Cursor.remaining_behind]
    omega
  rw [← total, readEach_add, readBoth, InPlace.outcome_bind, InPlace.outcome_bind,
    outcome_readArray_of_le memory front_room, outcome_readEach_of_le front_room]
  dsimp only
  rw [InPlace.outcome_bind, InPlace.outcome_bind,
    outcome_readArray_of_le (remaining_behind_lt memory _) rest_room]

theorem outcome_readBoth_of_lt (short : c.remaining < count.toNat * FixedLayout.width α) :
    ∃ e left, (readBoth α first second).outcome c = (.error e, left) := by
  rw [← total, Nat.add_mul] at short
  rw [readBoth, InPlace.outcome_bind]
  by_cases front_room : first.toNat * FixedLayout.width α ≤ c.remaining
  · have rest_short :
        ¬ second.toNat * FixedLayout.width α ≤ (c.behind α first.toNat).remaining := by
      rw [Cursor.remaining_behind]
      omega
    rw [outcome_readArray_of_le memory front_room, outcome_readEach_of_le front_room]
    dsimp only
    rw [InPlace.outcome_bind, outcome_readArray,
      Cursor.readArray_eq (remaining_behind_lt memory _), if_neg rest_short]
    exact ⟨_, _, rfl⟩
  · rw [outcome_readArray, Cursor.readArray_eq memory, if_neg front_room]
    exact ⟨_, _, rfl⟩

end

/-- An array is read when there are bytes for all of its values, as so many reads in a row would
read it, and otherwise not at all, where the reads would come to the last whole value. Two arrays
in a row are read when the one of all their values is, and are then that one. -/
theorem readArray_allOrNone (memory : c.remaining < UInt64.size) (count : UInt64) :
    (∀ d : Cursor, (read α).outcome d = InPlace.keep d (d.read α)) ∧
    (readArray α count).outcome c = InPlace.keep c (c.readArray α count) ∧
    (count.toNat * FixedLayout.width α ≤ c.remaining → ∃ values, values.length = count.toNat ∧
      c.readArray α count = .ok (values, c.behind α count.toNat) ∧
      (readEach α count.toNat).outcome c = (.ok values, c.behind α count.toNat)) ∧
    (c.remaining < count.toNat * FixedLayout.width α →
      c.readArray α count = .error (c.unexpectedEnd
        (min (count.toNat * FixedLayout.width α) (UInt64.size - 1))) ∧
      c.wholeValues α < count.toNat ∧
      (readEach α count.toNat).outcome c =
        (.error ((c.behind α (c.wholeValues α)).unexpectedEnd (FixedLayout.width α)),
          c.behind α (c.wholeValues α))) ∧
    ∀ first second : UInt64, first.toNat + second.toNat = count.toNat →
      (count.toNat * FixedLayout.width α ≤ c.remaining →
        (readBoth α first second).outcome c = (readArray α count).outcome c) ∧
      (c.remaining < count.toNat * FixedLayout.width α →
        ∃ e left, (readBoth α first second).outcome c = (.error e, left)) := by
  refine ⟨outcome_read α, outcome_readArray c count, fun room => ?_, fun short => ?_,
    fun first second total =>
      ⟨outcome_readBoth_of_le memory total, outcome_readBoth_of_lt memory total⟩⟩
  · refine ⟨_, Bytes.length_valuesAt, ?_, outcome_readEach_of_le room⟩
    rw [Cursor.readArray_eq memory, if_pos room]
  · refine ⟨?_, Cursor.wholeValues_lt short, outcome_readEach_of_lt short⟩
    rw [Cursor.readArray_eq memory, if_neg (Nat.not_le.mpr short)]

/-- Two numbers of two bytes, and one byte more, behind one that has been read. -/
def oddByte : Cursor := ⟨#[9, 1, 0, 2, 0, 3], 1, 40⟩

theorem readArray_allOrNone_oddByte :
    oddByte.remaining < UInt64.size ∧
    (readArray UInt16 2).outcome oddByte = (.ok [1, 2], oddByte.behind UInt16 2) ∧
    (readEach UInt16 2).outcome oddByte = (.ok [1, 2], oddByte.behind UInt16 2) ∧
    (readBoth UInt16 1 1).outcome oddByte = (.ok [1, 2], oddByte.behind UInt16 2) ∧
    (readArray UInt16 0x8000000000000000).outcome oddByte =
      (.error (.unexpectedEnd 41 0xFFFFFFFFFFFFFFFF 5), oddByte) ∧
    (readEach UInt16 0x8000000000000000).outcome oddByte =
      (.error (.unexpectedEnd 45 2 1), oddByte.behind UInt16 2) := by
  have memory : oddByte.remaining < UInt64.size := by decide
  obtain ⟨-, inPlace, enough, -, both⟩ := readArray_allOrNone (α := UInt16) memory 2
  obtain ⟨values, -, read, each⟩ := enough (by decide)
  obtain ⟨same, -⟩ := both 1 1 rfl
  have stored : oddByte.readArray UInt16 2 = .ok ([1, 2], oddByte.behind UInt16 2) := rfl
  cases (Prod.mk.inj (Except.ok.inj (read.symm.trans stored))).1
  rw [read] at inPlace
  obtain ⟨-, inPlace', -, few, -⟩ := readArray_allOrNone (α := UInt16) memory 0x8000000000000000
  obtain ⟨refused, -, stopped⟩ := few (by decide)
  rw [refused] at inPlace'
  exact ⟨memory, inPlace, each, (same (by decide)).trans inPlace, inPlace', stopped⟩

end CursorUpdate

end Metafile
