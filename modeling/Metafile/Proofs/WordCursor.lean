import Metafile.Proofs.CursorPath
import Metafile.Proofs.WindowReading

/-! # Cursors in words

A machine keeps a cursor's position in a word, and forms sums and differences of positions that may
wrap around. In a buffer that takes up less than half of what a word can count, none of them wraps
to a place inside the buffer, so moves and windows are exactly those of the integers. -/
namespace Metafile

/-- A cursor with its position in a word. The base only counts in what errors report. -/
structure WordCursor where
  data : Bytes
  pos : UInt64
  base : Nat
deriving DecidableEq, Repr

namespace WordCursor

def length (w : WordCursor) : UInt64 := UInt64.ofNat w.data.size

def absolutePosition (w : WordCursor) : Nat := w.base + w.pos.toNat

def seekRelative (delta : Int64) : InPlace WordCursor Unit := do
  let w ← get
  let target := w.pos.toInt64 + delta
  if target < 0 ∨ w.length < target.toUInt64 then
    throw (.invalidOffset w.absolutePosition delta (w.base + w.data.size))
  set { w with pos := target.toUInt64 }

def seekTo (position : UInt64) : InPlace WordCursor Unit := do
  seekRelative (position.toInt64 - (← get).pos.toInt64)

/-- The sum of two words, or none when it wraps around: it is then smaller than either. -/
def sum? (a b : UInt64) : Option UInt64 := if a + b < a then none else some (a + b)

def monus (a b : UInt64) : UInt64 := if a < b then 0 else a - b

def subCursor (start count : UInt64) : InPlace WordCursor WordCursor := do
  let w ← get
  let refusal : Error := .unexpectedEnd (UInt64.ofNat w.base + start).toNat count.toNat
    (monus w.length start).toNat
  match sum? start count with
  | some stop =>
    if stop ≤ w.length then
      return ⟨w.data.extract start.toNat stop.toNat, 0, w.base + start.toNat⟩
    else throw refusal
  | none => throw refusal

theorem sum?_of_lt {a b : UInt64} (fits : a.toNat + b.toNat < UInt64.size) :
    sum? a b = some (a + b) ∧ (a + b).toNat = a.toNat + b.toNat := by
  have exact : (a + b).toNat = a.toNat + b.toNat := by
    rw [UInt64.toNat_add]
    exact Nat.mod_eq_of_lt fits
  refine ⟨if_neg ?_, exact⟩
  rw [UInt64.lt_iff_toNat_lt, exact]
  omega

theorem sum?_of_le {a b : UInt64} (wraps : UInt64.size ≤ a.toNat + b.toNat) :
    sum? a b = none := by
  have below : a.toNat < UInt64.size := a.toNat_lt
  have below' : b.toNat < UInt64.size := b.toNat_lt
  refine if_pos ?_
  rw [UInt64.lt_iff_toNat_lt, UInt64.toNat_add]
  change (a.toNat + b.toNat) % UInt64.size < a.toNat
  rw [Nat.mod_eq_sub_mod wraps, Nat.mod_eq_of_lt (by omega)]
  omega

theorem toNat_monus (a b : UInt64) : (monus a b).toNat = a.toNat - b.toNat := by
  by_cases less : a < b
  · rw [monus, if_pos less,
      Nat.sub_eq_zero_of_le (Nat.le_of_lt (UInt64.lt_iff_toNat_lt.mp less))]
    rfl
  · rw [monus, if_neg less]
    exact UInt64.toNat_sub_of_le _ _ (UInt64.not_lt.mp less)

end WordCursor

theorem toNat_toUInt64 {x : Int64} (forward : ¬ x < 0) : x.toUInt64.toNat = x.toInt.toNat := by
  have value : x.toInt = if 2 * x.toUInt64.toNat < 2 ^ 64 then (x.toUInt64.toNat : Int)
      else x.toUInt64.toNat - (2 ^ 64 : Nat) := BitVec.toInt_eq_toNat_cond x.toBitVec
  have below := x.toUInt64.toNat_lt
  rw [Int64.lt_iff_toInt_lt] at forward
  change ¬ x.toInt < 0 at forward
  split at value <;> omega

theorem Bytes.Addressable.lt_size {b : Bytes} (memory : b.Addressable) : b.size < UInt64.size :=
  Nat.lt_trans memory (by decide)

namespace Cursor

def inWords (c : Cursor) : WordCursor := ⟨c.data, UInt64.ofNat c.pos, c.base⟩

variable {c : Cursor}

theorem seekRelative_eq (memory : c.data.Addressable) (inside : c.pos ≤ c.data.size)
    (delta : Int64) :
    c.seekRelative delta =
      if 0 ≤ c.pos + delta.toInt ∧ c.pos + delta.toInt ≤ c.data.size then
        .ok { c with pos := (c.pos + delta.toInt).toNat }
      else .error (.invalidOffset c.absolutePosition delta (c.base + c.data.size)) := by
  have small : c.pos < 0x8000000000000000 := Nat.lt_of_le_of_lt inside memory
  rcases c.seekRelative_cases delta with ⟨pos, within, landed, target⟩ | ⟨failed, outside⟩
  · have exact := target small
    rw [landed, if_pos (by omega), ← exact, Int.toNat_natCast]
  · have beyond := outside small memory
    rw [failed, if_neg (by omega)]

theorem seekTo_eq (memory : c.data.Addressable) (position : UInt64) :
    c.seekTo position =
      if position.toNat ≤ c.data.size then .ok { c with pos := position.toNat }
      else .error (.invalidOffset c.absolutePosition (position.toInt64 - Int64.ofNat c.pos)
        (c.base + c.data.size)) := by
  rcases c.seekTo_cases position with ⟨within, landed⟩ | ⟨failed, outside⟩
  · rw [landed, if_pos within]
  · rw [failed, if_neg (Nat.not_le.mpr (outside memory))]

theorem subCursor_eq (memory : c.data.Addressable) (start count : UInt64) :
    c.subCursor start count =
      if start.toNat + count.toNat ≤ c.data.size then
        .ok ⟨c.data.slice start.toNat count.toNat, 0, c.base + start.toNat⟩
      else .error (.unexpectedEnd (UInt64.ofNat c.base + start).toNat count.toNat
        (c.data.size - start.toNat)) := by
  by_cases room : start.toNat + count.toNat ≤ c.data.size
  · rw [if_pos room, subCursor_of_fits room (Nat.lt_of_le_of_lt room memory.lt_size)]
  · rw [if_neg room]
    exact if_neg fun fits => room fits.1

end Cursor

namespace WordCursor

variable {c : Cursor}

theorem toNat_length (memory : c.data.Addressable) : c.inWords.length.toNat = c.data.size :=
  toNat_word memory

theorem absolutePosition_inWords (memory : c.data.Addressable) (inside : c.pos ≤ c.data.size) :
    c.inWords.absolutePosition = c.absolutePosition :=
  congrArg (c.base + ·) (toNat_word (Nat.lt_of_le_of_lt inside memory))

/-- A target with its sign taken away is compared with the length as it would be among numbers. -/
theorem refused_iff (memory : c.data.Addressable) (target : Int64) :
    (target < 0 ∨ c.inWords.length < target.toUInt64) ↔
      (target < 0 ∨ c.data.size < target.toInt.toNat) := by
  by_cases backward : target < 0
  · exact iff_of_true (Or.inl backward) (Or.inl backward)
  · rw [UInt64.lt_iff_toNat_lt, toNat_length memory, toNat_toUInt64 backward]

theorem outcome_seekRelative (memory : c.data.Addressable) (inside : c.pos ≤ c.data.size)
    (delta : Int64) :
    (seekRelative delta).outcome c.inWords = InPlace.keep c.inWords
      ((c.seekRelative delta).map fun next => ((), next.inWords)) := by
  have target : c.inWords.pos.toInt64 + delta = Int64.ofNat c.pos + delta := rfl
  rw [seekRelative, InPlace.outcome_get, Cursor.seekRelative, target,
    absolutePosition_inWords memory inside]
  dsimp only
  by_cases refused :
      Int64.ofNat c.pos + delta < 0 ∨ c.data.size < (Int64.ofNat c.pos + delta).toInt.toNat
  · rw [if_pos ((refused_iff memory _).mpr refused), if_pos refused]
    rfl
  · have forward : ¬ Int64.ofNat c.pos + delta < 0 := fun backward => refused (Or.inl backward)
    have place : UInt64.ofNat (Int64.ofNat c.pos + delta).toInt.toNat =
        (Int64.ofNat c.pos + delta).toUInt64 := by
      rw [← toNat_toUInt64 forward, UInt64.ofNat_toNat]
    rw [if_neg (mt (refused_iff memory _).mp refused), if_neg refused, ← place]
    rfl

theorem outcome_seekTo (memory : c.data.Addressable) (inside : c.pos ≤ c.data.size)
    (position : UInt64) :
    (seekTo position).outcome c.inWords = InPlace.keep c.inWords
      ((c.seekTo position).map fun next => ((), next.inWords)) := by
  rw [seekTo, InPlace.outcome_get]
  exact outcome_seekRelative memory inside _

theorem outcome_subCursor (memory : c.data.Addressable) (start count : UInt64) :
    (subCursor start count).outcome c.inWords =
      ((c.subCursor start count).map Cursor.inWords, c.inWords) := by
  have limit : c.data.size < UInt64.size := memory.lt_size
  rw [subCursor, InPlace.outcome_get, toNat_monus, toNat_length memory, Cursor.subCursor_eq memory]
  dsimp only
  by_cases word : start.toNat + count.toNat < UInt64.size
  · obtain ⟨sum, exact⟩ := sum?_of_lt word
    have fits : start + count ≤ c.inWords.length ↔ start.toNat + count.toNat ≤ c.data.size := by
      rw [UInt64.le_iff_toNat_le, exact, toNat_length memory]
    rw [sum]
    dsimp only
    by_cases room : start.toNat + count.toNat ≤ c.data.size
    · rw [if_pos (fits.mpr room), if_pos room, exact]
      rfl
    · rw [if_neg (mt fits.mp room), if_neg room]
      rfl
  · rw [sum?_of_le (Nat.le_of_not_lt word), if_neg (by omega)]
    rfl

/-- A cursor moves, takes up a position or gives out a window just when it can by the count of the
integers, and comes to stand where they say. In words it does the same, and where it is refused it
stays as it is. -/
theorem positions_exact (memory : c.data.Addressable) (inside : c.pos ≤ c.data.size)
    (delta : Int64) (position start count : UInt64) :
    (c.seekRelative delta =
      if 0 ≤ c.pos + delta.toInt ∧ c.pos + delta.toInt ≤ c.data.size then
        .ok { c with pos := (c.pos + delta.toInt).toNat }
      else .error (.invalidOffset c.absolutePosition delta (c.base + c.data.size))) ∧
    (c.seekTo position =
      if position.toNat ≤ c.data.size then .ok { c with pos := position.toNat }
      else .error (.invalidOffset c.absolutePosition (position.toInt64 - Int64.ofNat c.pos)
        (c.base + c.data.size))) ∧
    (c.subCursor start count =
      if start.toNat + count.toNat ≤ c.data.size then
        .ok ⟨c.data.slice start.toNat count.toNat, 0, c.base + start.toNat⟩
      else .error (.unexpectedEnd (UInt64.ofNat c.base + start).toNat count.toNat
        (c.data.size - start.toNat))) ∧
    (seekRelative delta).outcome c.inWords = InPlace.keep c.inWords
      ((c.seekRelative delta).map fun next => ((), next.inWords)) ∧
    (seekTo position).outcome c.inWords = InPlace.keep c.inWords
      ((c.seekTo position).map fun next => ((), next.inWords)) ∧
    (subCursor start count).outcome c.inWords =
      ((c.subCursor start count).map Cursor.inWords, c.inWords) :=
  ⟨Cursor.seekRelative_eq memory inside delta, Cursor.seekTo_eq memory position,
    Cursor.subCursor_eq memory start count, outcome_seekRelative memory inside delta,
    outcome_seekTo memory inside position, outcome_subCursor memory start count⟩

def midway : Cursor := ⟨#[0, 1, 2, 3, 4, 5, 6, 7], 5, 3⟩

/-- The sum of the position and the longest move is negative as a word, and the window of two bytes
from the last place on ends as a word at the second byte. Neither is taken for a place inside. -/
theorem positions_exact_midway :
    midway.data.Addressable ∧ midway.pos ≤ midway.data.size ∧
    (seekRelative Int64.maxValue).outcome midway.inWords =
      (.error (.invalidOffset 8 Int64.maxValue 11), midway.inWords) ∧
    (seekTo 8).outcome midway.inWords = (.ok (), { midway.inWords with pos := 8 }) ∧
    (subCursor 0xFFFFFFFFFFFFFFFF 2).outcome midway.inWords =
      (.error (.unexpectedEnd 2 2 0), midway.inWords) := by
  have memory : midway.data.Addressable := show 8 < 0x8000000000000000 by decide
  have inside : midway.pos ≤ midway.data.size := by decide
  obtain ⟨moved, placed, cut, move, place, window⟩ :=
    positions_exact memory inside Int64.maxValue 8 0xFFFFFFFFFFFFFFFF 2
  rw [if_neg (by decide)] at moved cut
  rw [if_pos (by decide)] at placed
  rw [move, place, window, moved, placed, cut]
  exact ⟨memory, inside, rfl, rfl, rfl⟩

end WordCursor

end Metafile
