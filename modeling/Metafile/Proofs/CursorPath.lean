import Metafile.Proofs.CursorInPlace
import Metafile.Proofs.Padding
import Metafile.Proofs.RecordReader

/-! # Paths of cursors

A reader descends into windows, and returns from them. Whatever it reads on its way, and wherever
that fails, each cursor that it has come through stays inside its window, and each window is the
part of the outermost buffer that starts where the descents to it add up to. -/
namespace Metafile

def Bytes.littleEndian (b : Bytes) : Nat :=
  b.toList.foldr (fun byte rest => byte.toNat + 256 * rest) 0

/-- A layout in which all bytes together are a number. -/
class LittleEndian (α : Type) extends FixedLayout α where
  ofBits : Nat → α
  ofBytes_eq : ∀ b : Bytes, b.size = width → ofBytes b = ofBits b.littleEndian

namespace Bytes

theorem toNat_byteAt_zero {b : Bytes} (one : b.size = 1) : (b.byteAt 0).toNat = b.littleEndian := by
  obtain ⟨bytes⟩ := b
  obtain ⟨first, rfl⟩ := List.length_eq_one_iff.mp one
  rfl

theorem toNat_u16At_zero {b : Bytes} (two : b.size = 2) : (b.u16At 0).toNat = b.littleEndian := by
  obtain ⟨bytes⟩ := b
  match bytes, two with
  | [first, second], _ => exact toNat_u16At _ _

theorem toNat_u32At_zero {b : Bytes} (four : b.size = 4) : (b.u32At 0).toNat = b.littleEndian := by
  obtain ⟨bytes⟩ := b
  match bytes, four with
  | [first, second, third, fourth], _ =>
    rw [toNat_u32At, toNat_u16At, toNat_u16At]
    change first.toNat + 256 * second.toNat + 65536 * (third.toNat + 256 * fourth.toNat) =
      first.toNat + 256 * (second.toNat + 256 * (third.toNat + 256 * (fourth.toNat + 256 * 0)))
    omega

end Bytes

instance : LittleEndian UInt8 where
  ofBits := UInt8.ofNat
  ofBytes_eq b size := by
    rw [← Bytes.toNat_byteAt_zero size, UInt8.ofNat_toNat]
    rfl

instance : LittleEndian UInt16 where
  ofBits := UInt16.ofNat
  ofBytes_eq b size := by
    rw [← Bytes.toNat_u16At_zero size, UInt16.ofNat_toNat]
    rfl

instance : LittleEndian Int16 where
  ofBits bits := (UInt16.ofNat bits).toInt16
  ofBytes_eq b size := by
    rw [← Bytes.toNat_u16At_zero size, UInt16.ofNat_toNat]
    rfl

instance : LittleEndian UInt32 where
  ofBits := UInt32.ofNat
  ofBytes_eq b size := by
    rw [← Bytes.toNat_u32At_zero size, UInt32.ofNat_toNat]
    rfl

instance : LittleEndian Int32 where
  ofBits bits := (UInt32.ofNat bits).toInt32
  ofBytes_eq b size := by
    rw [← Bytes.toNat_u32At_zero size, UInt32.ofNat_toNat]
    rfl

instance : LittleEndian Float32 where
  ofBits bits := .ofBits (UInt32.ofNat bits)
  ofBytes_eq b size := by
    rw [← Bytes.toNat_u32At_zero size, UInt32.ofNat_toNat]
    rfl

theorem Cursor.Inside.part {data : Bytes} {c : Cursor} (inside : c.Inside data) {start count : Nat}
    (room : start + count ≤ c.data.size) :
    (⟨data.slice (c.base + start) count, 0, c.base + start⟩ : Cursor).Inside data := by
  have fits := inside.fits
  have size : (data.slice (c.base + start) count).size = count := Bytes.size_slice (by omega)
  refine ⟨?_, ?_, Nat.zero_le _⟩
  · rw [size]
    change c.base + start + count ≤ data.size
    omega
  · rw [size]

namespace Cursor

variable {c : Cursor}

/-- The target of a move is computed exactly, or it lies behind all that a buffer can hold. -/
theorem toInt_target (small : c.pos < 0x8000000000000000) (delta : Int64) :
    (Int64.ofNat c.pos + delta).toInt = c.pos + delta.toInt ∨
      (Int64.ofNat c.pos + delta).toInt < 0 ∧ (0x8000000000000000 : Int) ≤ c.pos + delta.toInt := by
  have low : -0x8000000000000000 ≤ delta.toInt := delta.minValue_le_toInt
  have high : delta.toInt ≤ 0x7FFFFFFFFFFFFFFF := delta.toInt_le
  have exact : (Int64.ofNat c.pos).toInt = c.pos := Int64.toInt_ofNat_of_lt (by omega)
  rw [Int64.toInt_add, exact, Int.bmod_def]
  omega

theorem seekRelative_cases (c : Cursor) (delta : Int64) :
    (∃ pos ≤ c.data.size, c.seekRelative delta = .ok { c with pos } ∧
      (c.pos < 0x8000000000000000 → (pos : Int) = c.pos + delta.toInt)) ∨
    c.seekRelative delta =
        .error (.invalidOffset c.absolutePosition delta (c.base + c.data.size)) ∧
      (c.pos < 0x8000000000000000 → c.data.size < 0x8000000000000000 →
        c.pos + delta.toInt < 0 ∨ (c.data.size : Int) < c.pos + delta.toInt) := by
  have negative : Int64.ofNat c.pos + delta < 0 ↔ (Int64.ofNat c.pos + delta).toInt < 0 :=
    Int64.lt_iff_toInt_lt
  rw [seekRelative]
  split
  · rename_i refused
    rw [negative] at refused
    refine Or.inr ⟨rfl, fun small memory => ?_⟩
    rcases toInt_target small delta with target | target <;> omega
  · rename_i accepted
    rw [negative, not_or] at accepted
    refine Or.inl ⟨_, Nat.not_lt.mp accepted.2, rfl, fun small => ?_⟩
    rcases toInt_target small delta with target | target <;> omega

theorem seekTo_cases (c : Cursor) (position : UInt64) :
    (position.toNat ≤ c.data.size ∧ c.seekTo position = .ok { c with pos := position.toNat }) ∨
    c.seekTo position = .error (.invalidOffset c.absolutePosition
        (position.toInt64 - Int64.ofNat c.pos) (c.base + c.data.size)) ∧
      (c.data.size < 0x8000000000000000 → c.data.size < position.toNat) := by
  have target : Int64.ofNat c.pos + (position.toInt64 - Int64.ofNat c.pos) = position.toInt64 := by
    grind
  have value : position.toInt64.toInt = if 2 * position.toNat < 2 ^ 64 then (position.toNat : Int)
      else position.toNat - (2 ^ 64 : Nat) := BitVec.toInt_eq_toNat_cond position.toBitVec
  have negative : position.toInt64 < 0 ↔ position.toInt64.toInt < 0 := Int64.lt_iff_toInt_lt
  have below := position.toNat_lt
  rw [seekTo, seekRelative, target]
  split
  · rename_i refused
    rw [negative] at refused
    refine Or.inr ⟨rfl, fun memory => ?_⟩
    split at value <;> omega
  · rename_i accepted
    rw [negative, not_or] at accepted
    have same : position.toInt64.toInt.toNat = position.toNat := by
      split at value <;> omega
    rw [same] at accepted ⊢
    exact Or.inl ⟨Nat.not_lt.mp accepted.2, rfl⟩

end Cursor

inductive CursorCall : Type 1 where
  | bytes (count : UInt64)
  | scalar (α : Type) [LittleEndian α]
  | value (α : Type) [FixedLayout α]
  | values (α : Type) [FixedLayout α] (count : UInt64)
  | seekRelative (delta : Int64)
  | seekTo (position : UInt64)
  | descend (start count : UInt64)
  | ascend

namespace CursorCall

def Answer : CursorCall → Type
  | bytes _ => Bytes
  | scalar α => α
  | value α => α
  | values α _ => List α
  | seekRelative _ | seekTo _ | descend _ _ | ascend => Unit

def size? : CursorCall → Option Nat
  | bytes count => some count.toNat
  | scalar α => some (FixedLayout.width α)
  | value α => some (FixedLayout.width α)
  | values α count => some (count.toNat * FixedLayout.width α)
  | seekRelative _ | seekTo _ | descend _ _ | ascend => none

def decode : (call : CursorCall) → Bytes → call.Answer
  | bytes _, b => b
  | scalar α, b => (LittleEndian.ofBits b.littleEndian : α)
  | value α, b => (FixedLayout.ofBytes b : α)
  | values α count, b => b.valuesAt α 0 count.toNat
  | seekRelative _, _ | seekTo _, _ | descend _ _, _ | ascend, _ => ()

end CursorCall

/-- A cursor, and where its window starts in that of the cursor it was cut out of. -/
structure Level where
  cursor : Cursor
  start : Nat

/-- What the descents to the first of some levels add up to. -/
def Level.descent : List Level → Nat
  | [] => 0
  | level :: outer => level.start + descent outer

structure CursorPath where
  current : Level
  outer : List Level

namespace CursorPath

variable {β : Type}

def on (data : Bytes) : CursorPath := ⟨⟨.ofBytes data, 0⟩, []⟩

def levels (p : CursorPath) : List Level := p.current :: p.outer

def cursor (p : CursorPath) : Cursor := p.current.cursor

def swap (p : CursorPath) (c : Cursor) : CursorPath :=
  { p with current := { p.current with cursor := c } }

def moveTo (p : CursorPath) (pos : Nat) : CursorPath := p.swap { p.cursor with pos }

def enter (p : CursorPath) (start : UInt64) (window : Cursor) : CursorPath :=
  ⟨⟨window, start.toNat⟩, p.levels⟩

def leave (p : CursorPath) : CursorPath :=
  match p.outer with
  | [] => p
  | level :: outer => ⟨level, outer⟩

def follow (p : CursorPath) (result : Except Error (β × Cursor)) : Except Error β × CursorPath :=
  InPlace.keep p (result.map fun (answer, next) => (answer, p.swap next))

def perform (p : CursorPath) : (call : CursorCall) → Except Error call.Answer × CursorPath
  | .bytes count => p.follow (p.cursor.readBytes count.toNat)
  | @CursorCall.scalar α _ => p.follow (p.cursor.read α)
  | @CursorCall.value α _ => p.follow (p.cursor.read α)
  | @CursorCall.values α _ count => p.follow (p.cursor.readArray α count)
  | .seekRelative delta => p.follow ((p.cursor.seekRelative delta).map fun next => ((), next))
  | .seekTo position => p.follow ((p.cursor.seekTo position).map fun next => ((), next))
  | .descend start count =>
      InPlace.keep p ((p.cursor.subCursor start count).map fun window => ((), p.enter start window))
  | .ascend => (.ok (), p.leave)

def performAll (p : CursorPath) (calls : List CursorCall) : CursorPath :=
  calls.foldl (fun p call => (p.perform call).2) p

def atCursor (update : CursorUpdate β) : InPlace CursorPath β :=
  ExceptT.mk fun p => ((update.outcome p.cursor).1, p.swap (update.outcome p.cursor).2)

theorem outcome_atCursor {update : CursorUpdate β} {p : CursorPath}
    {result : Except Error (β × Cursor)}
    (same : update.outcome p.cursor = InPlace.keep p.cursor result) :
    (atCursor update).outcome p = p.follow result := by
  change ((update.outcome p.cursor).1, p.swap (update.outcome p.cursor).2) = _
  rw [same]
  cases result <;> rfl

end CursorPath

namespace CursorCall

open CursorPath in
def inPlace : (call : CursorCall) → InPlace CursorPath call.Answer
  | bytes count => atCursor (CursorUpdate.readBytes count.toNat)
  | scalar α => atCursor (CursorUpdate.read α)
  | value α => atCursor (CursorUpdate.read α)
  | values α count => atCursor (CursorUpdate.readArray α count)
  | seekRelative delta => atCursor (CursorUpdate.seekRelative delta)
  | seekTo position => atCursor (CursorUpdate.seekTo position)
  | descend start count => do
    let p ← get
    match p.cursor.subCursor start count with
    | .ok window => set (p.enter start window)
    | .error e => throw e
  | ascend => modify CursorPath.leave

end CursorCall

namespace CursorPath

/-- What a call may come to, on a path of cursors on some outermost buffer. -/
inductive Does (data : Bytes) (p : CursorPath) :
    (call : CursorCall) → Except Error call.Answer × CursorPath → Prop where
  | read {call : CursorCall} {count : Nat} (wanted : call.size? = some count)
      (room : count ≤ p.cursor.remaining) :
      p.Does data call (.ok (call.decode (data.slice p.cursor.absolutePosition count)),
        p.moveTo (p.cursor.pos + count))
  | readShort {call : CursorCall} {count needed : Nat} (wanted : call.size? = some count)
      (short : p.cursor.remaining < count ∨ UInt64.size ≤ count)
      (known : count < UInt64.size → needed = count) :
      p.Does data call
        (.error (.unexpectedEnd p.cursor.absolutePosition needed p.cursor.remaining), p)
  | moved {delta : Int64} {pos : Nat} (inside : pos ≤ p.cursor.data.size)
      (target : data.Addressable → (pos : Int) = p.cursor.pos + delta.toInt) :
      p.Does data (.seekRelative delta) (.ok (), p.moveTo pos)
  | notMoved {delta : Int64} (outside : data.Addressable →
        p.cursor.pos + delta.toInt < 0 ∨ (p.cursor.data.size : Int) < p.cursor.pos + delta.toInt) :
      p.Does data (.seekRelative delta) (.error (.invalidOffset p.cursor.absolutePosition delta
        (p.cursor.base + p.cursor.data.size)), p)
  | placed {position : UInt64} (inside : position.toNat ≤ p.cursor.data.size) :
      p.Does data (.seekTo position) (.ok (), p.moveTo position.toNat)
  | notPlaced {position : UInt64}
      (outside : data.Addressable → p.cursor.data.size < position.toNat) :
      p.Does data (.seekTo position) (.error (.invalidOffset p.cursor.absolutePosition
        (position.toInt64 - Int64.ofNat p.cursor.pos) (p.cursor.base + p.cursor.data.size)), p)
  | entered {start count : UInt64} (room : start.toNat + count.toNat ≤ p.cursor.data.size) :
      p.Does data (.descend start count) (.ok (), p.enter start
        ⟨data.slice (p.cursor.base + start.toNat) count.toNat, 0, p.cursor.base + start.toNat⟩)
  | notEntered {start count : UInt64}
      (outside : p.cursor.data.size < start.toNat + count.toNat ∨
        UInt64.size ≤ start.toNat + count.toNat) :
      p.Does data (.descend start count) (.error (.unexpectedEnd
        (UInt64.ofNat p.cursor.base + start).toNat count.toNat
        (p.cursor.data.size - start.toNat)), p)
  | left : p.Does data .ascend (.ok (), p.leave)

/-- Each cursor on the path stands inside its window, which is the part of the outermost buffer that
starts where all the descents to it add up to. -/
def Coherent (data : Bytes) (p : CursorPath) : Prop :=
  ∀ level outer, level :: outer <:+ p.levels →
    level.cursor.Inside data ∧ level.cursor.base = Level.descent (level :: outer)

variable {data : Bytes} {p : CursorPath}

theorem coherent_on (data : Bytes) : (on data).Coherent data := by
  intro level outer suffix
  rcases List.suffix_cons_iff.mp suffix with same | nothing
  · cases same
    exact ⟨Cursor.WindowOn.whole.inside, rfl⟩
  · cases List.suffix_nil.mp nothing

theorem Coherent.inside (coherent : p.Coherent data) : p.cursor.Inside data :=
  (coherent p.current p.outer (List.suffix_refl _)).1

theorem Coherent.base (coherent : p.Coherent data) :
    p.cursor.base = Level.descent p.levels :=
  (coherent p.current p.outer (List.suffix_refl _)).2

theorem Coherent.moveTo (coherent : p.Coherent data) {pos : Nat}
    (inside : pos ≤ p.cursor.data.size) : (p.moveTo pos).Coherent data := by
  intro level outer suffix
  rcases List.suffix_cons_iff.mp suffix with same | deeper
  · cases same
    exact ⟨⟨coherent.inside.fits, coherent.inside.bytes, inside⟩, coherent.base⟩
  · exact coherent level outer (deeper.trans (List.suffix_cons _ _))

theorem Coherent.enter (coherent : p.Coherent data) {start count : UInt64}
    (room : start.toNat + count.toNat ≤ p.cursor.data.size) :
    (p.enter start ⟨data.slice (p.cursor.base + start.toNat) count.toNat, 0,
      p.cursor.base + start.toNat⟩).Coherent data := by
  intro level outer suffix
  rcases List.suffix_cons_iff.mp suffix with same | shallower
  · cases same
    refine ⟨coherent.inside.part room, ?_⟩
    change p.cursor.base + start.toNat = start.toNat + Level.descent p.levels
    rw [← coherent.base, Nat.add_comm]
  · exact coherent level outer shallower

theorem Coherent.leave (coherent : p.Coherent data) : p.leave.Coherent data := by
  unfold CursorPath.leave
  split
  · exact coherent
  · rename_i parent outer same
    intro level rest suffix
    refine coherent level rest (suffix.trans ?_)
    change _ <:+ p.current :: p.outer
    rw [same]
    exact List.suffix_cons _ _

theorem Does.coherent {call : CursorCall} {outcome : Except Error call.Answer × CursorPath}
    (does : p.Does data call outcome) (coherent : p.Coherent data) : outcome.2.Coherent data := by
  cases does with
  | read wanted room =>
    have pos_le := coherent.inside.pos_le
    unfold Cursor.remaining at room
    exact coherent.moveTo (by omega)
  | moved inside => exact coherent.moveTo inside
  | placed inside => exact coherent.moveTo inside
  | entered room => exact coherent.enter room
  | left => exact coherent.leave
  | readShort | notMoved | notPlaced | notEntered => exact coherent

theorem follow_does {call : CursorCall} {count : Nat} (inside : p.cursor.Inside data)
    (wanted : call.size? = some count) {result : Except Error (call.Answer × Cursor)}
    (short : p.cursor.remaining < count → result = .error (p.cursor.unexpectedEnd count))
    (enough : count ≤ p.cursor.remaining → result = .ok
      (call.decode (p.cursor.data.slice p.cursor.pos count),
        { p.cursor with pos := p.cursor.pos + count })) :
    p.Does data call (p.follow result) := by
  by_cases room : count ≤ p.cursor.remaining
  · rw [enough room, inside.slice_eq room]
    exact .read wanted room
  · rw [short (Nat.lt_of_not_le room)]
    exact .readShort wanted (Or.inl (Nat.lt_of_not_le room)) fun _ => rfl

theorem perform_does (inside : p.cursor.Inside data) (call : CursorCall) :
    p.Does data call (p.perform call) := by
  have pos_le := inside.pos_le
  have fits := inside.fits
  cases call with
  | bytes count => exact follow_does inside rfl Cursor.readBytes_of_lt Cursor.readBytes_of_le
  | scalar α =>
    refine follow_does inside rfl Cursor.read_of_lt fun room => ?_
    have size : (p.cursor.data.slice p.cursor.pos (FixedLayout.width α)).size =
        FixedLayout.width α := by
      unfold Cursor.remaining at room
      exact Bytes.size_slice (by omega)
    rw [Cursor.read_of_le room, Bytes.valueAt, LittleEndian.ofBytes_eq _ size]
    rfl
  | value α => exact follow_does inside rfl Cursor.read_of_lt Cursor.read_of_le
  | values α count =>
    by_cases huge : UInt64.size ≤ count.toNat * FixedLayout.width α
    · rw [perform, Cursor.readArray_of_huge huge]
      exact .readShort rfl (Or.inr huge) fun word => absurd huge (Nat.not_le.mpr word)
    · have word := Nat.not_le.mp huge
      refine follow_does inside rfl (Cursor.readArray_of_lt word) fun room => ?_
      have values : (p.cursor.data.slice p.cursor.pos (count.toNat * FixedLayout.width α)).valuesAt
          α 0 count.toNat = p.cursor.data.valuesAt α p.cursor.pos count.toNat :=
        Bytes.valuesAt_slice (by omega)
      rw [Cursor.readArray_of_le word room, ← values]
      rfl
  | seekRelative delta =>
    rw [perform]
    rcases p.cursor.seekRelative_cases delta with ⟨pos, within, landed, target⟩ | ⟨failed, outside⟩
    · rw [landed]
      refine .moved within fun memory => target ?_
      unfold Bytes.Addressable at memory
      omega
    · rw [failed]
      refine .notMoved fun memory => outside ?_ ?_ <;>
      · unfold Bytes.Addressable at memory
        omega
  | seekTo position =>
    rw [perform]
    rcases p.cursor.seekTo_cases position with ⟨within, landed⟩ | ⟨failed, outside⟩
    · rw [landed]
      exact .placed within
    · rw [failed]
      refine .notPlaced fun memory => outside ?_
      unfold Bytes.Addressable at memory
      omega
  | descend start count =>
    rw [perform]
    by_cases room : start.toNat + count.toNat ≤ p.cursor.data.size ∧
        start.toNat + count.toNat < UInt64.size
    · have window : p.cursor.data.slice start.toNat count.toNat =
          data.slice (p.cursor.base + start.toNat) count.toNat := by
        rw [inside.bytes, Bytes.slice_slice room.1]
      rw [Cursor.subCursor_of_fits room.1 room.2, window]
      exact .entered room.1
    · rw [Cursor.subCursor, if_neg room]
      exact .notEntered (by omega)
  | ascend => exact .left

theorem inPlace_eq (p : CursorPath) (call : CursorCall) :
    call.inPlace.outcome p = p.perform call := by
  cases call with
  | bytes count => exact outcome_atCursor (CursorUpdate.outcome_readBytes _ _)
  | scalar α => exact outcome_atCursor (CursorUpdate.outcome_read α _)
  | value α => exact outcome_atCursor (CursorUpdate.outcome_read α _)
  | values α count => exact outcome_atCursor (CursorUpdate.outcome_readArray _ count)
  | seekRelative delta => exact outcome_atCursor (CursorUpdate.outcome_seekRelative _ delta)
  | seekTo position => exact outcome_atCursor (CursorUpdate.outcome_seekTo _ position)
  | descend start count =>
    rw [CursorCall.inPlace, InPlace.outcome_get, perform]
    cases p.cursor.subCursor start count <;> rfl
  | ascend => rfl

theorem Coherent.performAll (coherent : p.Coherent data) (calls : List CursorCall) :
    (p.performAll calls).Coherent data := by
  induction calls generalizing p with
  | nil => exact coherent
  | cons call rest ih => exact ih ((perform_does coherent.inside call).coherent coherent)

/-- After any calls, each cursor on the path stands in a window that lies where the descents to it
say. A read then returns what the outermost buffer holds at the absolute position and moves behind
it, and a call that fails leaves the path as it is, also when the cursor is moved in place. -/
theorem performAll_coherent (data : Bytes) (calls : List CursorCall) :
    ((on data).performAll calls).Coherent data ∧ ∀ call,
      ((on data).performAll calls).Does data call (((on data).performAll calls).perform call) ∧
      call.inPlace.outcome ((on data).performAll calls) =
        ((on data).performAll calls).perform call := by
  have coherent := (coherent_on data).performAll calls
  exact ⟨coherent, fun call => ⟨perform_does coherent.inside call, inPlace_eq _ call⟩⟩

end CursorPath

end Metafile
