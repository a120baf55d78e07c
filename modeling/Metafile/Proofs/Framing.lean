import Metafile.Proofs.Window

/-! # Framing

The tag and the size that a record starts with decide where it ends; everything else about it is
decided by its own bytes. Reading a record is therefore a local matter: the same bytes give the same
record at any place, and the cursor moves by the declared size. -/
namespace Metafile

theorem RecordHead.ofBytes_slice (b : Bytes) (pos : Nat) :
    (FixedLayout.ofBytes (b.slice pos 8) : RecordHead) = ⟨b.u32At pos, b.u32At (pos + 4)⟩ := by
  change (⟨(b.slice pos 8).u32At 0, (b.slice pos 8).u32At 4⟩ : RecordHead) = _
  rw [Bytes.u32At_slice (by omega), Bytes.u32At_slice (by omega), Nat.add_zero]

namespace Cursor

def recordTag (c : Cursor) : UInt32 := c.data.u32At c.pos

def recordSize (c : Cursor) : Nat := (c.data.u32At (c.pos + 4)).toNat

def advance (c : Cursor) (n : Nat) : Cursor := { c with pos := c.pos + n }

/-- What reading a record comes to, by the outcome of decoding its bytes. -/
def frame (c : Cursor) : Except RecordFault Record → Except Error (Record × Cursor)
  | .ok record => .ok (record, c.advance c.recordSize)
  | .error fault => .error (.malformedRecord c.absolutePosition c.recordTag fault)

theorem readBytes_eq (c : Cursor) (n : Nat) :
    c.readBytes n =
      if c.remaining < n then .error (c.unexpectedEnd n)
      else .ok (c.data.slice c.pos n, c.advance n) := rfl

theorem read_recordHead (c : Cursor) :
    c.read RecordHead =
      if c.remaining < Record.headerSize then .error (c.unexpectedEnd Record.headerSize)
      else .ok (⟨c.data.u32At c.pos, c.data.u32At (c.pos + 4)⟩, c.advance Record.headerSize) := by
  change (c.readBytes Record.headerSize).map _ = _
  rw [readBytes_eq]
  by_cases short : c.remaining < Record.headerSize
  · rw [if_pos short, if_pos short]
    rfl
  · rw [if_neg short, if_neg short, ← RecordHead.ofBytes_slice]
    rfl

theorem readRecord_eq (c : Cursor) :
    c.readRecord =
      if c.remaining < Record.headerSize then .error (c.unexpectedEnd Record.headerSize)
      else if c.recordSize < Record.headerSize then
        c.frame (.error (.sizeBelowHeader c.recordSize))
      else if c.remaining < c.recordSize then .error (c.unexpectedEnd c.recordSize)
      else c.frame (Record.decode c.recordTag (c.data.slice c.pos c.recordSize)) := by
  unfold readRecord
  rw [read_recordHead]
  by_cases short : c.remaining < Record.headerSize
  · rw [if_pos short, if_pos short]
    rfl
  rw [if_neg short, if_neg short]
  change (if c.recordSize < Record.headerSize then _
    else Except.bind (c.readBytes c.recordSize) _) = _
  by_cases small : c.recordSize < Record.headerSize
  · rw [if_pos small, if_pos small]
    rfl
  rw [if_neg small, if_neg small, readBytes_eq]
  by_cases cut : c.remaining < c.recordSize
  · rw [if_pos cut, if_pos cut]
    rfl
  rw [if_neg cut, if_neg cut]
  change (match Record.decode c.recordTag (c.data.slice c.pos c.recordSize) with
    | .ok record => _
    | .error fault => _) = _
  cases Record.decode c.recordTag (c.data.slice c.pos c.recordSize) <;> rfl

end Cursor

def Record.decodeWhole (bytes : Bytes) : Except RecordFault Record :=
  Record.decode (bytes.u32At 0) bytes

namespace Cursor

theorem u32At_tag {c : Cursor} {n : Nat} (minimal : Record.headerSize ≤ n) :
    (c.data.slice c.pos n).u32At 0 = c.recordTag :=
  Bytes.u32At_slice (by simp only [Record.headerSize] at minimal; omega)

theorem u32At_size {c : Cursor} {n : Nat} (minimal : Record.headerSize ≤ n) :
    ((c.data.slice c.pos n).u32At 4).toNat = c.recordSize := by
  rw [Bytes.u32At_slice (by simp only [Record.headerSize] at minimal; omega)]
  rfl

theorem readRecord_of_fits {c : Cursor} {n : Nat} (declared : c.recordSize = n)
    (minimal : Record.headerSize ≤ n) (room : n ≤ c.remaining) :
    c.readRecord = c.frame (Record.decodeWhole (c.data.slice c.pos n)) := by
  subst n
  rw [readRecord_eq, if_neg (by omega), if_neg (by omega), if_neg (by omega),
    Record.decodeWhole, u32At_tag minimal]

theorem readRecord_of_same {data data' : Bytes} {c c' : Cursor} {n : Nat}
    (hc : WindowOn data c) (hc' : WindowOn data' c') (declared : c.recordSize = n)
    (minimal : Record.headerSize ≤ n) (room : n ≤ c.remaining) (room' : n ≤ c'.remaining)
    (same : data.slice c.absolutePosition n = data'.slice c'.absolutePosition n) :
    c'.recordTag = c.recordTag ∧ c'.recordSize = n ∧
    ∃ result, c.readRecord = c.frame result ∧ c'.readRecord = c'.frame result := by
  have bytes : c.data.slice c.pos n = c'.data.slice c'.pos n := by
    rw [hc.inside.slice_eq room, hc'.inside.slice_eq room', same]
  have tag : c'.recordTag = c.recordTag := by
    rw [← u32At_tag minimal, ← bytes, u32At_tag minimal]
  have declared' : c'.recordSize = n := by
    rw [← u32At_size minimal, ← bytes, u32At_size minimal, declared]
  have read := readRecord_of_fits declared minimal room
  have read' := readRecord_of_fits declared' minimal room'
  rw [← bytes] at read'
  exact ⟨tag, declared', _, read, read'⟩

theorem frame_local {c c' : Cursor} {n : Nat} (declared : c.recordSize = n)
    (declared' : c'.recordSize = n) (tag : c'.recordTag = c.recordTag)
    (result : Except RecordFault Record) :
    (∃ record, c.frame result = .ok (record, c.advance n) ∧
      c'.frame result = .ok (record, c'.advance n)) ∨
    (∃ fault, c.frame result = .error (.malformedRecord c.absolutePosition c.recordTag fault) ∧
      c'.frame result = .error (.malformedRecord c'.absolutePosition c.recordTag fault)) := by
  cases result with
  | ok record =>
    left
    refine ⟨record, ?_, ?_⟩
    · rw [frame, declared]
    · rw [frame, declared']
  | error fault =>
    right
    refine ⟨fault, rfl, ?_⟩
    rw [frame, tag]

/-- The bytes of a record decide whether it decodes and to what. Of the place where they stand only
the offset in an error tells, and behind the record the cursor stands at its declared end. -/
theorem readRecord_local {data data' : Bytes} {c c' : Cursor} {n : Nat}
    (hc : WindowOn data c) (hc' : WindowOn data' c') (declared : c.recordSize = n)
    (minimal : Record.headerSize ≤ n) (room : n ≤ c.remaining) (room' : n ≤ c'.remaining)
    (same : data.slice c.absolutePosition n = data'.slice c'.absolutePosition n) :
    (∃ record, c.readRecord = .ok (record, c.advance n) ∧
      c'.readRecord = .ok (record, c'.advance n)) ∨
    (∃ fault, c.readRecord = .error (.malformedRecord c.absolutePosition c.recordTag fault) ∧
      c'.readRecord = .error (.malformedRecord c'.absolutePosition c.recordTag fault)) := by
  obtain ⟨tag, declared', result, read, read'⟩ :=
    readRecord_of_same hc hc' declared minimal room room' same
  rw [read, read']
  exact frame_local declared declared' tag result

/-- The record that ends a picture; its palette of one entry stands behind four bytes that belong to
no section. -/
def paddedEnd : Bytes :=
  #[14, 0, 0, 0, 24, 0, 0, 0, 1, 0, 0, 0, 20, 0, 0, 0, 0xEE, 0xEE, 0xEE, 0xEE, 0, 30, 20, 10]

def enclosedEnd : Bytes := #[0xAA, 0xBB, 0xCC] ++ paddedEnd ++ #[0xDD, 0xEE]

def enclosedWindow : Cursor := ⟨(enclosedEnd.slice 1 28).slice 1 26, 1, 2⟩

theorem enclosedWindow_windowOn : WindowOn enclosedEnd enclosedWindow := by
  have outer : (ofBytes enclosedEnd).subCursor 1 28 = .ok ⟨enclosedEnd.slice 1 28, 0, 1⟩ :=
    subCursor_of_fits (by decide) (by decide)
  have inner : (⟨enclosedEnd.slice 1 28, 0, 1⟩ : Cursor).subCursor 1 26 =
      .ok ⟨(enclosedEnd.slice 1 28).slice 1 26, 0, 2⟩ :=
    subCursor_of_fits (by decide) (by decide)
  exact .moved (.sub (.sub .whole outer) inner) (by decide)

theorem readRecord_paddedEnd :
    WindowOn paddedEnd (ofBytes paddedEnd) ∧ WindowOn enclosedEnd enclosedWindow ∧
    (ofBytes paddedEnd).recordSize = 24 ∧ Record.headerSize ≤ 24 ∧
    24 ≤ (ofBytes paddedEnd).remaining ∧ 24 ≤ enclosedWindow.remaining ∧
    paddedEnd.slice 0 24 = enclosedEnd.slice 3 24 ∧
    ((∃ record, (ofBytes paddedEnd).readRecord = .ok (record, (ofBytes paddedEnd).advance 24) ∧
        enclosedWindow.readRecord = .ok (record, enclosedWindow.advance 24)) ∨
      (∃ fault, (ofBytes paddedEnd).readRecord = .error (.malformedRecord 0 14 fault) ∧
        enclosedWindow.readRecord = .error (.malformedRecord 3 14 fault))) := by
  have declared : (ofBytes paddedEnd).recordSize = 24 := by decide
  have room : 24 ≤ (ofBytes paddedEnd).remaining := by decide
  have room' : 24 ≤ enclosedWindow.remaining := by decide
  have same : paddedEnd.slice 0 24 = enclosedEnd.slice 3 24 := by decide
  have minimal : Record.headerSize ≤ 24 := by decide
  exact ⟨.whole, enclosedWindow_windowOn, declared, minimal, room, room', same,
    readRecord_local .whole enclosedWindow_windowOn declared minimal room room' same⟩

end Cursor

end Metafile
