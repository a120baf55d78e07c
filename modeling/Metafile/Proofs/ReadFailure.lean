import Metafile.Proofs.ReaderAgreement

/-! # Failures of reading a record

The frame alone decides whether the data ends too early. Whatever goes wrong inside the window of a
record is a fault of that record, reported with its tag and the place in the file where it starts.
-/
namespace Metafile.Cursor

variable {data : Bytes} {c : Cursor}

/-- The data ends within the head of the record at a cursor, or before the end that it declares. -/
def EndsEarly (c : Cursor) : Prop :=
  c.remaining < Record.headerSize ∨
    Record.headerSize ≤ c.recordSize ∧ c.remaining < c.recordSize

theorem readRecord_of_endsEarly (early : c.EndsEarly) :
    ∃ needed, c.readRecord = .error (c.unexpectedEnd needed) := by
  rw [readRecord_eq]
  by_cases short : c.remaining < Record.headerSize
  · exact ⟨Record.headerSize, if_pos short⟩
  · rcases early with short' | ⟨minimal, cut⟩
    · contradiction
    · rw [if_neg short, if_neg (by omega), if_pos cut]
      exact ⟨c.recordSize, rfl⟩

theorem readRecord_of_not_endsEarly (enough : ¬ c.EndsEarly) :
    ∃ outcome, c.readRecord = c.frame outcome := by
  rw [EndsEarly, not_or] at enough
  obtain ⟨room, fits⟩ := enough
  rw [readRecord_eq, if_neg room]
  by_cases below : c.recordSize < Record.headerSize
  · rw [if_pos below]
    exact ⟨_, rfl⟩
  · rw [if_neg below, if_neg (by omega)]
    exact ⟨_, rfl⟩

theorem Inside.head_eq (hc : c.Inside data) (room : Record.headerSize ≤ c.remaining) :
    c.recordTag = data.u32At c.absolutePosition ∧
      c.data.u32At (c.pos + 4) = data.u32At (c.absolutePosition + 4) := by
  have head : c.data.slice c.pos 8 = data.slice c.absolutePosition 8 := hc.slice_eq room
  have at_start : ∀ {b : Bytes} {p : Nat}, (b.slice p 8).u32At 0 = b.u32At p :=
    Bytes.u32At_slice (by decide)
  have behind_tag : ∀ {b : Bytes} {p : Nat}, (b.slice p 8).u32At 4 = b.u32At (p + 4) :=
    Bytes.u32At_slice (by decide)
  constructor
  · calc c.recordTag = (c.data.slice c.pos 8).u32At 0 := at_start.symm
      _ = (data.slice c.absolutePosition 8).u32At 0 := by rw [head]
      _ = data.u32At c.absolutePosition := at_start
  · calc c.data.u32At (c.pos + 4) = (c.data.slice c.pos 8).u32At 4 := behind_tag.symm
      _ = (data.slice c.absolutePosition 8).u32At 4 := by rw [head]
      _ = data.u32At (c.absolutePosition + 4) := behind_tag

theorem malformed_of_not_endsEarly {e : Error} (hc : c.Inside data) (enough : ¬ c.EndsEarly)
    (failed : c.readRecord = .error e) :
    ∃ fault, e = .malformedRecord c.absolutePosition (data.u32At c.absolutePosition) fault := by
  have room : Record.headerSize ≤ c.remaining := Nat.not_lt.mp fun short => enough (.inl short)
  obtain ⟨outcome, framed⟩ := readRecord_of_not_endsEarly enough
  rw [framed] at failed
  cases outcome with
  | ok record => cases failed
  | error fault =>
    rw [← (hc.head_eq room).1]
    exact ⟨fault, (Except.error.inj failed).symm⟩

theorem readRecord_of_uninterpreted (hc : c.Inside data) (minimal : Record.headerSize ≤ c.recordSize)
    (room : c.recordSize ≤ c.remaining)
    (unknown : RecordType.ofTag? (data.u32At c.absolutePosition) = none) :
    c.readRecord = .ok (.skip (data.u32At c.absolutePosition) (data.u32At (c.absolutePosition + 4)),
      c.advance c.recordSize) := by
  obtain ⟨tag, size⟩ := hc.head_eq (Nat.le_trans minimal room)
  have length : (c.data.slice c.pos c.recordSize).size = c.recordSize := by
    apply Bytes.size_slice
    have pos_le := hc.pos_le
    unfold remaining at room
    omega
  have skipped : Record.decode c.recordTag (c.data.slice c.pos c.recordSize) =
      .ok (.skip c.recordTag (c.data.u32At (c.pos + 4))) := by
    unfold Record.decode
    rw [tag, unknown, length]
    change Except.ok (Record.skip _ (UInt32.ofNat (c.data.u32At (c.pos + 4)).toNat)) = _
    rw [UInt32.ofNat_toNat]
  rw [readRecord_eq, if_neg (by omega), if_neg (by omega), if_neg (by omega), skipped, ← tag, ← size]
  rfl

/-- Reading ends early exactly where the frame does. Any other failure names the record by its tag
and its place in the file, and that holds of the reader whose own moves and reads could fail. -/
theorem readRecord_error_of_frame (placed : WindowOn data c) :
    ((∃ offset needed available,
        c.readRecord = .error (.unexpectedEnd offset needed available)) ↔ c.EndsEarly) ∧
    (∀ e, c.readRecord = .error e → ¬ c.EndsEarly → ∃ fault,
      e = .malformedRecord c.absolutePosition (data.u32At c.absolutePosition) fault) ∧
    (∀ origin delta length, c.readRecord ≠ .error (.invalidOffset origin delta length)) ∧
    (RecordType.ofTag? (data.u32At c.absolutePosition) = none →
      Record.headerSize ≤ c.recordSize → c.recordSize ≤ c.remaining →
      c.readRecord = .ok (.skip (data.u32At c.absolutePosition)
        (data.u32At (c.absolutePosition + 4)), c.advance c.recordSize)) ∧
    (data.Addressable → c.walkRecord = c.readRecord) := by
  have inside := placed.inside
  refine ⟨⟨?_, ?_⟩, ?_, ?_, ?_, ?_⟩
  · rintro ⟨offset, needed, available, failed⟩
    by_cases early : c.EndsEarly
    · exact early
    · obtain ⟨fault, impossible⟩ := malformed_of_not_endsEarly inside early failed
      cases impossible
  · intro early
    obtain ⟨needed, failed⟩ := readRecord_of_endsEarly early
    exact ⟨_, needed, _, failed⟩
  · intro e failed enough
    exact malformed_of_not_endsEarly inside enough failed
  · intro origin delta length failed
    by_cases early : c.EndsEarly
    · obtain ⟨needed, ended⟩ := readRecord_of_endsEarly early
      rw [ended] at failed
      cases failed
    · obtain ⟨fault, impossible⟩ := malformed_of_not_endsEarly inside early failed
      cases impossible
  · intro unknown minimal room
    exact readRecord_of_uninterpreted inside minimal room unknown
  · exact walkRecord_eq inside

/-- The record that ends a picture, behind two other bytes; its palette would start behind the file,
which is no failure of the frame. -/
def strayEnd : Bytes :=
  #[0xAA, 0xBB, 14, 0, 0, 0, 20, 0, 0, 0, 1, 0, 0, 0, 0xF0, 0xFF, 0xFF, 0xFF, 20, 0, 0, 0]

theorem walkRecord_strayEnd :
    WindowOn strayEnd ⟨strayEnd, 2, 0⟩ ∧ ¬ (⟨strayEnd, 2, 0⟩ : Cursor).EndsEarly ∧
    strayEnd.Addressable ∧
    ∃ fault, (⟨strayEnd, 2, 0⟩ : Cursor).walkRecord = .error (.malformedRecord 2 14 fault) := by
  have placed : WindowOn strayEnd ⟨strayEnd, 2, 0⟩ := .moved .whole (by decide)
  have enough : ¬ (⟨strayEnd, 2, 0⟩ : Cursor).EndsEarly := by
    unfold EndsEarly
    decide
  have memory : strayEnd.Addressable := by
    unfold Bytes.Addressable
    decide
  obtain ⟨-, malformed, -, -, walked⟩ := readRecord_error_of_frame placed
  obtain ⟨e, failed⟩ : ∃ e, (⟨strayEnd, 2, 0⟩ : Cursor).readRecord = .error e := ⟨_, rfl⟩
  obtain ⟨fault, named⟩ := malformed e failed enough
  refine ⟨placed, enough, memory, fault, ?_⟩
  rw [walked memory, failed, named]
  rfl

end Metafile.Cursor
