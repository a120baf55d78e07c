import Metafile.Proofs.Framing
import Metafile.Proofs.Lifetime
import Metafile.Proofs.Success

/-! # The container format

A file is a header record, the records of the body and the record that ends the picture, one behind
the other, and then any bytes at all. Reading a document takes exactly these files apart. -/
namespace Metafile

/-- A record with the bytes it is read from, which are just as many as it declares. -/
structure WholeRecord where
  bytes : Bytes
  record : Record
  minimal : Record.headerSize ≤ bytes.size
  declared : (Cursor.ofBytes bytes).recordSize = bytes.size
  reads : ∃ next, (Cursor.ofBytes bytes).readRecord = .ok (record, next)

/-- The records of a file whose handles are never given out again while they are in use. -/
structure Container where
  head : WholeRecord
  body : List WholeRecord
  tail : WholeRecord
  header : Header
  palette : Palette
  head_record : head.record = .header header
  tail_record : tail.record = .eof palette
  body_open : ∀ w ∈ body, ∀ palette, w.record ≠ .eof palette
  fresh : FreshHandles (body.map (·.record))

namespace Cursor

def ahead (c : Cursor) : Bytes := c.data.extract c.pos c.data.size

theorem ahead_ofBytes (data : Bytes) : (ofBytes data).ahead = data := Array.extract_size

theorem ahead_eq {c : Cursor} {n : Nat} (inside : c.pos + n ≤ c.data.size) :
    c.ahead = c.data.slice c.pos n ++ (c.advance n).ahead := by
  change c.data.extract c.pos c.data.size =
    c.data.extract c.pos (c.pos + n) ++ c.data.extract (c.pos + n) c.data.size
  rw [Array.extract_append_extract, Nat.min_eq_left (by omega), Nat.max_eq_right inside]

/-- What stands first behind a cursor is what a read of as many bytes returns. -/
theorem split_ahead {c : Cursor} {bytes rest : Bytes} (filled : 0 < bytes.size)
    (h : c.ahead = bytes ++ rest) :
    bytes.size ≤ c.remaining ∧ c.data.slice c.pos bytes.size = bytes ∧
      (c.advance bytes.size).ahead = rest := by
  have size : c.ahead.size = bytes.size + rest.size := by rw [h, Array.size_append]
  rw [ahead, Array.size_extract, Nat.min_self] at size
  have inside : c.pos + bytes.size ≤ c.data.size := by omega
  rw [ahead_eq inside] at h
  obtain ⟨first, behind⟩ := Array.append_inj h (Bytes.size_slice inside)
  refine ⟨?_, first, behind⟩
  rw [remaining]
  omega

theorem recordSize_ofBytes_slice {c : Cursor} {n : Nat} (minimal : Record.headerSize ≤ n) :
    (ofBytes (c.data.slice c.pos n)).recordSize = c.recordSize := u32At_size minimal

theorem readRecord_ofBytes {bytes : Bytes} (minimal : Record.headerSize ≤ bytes.size)
    (declared : (ofBytes bytes).recordSize = bytes.size) :
    (ofBytes bytes).readRecord = (ofBytes bytes).frame (Record.decodeWhole bytes) := by
  rw [readRecord_of_fits declared minimal (Nat.le_refl _)]
  change Cursor.frame _ (Record.decodeWhole (bytes.slice 0 bytes.size)) = _
  rw [Bytes.slice_self]

theorem frame_ok {c next : Cursor} {outcome : Except RecordFault Record} {record : Record}
    (h : c.frame outcome = .ok (record, next)) :
    outcome = .ok record ∧ next = c.advance c.recordSize := by
  cases outcome with
  | error fault => cases h
  | ok decoded =>
    cases h
    exact ⟨rfl, rfl⟩

theorem fits_of_readRecord {c next : Cursor} {record : Record}
    (h : c.readRecord = .ok (record, next)) :
    Record.headerSize ≤ c.recordSize ∧ c.recordSize ≤ c.remaining := by
  rw [readRecord_eq] at h
  split at h
  · cases h
  split at h
  · cases h
  split at h
  · cases h
  omega

end Cursor

namespace WholeRecord

def ofDecoded (bytes : Bytes) (record : Record) (minimal : Record.headerSize ≤ bytes.size)
    (declared : (Cursor.ofBytes bytes).recordSize = bytes.size)
    (decoded : Record.decodeWhole bytes = .ok record) : WholeRecord where
  bytes := bytes
  record := record
  minimal := minimal
  declared := declared
  reads := ⟨_, by rw [Cursor.readRecord_ofBytes minimal declared, decoded]; rfl⟩

theorem size_pos (w : WholeRecord) : 0 < w.bytes.size := by
  have minimal := w.minimal
  rw [Record.headerSize] at minimal
  omega

theorem decodes (w : WholeRecord) : Record.decodeWhole w.bytes = .ok w.record := by
  obtain ⟨next, reads⟩ := w.reads
  rw [Cursor.readRecord_ofBytes w.minimal w.declared] at reads
  exact (Cursor.frame_ok reads).1

theorem readRecord_of_ahead {c : Cursor} {rest : Bytes} (w : WholeRecord)
    (h : c.ahead = w.bytes ++ rest) :
    c.readRecord = .ok (w.record, c.advance w.bytes.size) := by
  obtain ⟨room, first, -⟩ := Cursor.split_ahead w.size_pos h
  have declared : c.recordSize = w.bytes.size := by
    rw [← Cursor.recordSize_ofBytes_slice w.minimal, first, w.declared]
  rw [Cursor.readRecord_of_fits declared w.minimal room, first, w.decodes, Cursor.frame, declared]

theorem exists_of_readRecord {c next : Cursor} {record : Record}
    (h : c.readRecord = .ok (record, next)) :
    ∃ w : WholeRecord, w.record = record ∧ c.ahead = w.bytes ++ next.ahead ∧
      next = c.advance w.bytes.size := by
  obtain ⟨minimal, room⟩ := Cursor.fits_of_readRecord h
  rw [Cursor.readRecord_of_fits rfl minimal room] at h
  obtain ⟨decoded, rfl⟩ := Cursor.frame_ok h
  have inside : c.pos + c.recordSize ≤ c.data.size := by
    simp only [Cursor.remaining] at room
    simp only [Record.headerSize] at minimal
    omega
  have size := Bytes.size_slice inside
  have declared := (Cursor.recordSize_ofBytes_slice minimal).trans size.symm
  rw [← size] at minimal
  refine ⟨ofDecoded _ record minimal declared decoded, rfl, Cursor.ahead_eq inside, ?_⟩
  exact congrArg c.advance size.symm

def concat (records : List WholeRecord) : Bytes :=
  records.foldr (fun w bytes => w.bytes ++ bytes) #[]

@[simp] theorem concat_nil : concat [] = #[] := rfl

@[simp] theorem concat_cons (w : WholeRecord) (records : List WholeRecord) :
    concat (w :: records) = w.bytes ++ concat records := rfl

def inBody (w : WholeRecord) : Record := Document.inBody w.record w.bytes.size

end WholeRecord

namespace Container

def bytes (c : Container) : Bytes :=
  c.head.bytes ++ WholeRecord.concat c.body ++ c.tail.bytes

def document (c : Container) : Document where
  header := c.header
  records := c.body.map WholeRecord.inBody
  palette := c.palette

end Container

namespace Document

theorem after?_inBody (live : LiveHandles) (record : Record) (size : Nat) :
    live.after? (inBody record size) = live.after? record := by
  cases record <;> rfl

theorem isExhausted_of_readRecord {c next : Cursor} {record : Record}
    (h : c.readRecord = .ok (record, next)) : c.isExhausted = false := by
  obtain ⟨-, -, pastHead, inside⟩ := Cursor.readRecord_advances h
  simp only [Record.headerSize] at pastHead
  simp only [Cursor.isExhausted, Cursor.remaining, beq_eq_false_iff_ne]
  omega

theorem readBody_of_eof {c next : Cursor} {live : LiveHandles} {palette : Palette}
    (h : c.readRecord = .ok (.eof palette, next)) : readBody c live = .ok ([], palette) := by
  rw [readBody, isExhausted_of_readRecord h]
  simp only [Bool.false_eq_true, if_false]
  split
  · rename_i failed
    rw [h] at failed
    cases failed
  · rename_i ended
    rw [h] at ended
    cases ended
    rfl
  · rename_i isOpen read
    rw [h] at read
    cases read
    exact (isOpen palette rfl).elim

theorem readBody_of_record {c next : Cursor} {live after : LiveHandles} {record : Record}
    (h : c.readRecord = .ok (record, next)) (isOpen : ∀ palette, record ≠ .eof palette)
    (step : live.after? record = some after) :
    readBody c live = (readBody next after).map fun (records, palette) =>
      (inBody record (next.pos - c.pos) :: records, palette) := by
  rw [readBody, isExhausted_of_readRecord h]
  simp only [Bool.false_eq_true, if_false]
  split
  · rename_i failed
    rw [h] at failed
    cases failed
  · rename_i palette _ ended
    rw [h] at ended
    cases ended
    exact absurd rfl (isOpen palette)
  · rename_i read
    rw [h] at read
    cases read
    simp only [after?_inBody, step]

theorem readBody_of_ahead {c : Cursor} {live final : LiveHandles} {body : List WholeRecord}
    {tail : WholeRecord} {palette : Palette} {rest : Bytes}
    (split : c.ahead = WholeRecord.concat body ++ tail.bytes ++ rest)
    (isOpen : ∀ w ∈ body, ∀ palette, w.record ≠ .eof palette)
    (ends : tail.record = .eof palette)
    (run : live.afterAll? (body.map (·.record)) = some final) :
    readBody c live = .ok (body.map WholeRecord.inBody, palette) := by
  induction body generalizing c live with
  | nil =>
    have reads := tail.readRecord_of_ahead (show c.ahead = tail.bytes ++ rest by simpa using split)
    rw [ends] at reads
    exact readBody_of_eof reads
  | cons w body ih =>
    obtain ⟨after, step, run⟩ := Option.bind_eq_some_iff.mp run
    rw [WholeRecord.concat_cons, Array.append_assoc, Array.append_assoc] at split
    have reads := w.readRecord_of_ahead split
    obtain ⟨-, -, behind⟩ := Cursor.split_ahead w.size_pos split
    rw [readBody_of_record reads (isOpen w (by simp)) step,
      ih (by rw [behind, Array.append_assoc]) (fun w hw => isOpen w (by simp [hw])) run]
    change Except.ok (inBody w.record (c.pos + w.bytes.size - c.pos) :: _, palette) = _
    rw [Nat.add_sub_cancel_left]
    rfl

/-- A body that has been read is a run of records with the one that ends it. -/
theorem exists_of_readBody {c : Cursor} {live : LiveHandles} {records : List Record}
    {palette : Palette} (h : readBody c live = .ok (records, palette)) :
    ∃ (body : List WholeRecord) (tail : WholeRecord) (rest : Bytes) (final : LiveHandles),
      c.ahead = WholeRecord.concat body ++ tail.bytes ++ rest ∧
      (∀ w ∈ body, ∀ palette, w.record ≠ .eof palette) ∧ tail.record = .eof palette ∧
      live.afterAll? (body.map (·.record)) = some final ∧
      body.map WholeRecord.inBody = records := by
  fun_induction readBody c live generalizing records with
  | case1 | case2 | case4 => cases h
  | case3 c live _ palette next ends =>
    cases h
    obtain ⟨tail, record, split, -⟩ := WholeRecord.exists_of_readRecord ends
    refine ⟨[], tail, next.ahead, live, ?_, ?_, record, rfl, rfl⟩
    · simpa using split
    · intro w member
      cases member
  | case5 c live _ record next isOpen read _ after step =>
    rename_i ih
    obtain ⟨⟨more, palette⟩, run, same⟩ := of_map_ok h
    cases same
    obtain ⟨body, tail, rest, final, split, bodyOpen, ends, kept, rfl⟩ := ih run
    obtain ⟨w, rfl, ahead, rfl⟩ := WholeRecord.exists_of_readRecord read
    rw [after?_inBody] at step
    refine ⟨w :: body, tail, rest, final, ?_, ?_, ends, ?_, ?_⟩
    · rw [ahead, split, WholeRecord.concat_cons]
      simp only [Array.append_assoc]
    · rintro v (_ | ⟨_, inside⟩)
      · exact isOpen
      · exact bodyOpen v inside
    · exact Option.bind_eq_some_iff.mpr ⟨after, step, kept⟩
    · change _ :: _ = Document.inBody w.record (c.pos + w.bytes.size - c.pos) :: _
      rw [Nat.add_sub_cancel_left]
      rfl

theorem parse_of_header {data : Bytes} {header : Header} {next : Cursor}
    (read : (Cursor.ofBytes data).readRecord = .ok (.header header, next)) :
    parse data = (readBody next []).map fun (records, palette) =>
      { header, records, palette } := by
  obtain ⟨minimal, room⟩ := Cursor.fits_of_readRecord read
  have word : ¬ (Cursor.ofBytes data).remaining < FixedLayout.width UInt32 := by
    simp only [Record.headerSize] at minimal
    change ¬ _ < 4
    omega
  have tagged : ∃ out, (Cursor.ofBytes data).read UInt32 = .ok out := by
    rw [Cursor.read, Cursor.readBytes_eq, if_neg word]
    exact ⟨_, rfl⟩
  obtain ⟨⟨tag, _⟩, tagged⟩ := tagged
  simp only [parse, bind, Except.bind, tagged, read]
  cases readBody next [] <;> rfl

end Document

theorem LiveHandles.afterAll?_iff_fresh (records : List Record) :
    (∃ final, afterAll? [] records = some final) ↔ FreshHandles records :=
  exact_nil.run_iff_fresh freshHandles_nil records

namespace Container

theorem parse (c : Container) (rest : Bytes) :
    Document.parse (c.bytes ++ rest) = .ok c.document := by
  have ahead : (Cursor.ofBytes (c.bytes ++ rest)).ahead =
      c.head.bytes ++ (WholeRecord.concat c.body ++ c.tail.bytes ++ rest) := by
    rw [Cursor.ahead_ofBytes, bytes]
    simp only [Array.append_assoc]
  obtain ⟨-, -, behind⟩ := Cursor.split_ahead c.head.size_pos ahead
  obtain ⟨final, run⟩ := (LiveHandles.afterAll?_iff_fresh _).mpr c.fresh
  have first := c.head.readRecord_of_ahead ahead
  rw [c.head_record] at first
  rw [Document.parse_of_header first,
    Document.readBody_of_ahead behind c.body_open c.tail_record run]
  rfl

end Container

theorem Document.exists_container {data : Bytes} {d : Document} (parsed : parse data = .ok d) :
    ∃ (c : Container) (rest : Bytes), data = c.bytes ++ rest ∧ c.document = d := by
  obtain ⟨⟨tag, _⟩, -, parsed⟩ := of_bind_ok parsed
  obtain ⟨⟨first, next⟩, read, parsed⟩ := of_bind_ok parsed
  obtain ⟨head, rfl, ahead, rfl⟩ := WholeRecord.exists_of_readRecord read
  cases kind : head.record
  case header header =>
    rw [kind] at parsed
    obtain ⟨⟨records, palette⟩, bodyRead, parsed⟩ := of_bind_ok parsed
    cases parsed
    obtain ⟨body, tail, rest, final, split, bodyOpen, ends, run, rfl⟩ := exists_of_readBody bodyRead
    have fresh := (LiveHandles.afterAll?_iff_fresh _).mp ⟨final, run⟩
    refine ⟨⟨head, body, tail, header, palette, kind, ends, bodyOpen, fresh⟩, rest, ?_, rfl⟩
    rw [← Cursor.ahead_ofBytes data, ahead, split, Container.bytes]
    simp only [Array.append_assoc]
  all_goals
    rw [kind] at parsed
    cases parsed

/-- Reading succeeds on just the files of the format, and gives the document that they hold. -/
theorem Document.parse_eq_ok_iff (data : Bytes) (d : Document) :
    parse data = .ok d ↔
      ∃ (c : Container) (rest : Bytes), data = c.bytes ++ rest ∧ c.document = d := by
  constructor
  · exact exists_container
  · rintro ⟨c, rest, rfl, rfl⟩
    exact c.parse rest

namespace Container

/-- A file of two by two pixels that creates a pen, draws a line with it and deletes it. -/
def penFile : Container where
  head := .ofDecoded
    #[1, 0, 0, 0, 88, 0, 0, 0, 0, 0, 0, 0, 0, 0, 0, 0, 1, 0, 0, 0, 1, 0,
      0, 0, 0, 0, 0, 0, 0, 0, 0, 0, 0, 0, 0, 0, 0, 0, 0, 0, 0x20, 0x45, 0x4D, 0x46,
      0, 0, 1, 0, 0, 0, 0, 0, 0, 0, 0, 0, 0, 0, 0, 0, 0, 0, 0, 0, 0, 0,
      0, 0, 0, 0, 0, 0, 0, 0, 0, 0, 0, 0, 0, 0, 0, 0, 0, 0, 0, 0, 0, 0]
    (.header ⟨⟨0, 0, 1, 1⟩, ⟨0, 0, 0, 0⟩, 0x10000, 0, 0, 0, 0, ⟨0, 0⟩, ⟨0, 0⟩, ""⟩)
    (by decide) (by decide) rfl
  body :=
    [.ofDecoded
      #[38, 0, 0, 0, 28, 0, 0, 0, 1, 0, 0, 0, 0, 0, 0, 0, 1, 0, 0, 0, 0, 0, 0, 0, 255, 0, 0, 0]
      (.createPen 1 ⟨0, 1, ⟨255⟩⟩) (by decide) (by decide) rfl,
    .ofDecoded #[37, 0, 0, 0, 12, 0, 0, 0, 1, 0, 0, 0]
      (.selectObject 1) (by decide) (by decide) rfl,
    .ofDecoded #[54, 0, 0, 0, 16, 0, 0, 0, 1, 0, 0, 0, 1, 0, 0, 0]
      (.lineTo ⟨1, 1⟩) (by decide) (by decide) rfl,
    .ofDecoded #[40, 0, 0, 0, 12, 0, 0, 0, 1, 0, 0, 0]
      (.deleteObject 1) (by decide) (by decide) rfl]
  tail := .ofDecoded Cursor.paddedEnd (.eof [⟨0, 30, 20, 10⟩]) (by decide) (by decide) rfl
  header := _
  palette := _
  head_record := rfl
  tail_record := rfl
  body_open := by simp [WholeRecord.ofDecoded]
  fresh := (LiveHandles.afterAll?_iff_fresh _).mp ⟨_, rfl⟩

end Container

end Metafile
