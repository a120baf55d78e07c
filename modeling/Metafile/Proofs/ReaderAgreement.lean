import Metafile.Proofs.Framing
import Metafile.Proofs.WindowReading

/-! # The record reader agrees with the decoder

For each type of record the reader that moves a cursor comes to what the decoder of that type comes
to, and so reading a record is the same either way. -/
namespace Metafile

namespace Bytes

variable {w : Bytes} {n i : Nat}

theorem byteAt_front (h : i < n) : (w.slice 0 n).byteAt i = w.byteAt i := by
  rw [byteAt_slice h, Nat.zero_add]

theorem u16At_front (h : i + 2 ≤ n) : (w.slice 0 n).u16At i = w.u16At i := by
  rw [u16At_slice h, Nat.zero_add]

theorem u32At_front (h : i + 4 ≤ n) : (w.slice 0 n).u32At i = w.u32At i := by
  rw [u32At_slice h, Nat.zero_add]

theorem i32At_front (h : i + 4 ≤ n) : (w.slice 0 n).i32At i = w.i32At i := by
  rw [i32At_slice h, Nat.zero_add]

theorem f32At_front (h : i + 4 ≤ n) : (w.slice 0 n).f32At i = w.f32At i := by
  rw [f32At_slice h, Nat.zero_add]

theorem valueAt_front {α : Type} [FixedLayout α] (h : i + FixedLayout.width α ≤ n) :
    (w.slice 0 n).valueAt α i = w.valueAt α i := by
  rw [valueAt_slice h, Nat.zero_add]

theorem valuesAt_front {α : Type} [FixedLayout α] {count : Nat}
    (h : i + count * FixedLayout.width α ≤ n) :
    (w.slice 0 n).valuesAt α i count = w.valuesAt α i count := by
  rw [valuesAt_slice h, Nat.zero_add]

end Bytes

namespace RecordReader

variable {w : Bytes} {pos : Nat} (small : w.size < UInt32.size)
include small

theorem header_follows : Follows w pos header (Record.decodeHeader w) := by
  refine fixed_bind small fun room => ?_
  simp (disch := decide) only [Bytes.u32At_front, Bytes.u16At_front, Bytes.valueAt_front]
  refine .refuse fun _ => ?_
  refine .ite (fun _ => ?_) fun _ => ?_
  · exact .yields (arrayAt_follows small _ _ _) _
  · exact .yields (.pure room _) _

theorem eof_follows : Follows w pos eof (Record.decodeEof w) := by
  refine fixed_bind small fun room => ?_
  simp (disch := decide) only [Bytes.u32At_front]
  exact .ite (fun _ => arrayAt_follows small _ _ _) fun _ => .pure room _

theorem field_follows (α : Type) [FixedLayout α] :
    Follows w pos (field α) (Record.decodeField α w) := by
  refine fixedOnly_follows small (fun w => .ok (w.valueAt α Record.headerSize))
    (fun _ => rfl) ?_
  rw [Bytes.valueAt_front (Nat.le_refl _)]

theorem modifyWorldTransform_follows :
    Follows w pos (fixedOnly 36 (Record.decodeAs · .modifyWorldTransform))
      (Record.decodeAs w .modifyWorldTransform) := by
  refine fixedOnly_follows small
    (fun w => .ok (.modifyWorldTransform (w.valueAt Transform 8) (w.u32At 32)))
    (fun _ => rfl) ?_
  simp (disch := decide) only [Bytes.u32At_front, Bytes.valueAt_front]

theorem pen_follows : Follows w pos (fixedOnly 28 Record.decodePen) (Record.decodePen w) := by
  refine fixedOnly_follows small _ (fun _ => rfl) ?_
  simp (disch := decide) only [Bytes.u32At_front, Bytes.i32At_front, Bytes.valueAt_front]

theorem brush_follows :
    Follows w pos (fixedOnly 24 Record.decodeBrush) (Record.decodeBrush w) := by
  refine fixedOnly_follows small _ (fun _ => rfl) ?_
  simp (disch := decide) only [Bytes.u32At_front, Bytes.valueAt_front]

theorem font_follows :
    Follows w pos (fixedOnly 104 Record.decodeFont) (Record.decodeFont w) := by
  refine fixedOnly_follows small _ (fun _ => rfl) ?_
  simp (disch := decide) only [Record.decodeFaceName, Bytes.u32At_front, Bytes.i32At_front,
    Bytes.byteAt_front, Bytes.valuesAt_front]

theorem setPixelV_follows :
    Follows w pos (fixedOnly 20 (Record.decodeAs · .setPixelV))
      (Record.decodeAs w .setPixelV) := by
  refine fixedOnly_follows small
    (fun w => .ok (.setPixelV (w.valueAt Point 8) (w.valueAt ColorRef 16)))
    (fun _ => rfl) ?_
  simp (disch := decide) only [Bytes.valueAt_front]

omit small in
theorem arrayFrom_one {α : Type} [FixedLayout α] :
    Record.arrayFrom α w pos 1 =
      if w.size - pos < FixedLayout.width α then
        .error (.elementsOverrun 1 (FixedLayout.width α))
      else .ok [w.valueAt α pos] := by
  unfold Record.arrayFrom
  rw [Nat.one_mul]
  change (if _ then _ else Except.ok [w.valueAt α (pos + 0 * FixedLayout.width α)]) = _
  rw [Nat.zero_mul, Nat.add_zero]

theorem here_lands (α : Type) [FixedLayout α] :
    Lands w pos (pos + FixedLayout.width α) (here α)
      (if w.size - pos < FixedLayout.width α then
        throw (.elementsOverrun 1 (FixedLayout.width α))
      else pure (w.valueAt α pos)) := by
  intro tag base
  change Except.bind (array α 1 tag ⟨w, pos, base⟩) _ = _
  rw [array_lands small α 1 tag base, show UInt32.toNat 1 = 1 from rfl, arrayFrom_one, Nat.one_mul]
  by_cases cut : w.size - pos < FixedLayout.width α
  · rw [if_pos cut, if_pos cut]
    rfl
  · rw [if_neg cut, if_neg cut]
    rfl

theorem region_follows : Follows w pos region (Record.decodeRegion w) := by
  refine fixed_bind small fun room => ?_
  simp (disch := decide) only [Bytes.u32At_front]
  refine .ite (fun _ => .pure room _) fun _ => ?_
  refine .refuse fun _ => ?_
  have head : Lands w 16 48 (here RegionHead) (if w.size - 16 < 32 then _ else _) :=
    here_lands small RegionHead
  by_cases cut : w.size - 16 < 32
  · rw [if_pos cut] at head ⊢
    exact head.stops
  have count : (w.valueAt RegionHead 16).count = w.u32At 24 := Bytes.u32At_slice (by decide)
  have bounds : (w.valueAt RegionHead 16).bounds = w.valueAt Rect 32 :=
    congrArg FixedLayout.ofBytes (Bytes.slice_slice (by decide))
  rw [if_neg cut] at head ⊢
  rw [← count, ← bounds]
  change Follows w 16 _ (pure (w.valueAt RegionHead 16) >>= fun head : RegionHead =>
    Record.arrayFrom Rect w 48 head.count.toNat >>= fun rects =>
      pure (Record.extSelectClipRgn (w.u32At 12) (some ⟨head.bounds, rects⟩)))
  refine head.bind fun value _ => ?_
  exact .yields (array_follows small Rect _ (by omega)) _

theorem extPen_follows : Follows w pos extPen (Record.decodeExtPen w) := by
  refine fixed_bind small fun room => ?_
  simp (disch := decide) only [Bytes.u32At_front, Bytes.valueAt_front]
  refine (require_lands _).bind fun _ _ => ?_
  refine .ite (fun _ => ?_) fun _ => ?_
  · exact .yields (array_follows small _ _ room) _
  · exact .yields (.pure room _) _

theorem patternBrush_follows : Follows w pos patternBrush (Record.decodePatternBrush w) := by
  refine fixed_bind small fun room => ?_
  simp (disch := decide) only [Bytes.u32At_front, Bytes.valueAt_front]
  refine (require_lands _).bind fun _ _ => ?_
  refine .bind (embeddedBitmap_follows small room _) fun bitmap stop inside => ?_
  cases bitmap with
  | none => exact .malformed .patternWithoutBitmap
  | some dib => exact .pure inside _

theorem palette_follows : Follows w pos palette (Record.decodePalette w) := by
  refine fixed_bind small fun room => ?_
  simp (disch := decide) only [Bytes.u32At_front, Bytes.u16At_front]
  refine (require_lands _).bind fun _ _ => ?_
  rw [← UInt16.toNat_toUInt32]
  exact .yields (array_follows small _ _ room) _

theorem points_follows (wide : Bool) (count : UInt32) (inside : pos ≤ w.size) :
    Follows w pos (points wide count) (Record.pointsFrom wide w pos count.toNat) := by
  cases wide with
  | true => exact array_follows small Point count inside
  | false => exact .map _ (array_follows small ShortPoint count inside)

theorem poly_follows (wide : Bool) : Follows w pos (poly wide) (Record.decodePoly wide w) := by
  refine fixed_bind small fun room => ?_
  simp (disch := decide) only [Bytes.u32At_front, Bytes.valueAt_front]
  exact .yields (points_follows small wide _ room) _

theorem bezier_follows (wide continues : Bool) :
    Follows w pos (bezier wide continues) (Record.decodeBezier wide continues w) := by
  refine .bind (poly_follows small wide) fun poly stop inside => ?_
  exact .ite (fun _ => .pure inside poly) fun _ => .malformed _

theorem polyPoly_follows (wide : Bool) :
    Follows w pos (polyPoly wide) (Record.decodePolyPoly wide w) := by
  refine fixed_bind small fun room => ?_
  simp (disch := decide) only [Bytes.u32At_front, Bytes.valueAt_front]
  refine (array_lands small UInt32 _).bind fun counts decoded => ?_
  have inside := size_of_arrayFrom room decoded
  refine .refuse fun _ => ?_
  exact .yields (points_follows small wide _ inside) _

theorem bitBlt_follows : Follows w pos bitBlt (Record.decodeBitBlt w) := by
  refine fixed_bind small fun room => ?_
  simp (disch := decide) only [transfer, Bytes.u32At_front, Bytes.i32At_front, Bytes.valueAt_front]
  exact .yields (embeddedBitmap_follows small room _) _

theorem stretchBlt_follows : Follows w pos stretchBlt (Record.decodeStretchBlt w) := by
  refine fixed_bind small fun room => ?_
  simp (disch := decide) only [transfer, Bytes.u32At_front, Bytes.i32At_front, Bytes.valueAt_front]
  exact .yields (embeddedBitmap_follows small room _) _

theorem stretchDiBits_follows : Follows w pos stretchDiBits (Record.decodeStretchDiBits w) := by
  refine fixed_bind small fun room => ?_
  simp (disch := decide) only [Bytes.u32At_front, Bytes.i32At_front, Bytes.valueAt_front]
  exact .yields (embeddedBitmap_follows small room _) _

theorem textRun_follows (wide : Bool) (room : 76 ≤ w.size) :
    Follows w 76 (textRun wide (w.slice 0 76)) (Record.decodeTextRun wide w) := by
  unfold textRun Record.decodeTextRun
  simp (disch := decide) only [Bytes.u32At_front, Bytes.valueAt_front]
  refine .ite (fun _ => .pure room _) fun _ => ?_
  refine .refuse fun _ => ?_
  refine .ite (fun _ => .bind (arrayAt_follows small UInt16 _ _) ?_)
    fun _ => .bind (.map _ (bytesAt_follows small _ _)) ?_
  all_goals
    intro codeUnits stop inside
    refine .ite (fun _ => ?_) fun _ => ?_
    · refine .refuse fun _ => ?_
      exact .yields (arrayAt_follows small Int32 _ _) _
    · exact .yields (arrayAt_follows small Int32 _ _) _

theorem textOut_follows (wide : Bool) :
    Follows w pos (textOut wide) (Record.decodeTextOut wide w) := by
  refine fixed_bind small fun room => ?_
  simp (disch := decide) only [Bytes.u32At_front, Bytes.f32At_front, Bytes.valueAt_front]
  exact .yields (textRun_follows small wide room) _

theorem readAs_follows (inside : pos ≤ w.size) (type : RecordType) :
    Follows w pos (readAs type) (Record.decodeAs w type) := by
  cases type with
  | header => exact .map _ (header_follows small)
  | eof => exact .map _ (eof_follows small)
  | modifyWorldTransform => exact modifyWorldTransform_follows small
  | saveDc => exact .pure inside _
  | extSelectClipRgn => exact region_follows small
  | createPen => exact pen_follows small
  | extCreatePen => exact extPen_follows small
  | createBrushIndirect => exact brush_follows small
  | createDibPatternBrushPt => exact patternBrush_follows small
  | extCreateFontIndirectW => exact font_follows small
  | createPalette => exact palette_follows small
  | setPixelV => exact setPixelV_follows small
  | polyBezier => exact .map _ (bezier_follows small true false)
  | polyBezier16 => exact .map _ (bezier_follows small false false)
  | polyBezierTo => exact .map _ (bezier_follows small true true)
  | polyBezierTo16 => exact .map _ (bezier_follows small false true)
  | polygon | polyline | polyLineTo => exact .map _ (poly_follows small true)
  | polygon16 | polyline16 | polyLineTo16 => exact .map _ (poly_follows small false)
  | polyPolyline | polyPolygon => exact .map _ (polyPoly_follows small true)
  | polyPolyline16 | polyPolygon16 => exact .map _ (polyPoly_follows small false)
  | bitBlt => exact .map _ (bitBlt_follows small)
  | stretchBlt => exact .map _ (stretchBlt_follows small)
  | stretchDiBits => exact .map _ (stretchDiBits_follows small)
  | extTextOutA => exact .map _ (textOut_follows small false)
  | extTextOutW => exact .map _ (textOut_follows small true)
  | _ => exact .map _ (field_follows small _)

theorem record_follows (tag : UInt32) (base : Nat) :
    ∃ stop ≤ w.size, record tag ⟨w, 0, base⟩ = landed w stop tag base (Record.decode tag w) := by
  unfold record Record.decode
  cases RecordType.ofTag? tag with
  | none => exact ⟨0, Nat.zero_le _, rfl⟩
  | some type => exact readAs_follows small (Nat.zero_le _) type tag base

end RecordReader

namespace Cursor

variable {data : Bytes} {c : Cursor} (hc : c.Inside data) (memory : data.Addressable)
include hc

theorem record_inWindow (room : c.recordSize ≤ c.remaining) :
    ∃ stop, RecordReader.record c.recordTag
        ⟨c.data.slice c.pos c.recordSize, 0, c.absolutePosition⟩ =
      RecordReader.landed (c.data.slice c.pos c.recordSize) stop c.recordTag c.absolutePosition
        (Record.decode c.recordTag (c.data.slice c.pos c.recordSize)) := by
  have size : (c.data.slice c.pos c.recordSize).size = c.recordSize := by
    have pos_le := hc.pos_le
    unfold remaining at room
    exact Bytes.size_slice (by omega)
  have small : (c.data.slice c.pos c.recordSize).size < UInt32.size := by
    rw [size]
    exact UInt32.toNat_lt _
  obtain ⟨stop, -, read⟩ := RecordReader.record_follows small c.recordTag c.absolutePosition
  exact ⟨stop, read⟩

include memory

theorem subCursor_here (behind : Cursor) (size : UInt32)
    (same : behind.data = c.data ∧ behind.base = c.base) :
    behind.subCursor (UInt64.ofNat c.pos) size.toUInt64 =
      if c.remaining < size.toNat then .error (c.unexpectedEnd size.toNat)
      else .ok ⟨c.data.slice c.pos size.toNat, 0, c.absolutePosition⟩ := by
  have fits := hc.fits
  have pos_le := hc.pos_le
  have bound := size.toNat_lt
  unfold Bytes.Addressable at memory
  have pos : (UInt64.ofNat c.pos).toNat = c.pos := toNat_word (by omega)
  have offset : (UInt64.ofNat c.base + UInt64.ofNat c.pos).toNat = c.absolutePosition := by
    rw [← UInt64.ofNat_add]
    exact toNat_word (by omega)
  unfold subCursor
  rw [same.1, same.2, pos, offset, UInt32.toNat_toUInt64]
  unfold remaining
  by_cases cut : c.data.size - c.pos < size.toNat
  · rw [if_pos cut, if_neg (by omega)]
    rfl
  · have word : c.pos + size.toNat < UInt64.size := by
      rw [UInt64.size]
      omega
    rw [if_neg cut, if_pos ⟨by omega, word⟩]
    rfl

theorem seekTo_behind (behind : Cursor) (same : behind.data = c.data ∧ behind.base = c.base)
    (room : c.recordSize ≤ c.remaining) :
    behind.seekTo (UInt64.ofNat (c.pos + c.recordSize)) = .ok (c.advance c.recordSize) := by
  have fits := hc.fits
  have pos_le := hc.pos_le
  unfold remaining at room
  unfold Bytes.Addressable at memory
  have landing : (UInt64.ofNat (c.pos + c.recordSize)).toNat = c.pos + c.recordSize :=
    toNat_word (by omega)
  have inside : (UInt64.ofNat (c.pos + c.recordSize)).toNat ≤ behind.data.size := by
    rw [landing, same.1]
    omega
  have addressable : behind.data.Addressable := by
    rw [same.1, Bytes.Addressable]
    omega
  rw [seekTo_of_le inside addressable, landing]
  obtain ⟨bytes, pos, base⟩ := behind
  obtain ⟨rfl, rfl⟩ := same
  rfl

/-- Reading a record by a cursor of its own gives what decoding gives, errors included. -/
theorem walkRecord_eq : c.walkRecord = c.readRecord := by
  unfold walkRecord
  rw [readRecord_eq, read_recordHead]
  by_cases short : c.remaining < Record.headerSize
  · rw [if_pos short, if_pos short]
    rfl
  rw [if_neg short, if_neg short]
  change (if c.recordSize < Record.headerSize then _ else
    Except.bind (subCursor _ _ (c.data.u32At (c.pos + 4)).toUInt64) _) = _
  by_cases below : c.recordSize < Record.headerSize
  · have back : (c.advance Record.headerSize).absolutePosition - Record.headerSize =
        c.absolutePosition := by
      simp only [absolutePosition, advance]
      omega
    rw [if_pos below, if_pos below]
    change Except.error (Error.malformedRecord _ _ _) = _
    rw [back]
    rfl
  rw [if_neg below, if_neg below,
    subCursor_here hc memory (c.advance Record.headerSize) (c.data.u32At (c.pos + 4)) ⟨rfl, rfl⟩]
  change Except.bind (if c.remaining < c.recordSize then _ else _) _ = _
  by_cases cut : c.remaining < c.recordSize
  · rw [if_pos cut, if_pos cut]
    rfl
  rw [if_neg cut, if_neg cut]
  have room : c.recordSize ≤ c.remaining := Nat.not_lt.mp cut
  obtain ⟨stop, read⟩ := record_inWindow hc room
  change Except.bind (RecordReader.record c.recordTag
    ⟨c.data.slice c.pos c.recordSize, 0, c.absolutePosition⟩) (fun read =>
      Except.bind ((c.advance Record.headerSize).seekTo (UInt64.ofNat (c.pos + c.recordSize)))
        fun next => .ok (read.1, next)) = _
  rw [read, seekTo_behind hc memory (c.advance Record.headerSize) ⟨rfl, rfl⟩ room]
  cases Record.decode c.recordTag (c.data.slice c.pos c.recordSize) <;> rfl

end Cursor

theorem Cursor.walkRecord_local {data data' : Bytes} {c c' : Cursor} {n : Nat}
    (hc : WindowOn data c) (hc' : WindowOn data' c') (memory : data.Addressable)
    (memory' : data'.Addressable) (declared : c.recordSize = n)
    (minimal : Record.headerSize ≤ n) (room : n ≤ c.remaining) (room' : n ≤ c'.remaining)
    (same : data.slice c.absolutePosition n = data'.slice c'.absolutePosition n) :
    (∃ record, c.walkRecord = .ok (record, c.advance n) ∧
      c'.walkRecord = .ok (record, c'.advance n)) ∨
    (∃ fault, c.walkRecord = .error (.malformedRecord c.absolutePosition c.recordTag fault) ∧
      c'.walkRecord = .error (.malformedRecord c'.absolutePosition c.recordTag fault)) := by
  obtain ⟨tag, declared', result, read, read'⟩ :=
    readRecord_of_same hc hc' declared minimal room room' same
  rw [walkRecord_eq hc.inside memory, walkRecord_eq hc'.inside memory', read, read']
  exact frame_local declared declared' tag result

end Metafile
