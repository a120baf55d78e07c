import Metafile.Proofs.Container
import Metafile.Proofs.Sections

/-! # Padded records

A decoder takes lengths from count fields and never from the size of its record. Bytes that are put
behind a record, with its declared size raised by as many, leave what it decodes to as it was. -/
namespace Metafile

namespace Bytes

theorem toNat_u16At (b : Bytes) (i : Nat) :
    (b.u16At i).toNat = (b.byteAt i).toNat + 256 * (b.byteAt (i + 1)).toNat := by
  have low : (b.byteAt i).toNat < 256 := (b.byteAt i).toNat_lt
  have high := (b.byteAt (i + 1)).toNat_lt
  rw [u16At, UInt16.toNat_or, UInt16.toNat_shiftLeft, UInt8.toNat_toUInt16, UInt8.toNat_toUInt16]
  change _ ||| (b.byteAt (i + 1)).toNat <<< 8 % 65536 = _
  rw [Nat.shiftLeft_eq, Nat.mod_eq_of_lt (by omega), Nat.or_comm, Nat.mul_comm,
    ← Nat.two_pow_add_eq_or_of_lt low, Nat.add_comm]

theorem toNat_u32At (b : Bytes) (i : Nat) :
    (b.u32At i).toNat = (b.u16At i).toNat + 65536 * (b.u16At (i + 2)).toNat := by
  have low : (b.u16At i).toNat < 65536 := (b.u16At i).toNat_lt
  have high := (b.u16At (i + 2)).toNat_lt
  rw [u32At, UInt32.toNat_or, UInt32.toNat_shiftLeft, UInt16.toNat_toUInt32, UInt16.toNat_toUInt32]
  change _ ||| (b.u16At (i + 2)).toNat <<< 16 % 4294967296 = _
  rw [Nat.shiftLeft_eq, Nat.mod_eq_of_lt (by omega), Nat.or_comm, Nat.mul_comm,
    ← Nat.two_pow_add_eq_or_of_lt low, Nat.add_comm]

def ofU32 (n : UInt32) : Bytes :=
  #[n.toUInt8, (n >>> 8).toUInt8, (n >>> 16).toUInt8, (n >>> 24).toUInt8]

theorem u32At_ofU32 (n : UInt32) : (ofU32 n).u32At 0 = n := by
  have small := n.toNat_lt
  have bytes : (ofU32 n).byteAt 0 = n.toUInt8 ∧ (ofU32 n).byteAt 1 = (n >>> 8).toUInt8 ∧
      (ofU32 n).byteAt 2 = (n >>> 16).toUInt8 ∧ (ofU32 n).byteAt 3 = (n >>> 24).toUInt8 :=
    ⟨rfl, rfl, rfl, rfl⟩
  obtain ⟨first, second, third, fourth⟩ := bytes
  rw [← UInt32.toNat_inj, toNat_u32At, toNat_u16At, toNat_u16At, first, second, third, fourth]
  simp only [UInt32.toNat_toUInt8, UInt32.toNat_shiftRight, Nat.shiftRight_eq_div_pow]
  change n.toNat % 256 + 256 * (n.toNat / 256 % 256) +
    65536 * (n.toNat / 65536 % 256 + 256 * (n.toNat / 16777216 % 256)) = n.toNat
  omega

end Bytes

namespace Record

/-- A window with all the bytes of another one behind its head, and perhaps more. -/
structure Extends (w w' : Bytes) : Prop where
  size_le : w.size ≤ w'.size
  body : w.AgreeOn w' headerSize w.size

/-- What succeeds on one side comes to the same on the other. -/
def Keeps {α : Type} (outcome outcome' : Except RecordFault α) : Prop :=
  ∀ a, outcome = .ok a → outcome' = .ok a

namespace Keeps

variable {α β : Type} {x x' : Except RecordFault α}

theorem refl : Keeps x x := fun _ h => h

theorem bind {f f' : α → Except RecordFault β} (first : Keeps x x')
    (second : ∀ a, x = .ok a → Keeps (f a) (f' a)) : Keeps (x >>= f) (x' >>= f') := by
  intro b h
  obtain ⟨a, read, h⟩ := of_bind_ok h
  rw [first a read]
  exact second a read b h

theorem map (f : α → β) (first : Keeps x x') : Keeps (f <$> x) (f <$> x') := by
  intro b h
  obtain ⟨a, read, rfl⟩ := of_map_ok h
  rw [first a read]
  rfl

theorem yields (f : α → β) (first : Keeps x x') :
    Keeps (x >>= fun a => pure (f a)) (x' >>= fun a => pure (f a)) :=
  first.bind fun _ _ => refl

theorem ite {c : Prop} [Decidable c] {y y' : Except RecordFault α} (yes : c → Keeps x x')
    (no : ¬ c → Keeps y y') : Keeps (if c then x else y) (if c then x' else y') := by
  by_cases h : c
  · rw [if_pos h, if_pos h]
    exact yes h
  · rw [if_neg h, if_neg h]
    exact no h

theorem refuse {c c' : Prop} [Decidable c] [Decidable c'] {fault fault' : RecordFault}
    {unseen unseen' : β → Except RecordFault α} (passes : c' → c) (onward : ¬ c → Keeps x x') :
    Keeps (if c then throw fault >>= unseen else x)
      (if c' then throw fault' >>= unseen' else x') := by
  intro a h
  obtain ⟨passed, h⟩ := refuse_eq_ok_iff.mp h
  exact refuse_eq_ok_iff.mpr ⟨fun failed => passed (passes failed), onward passed a h⟩

end Keeps

namespace Extends

variable {w w' : Bytes} (h : Extends w w') {α : Type}
include h

theorem slice {offset length : Nat} (fits : SectionFits w.size offset length) :
    w'.slice offset length = w.slice offset length :=
  (h.body.slice fits).symm

theorem front {n : Nat} (least : headerSize ≤ n) (room : n ≤ w.size) :
    w'.AgreeOn w headerSize n :=
  h.slice ⟨Nat.le_refl _, by omega⟩

theorem fixed_bind {needed : Nat} {rest rest' : Unit → Except RecordFault α}
    (least : headerSize ≤ needed)
    (onward : needed ≤ w.size → w'.AgreeOn w headerSize needed → Keeps (rest ()) (rest' ())) :
    Keeps (needFixed w needed >>= rest) (needFixed w' needed >>= rest') := by
  refine Keeps.bind ?_ fun _ room => ?_
  · intro _ room
    exact needFixed_eq_ok_iff.mpr (Nat.le_trans (needFixed_eq_ok_iff.mp room) h.size_le)
  · have room := needFixed_eq_ok_iff.mp room
    exact onward room (h.front least room)

theorem arrayAt_keeps [FixedLayout α] (offset count : UInt32) :
    Keeps (arrayAt α w offset count) (arrayAt α w' offset count) := by
  intro values read
  obtain ⟨fits, rfl⟩ := arrayAt_eq_ok_iff.mp read
  exact arrayAt_eq_ok_iff.mpr ⟨⟨fits.1, Nat.le_trans fits.2 h.size_le⟩,
    Bytes.valuesAt_eq_of_slice (h.slice fits)⟩

theorem bytesAt_keeps (offset length : UInt32) :
    Keeps (bytesAt w offset length) (bytesAt w' offset length) := by
  intro bytes read
  obtain ⟨fits, rfl⟩ := bytesAt_eq_ok_iff.mp read
  exact bytesAt_eq_ok_iff.mpr ⟨⟨fits.1, Nat.le_trans fits.2 h.size_le⟩, h.slice fits⟩

theorem arrayFrom_keeps [FixedLayout α] {start count : Nat} (behind : headerSize ≤ start)
    (inside : start ≤ w.size) :
    Keeps (arrayFrom α w start count) (arrayFrom α w' start count) := by
  intro values read
  obtain ⟨room, rfl⟩ := (arrayFrom_eq_ok_iff inside).mp read
  exact (arrayFrom_eq_ok_iff (Nat.le_trans inside h.size_le)).mpr
    ⟨Nat.le_trans room h.size_le, Bytes.valuesAt_eq_of_slice (h.slice ⟨behind, room⟩)⟩

theorem embeddedBitmap_keeps (f : BitmapFields) :
    Keeps (embeddedBitmap w f) (embeddedBitmap w' f) := by
  refine .ite (fun _ => .refl) fun _ => .refuse id fun _ => ?_
  refine (h.bytesAt_keeps _ _).bind fun info _ => ?_
  exact .ite (fun _ => .refl) fun _ => .yields _ (h.bytesAt_keeps _ _)

theorem header_keeps : Keeps (decodeHeader w) (decodeHeader w') := by
  refine h.fixed_bind (by decide) fun room front => ?_
  simp (disch := decide) only [front.u32At, front.u16At, front.valueAt]
  refine .refuse id fun _ => ?_
  exact .ite (fun _ => .yields _ (h.arrayAt_keeps _ _)) fun _ => .refl

theorem eof_keeps : Keeps (decodeEof w) (decodeEof w') := by
  refine h.fixed_bind (by decide) fun room front => ?_
  simp (disch := decide) only [front.u32At]
  exact .ite (fun _ => h.arrayAt_keeps _ _) fun _ => .refl

theorem field_keeps [FixedLayout α] : Keeps (decodeField α w) (decodeField α w') := by
  refine h.fixed_bind (Nat.le_add_right _ _) fun room front => ?_
  rw [front.valueAt ⟨Nat.le_refl _, Nat.le_refl _⟩]
  exact .refl

theorem modifyWorldTransform_keeps :
    Keeps (decodeAs w .modifyWorldTransform) (decodeAs w' .modifyWorldTransform) := by
  refine h.fixed_bind (by decide) fun room front => ?_
  simp (disch := decide) only [front.u32At, front.valueAt]
  exact .refl

theorem region_keeps : Keeps (decodeRegion w) (decodeRegion w') := by
  have size_le := h.size_le
  refine h.fixed_bind (by decide) fun room front => ?_
  simp (disch := decide) only [front.u32At (i := 8), front.u32At (i := 12)]
  refine .ite (fun _ => .refl) fun _ => .refuse id fun _ => .refuse (by omega) fun enough => ?_
  have front := h.front (n := 48) (by decide) (by omega)
  simp (disch := decide) only [front.u32At, front.valueAt]
  exact .yields _ (h.arrayFrom_keeps (by decide) (by omega))

theorem pen_keeps : Keeps (decodePen w) (decodePen w') := by
  refine h.fixed_bind (by decide) fun room front => ?_
  simp (disch := decide) only [front.u32At, front.i32At, front.valueAt]
  exact .refl

theorem extPen_keeps : Keeps (decodeExtPen w) (decodeExtPen w') := by
  refine h.fixed_bind (by decide) fun room front => ?_
  simp (disch := decide) only [front.u32At, front.valueAt]
  refine Keeps.refl.bind fun _ _ => ?_
  exact .ite (fun _ => .yields _ (h.arrayFrom_keeps (by decide) room)) fun _ => .refl

theorem brush_keeps : Keeps (decodeBrush w) (decodeBrush w') := by
  refine h.fixed_bind (by decide) fun room front => ?_
  simp (disch := decide) only [front.u32At, front.valueAt]
  exact .refl

theorem patternBrush_keeps : Keeps (decodePatternBrush w) (decodePatternBrush w') := by
  refine h.fixed_bind (by decide) fun room front => ?_
  simp (disch := decide) only [front.u32At, front.valueAt]
  refine Keeps.refl.bind fun _ _ => ?_
  exact (h.embeddedBitmap_keeps _).bind fun _ _ => .refl

theorem font_keeps : Keeps (decodeFont w) (decodeFont w') := by
  refine h.fixed_bind (by decide) fun room front => ?_
  simp (disch := decide) only [decodeFaceName, front.u32At, front.i32At, front.byteAt,
    front.valuesAt]
  exact .refl

theorem palette_keeps : Keeps (decodePalette w) (decodePalette w') := by
  refine h.fixed_bind (by decide) fun room front => ?_
  simp (disch := decide) only [front.u32At, front.u16At]
  refine Keeps.refl.bind fun _ _ => ?_
  exact .yields _ (h.arrayFrom_keeps (by decide) room)

theorem setPixelV_keeps : Keeps (decodeAs w .setPixelV) (decodeAs w' .setPixelV) := by
  refine h.fixed_bind (by decide) fun room front => ?_
  simp (disch := decide) only [front.valueAt]
  exact .refl

theorem points_keeps (wide : Bool) {start count : Nat} (behind : headerSize ≤ start)
    (inside : start ≤ w.size) :
    Keeps (pointsFrom wide w start count) (pointsFrom wide w' start count) := by
  cases wide with
  | true => exact h.arrayFrom_keeps behind inside
  | false => exact (h.arrayFrom_keeps behind inside).map _

theorem poly_keeps (wide : Bool) : Keeps (decodePoly wide w) (decodePoly wide w') := by
  refine h.fixed_bind (by decide) fun room front => ?_
  simp (disch := decide) only [front.u32At, front.valueAt]
  exact .yields _ (h.points_keeps wide (by decide) room)

theorem bezier_keeps (wide continues : Bool) :
    Keeps (decodeBezier wide continues w) (decodeBezier wide continues w') :=
  (h.poly_keeps wide).bind fun _ _ => .refl

theorem polyPoly_keeps (wide : Bool) : Keeps (decodePolyPoly wide w) (decodePolyPoly wide w') := by
  refine h.fixed_bind (by decide) fun room front => ?_
  simp (disch := decide) only [front.u32At, front.valueAt]
  refine (h.arrayFrom_keeps (by decide) room).bind fun counts read => ?_
  have inside := ((arrayFrom_eq_ok_iff room).mp read).1
  refine .refuse id fun _ => ?_
  exact .yields _ (h.points_keeps wide (Nat.le_trans (by decide) (Nat.le_add_right 32 _)) inside)

theorem bitBlt_keeps : Keeps (decodeBitBlt w) (decodeBitBlt w') := by
  refine h.fixed_bind (by decide) fun room front => ?_
  simp (disch := decide) only [decodeTransfer, front.u32At, front.i32At, front.valueAt]
  exact .yields _ (h.embeddedBitmap_keeps _)

theorem stretchBlt_keeps : Keeps (decodeStretchBlt w) (decodeStretchBlt w') := by
  refine h.fixed_bind (by decide) fun room front => ?_
  simp (disch := decide) only [decodeTransfer, front.u32At, front.i32At, front.valueAt]
  exact .yields _ (h.embeddedBitmap_keeps _)

theorem stretchDiBits_keeps : Keeps (decodeStretchDiBits w) (decodeStretchDiBits w') := by
  refine h.fixed_bind (by decide) fun room front => ?_
  simp (disch := decide) only [front.u32At, front.i32At, front.valueAt]
  exact .yields _ (h.embeddedBitmap_keeps _)

theorem textRun_keeps (wide : Bool) (front : w'.AgreeOn w headerSize 76) :
    Keeps (decodeTextRun wide w) (decodeTextRun wide w') := by
  unfold decodeTextRun
  simp (disch := decide) only [front.u32At, front.valueAt]
  refine .ite (fun _ => .refl) fun _ => .refuse id fun _ => ?_
  refine .ite (fun _ => (h.arrayAt_keeps _ _).bind ?_) fun _ => ((h.bytesAt_keeps _ _).map _).bind ?_
  all_goals
    intro codeUnits _
    refine .ite (fun _ => .refuse id fun _ => ?_) fun _ => ?_
    · exact .yields _ (h.arrayAt_keeps _ _)
    · exact .yields _ (h.arrayAt_keeps _ _)

theorem textOut_keeps (wide : Bool) : Keeps (decodeTextOut wide w) (decodeTextOut wide w') := by
  refine h.fixed_bind (by decide) fun room front => ?_
  simp (disch := decide) only [front.u32At, front.f32At, front.valueAt]
  exact .yields _ (h.textRun_keeps wide front)

theorem decodeAs_keeps (type : RecordType) : Keeps (decodeAs w type) (decodeAs w' type) := by
  cases type with
  | header => exact h.header_keeps.map _
  | eof => exact h.eof_keeps.map _
  | modifyWorldTransform => exact h.modifyWorldTransform_keeps
  | saveDc => exact .refl
  | extSelectClipRgn => exact h.region_keeps
  | createPen => exact h.pen_keeps
  | extCreatePen => exact h.extPen_keeps
  | createBrushIndirect => exact h.brush_keeps
  | createDibPatternBrushPt => exact h.patternBrush_keeps
  | extCreateFontIndirectW => exact h.font_keeps
  | createPalette => exact h.palette_keeps
  | setPixelV => exact h.setPixelV_keeps
  | polyBezier => exact (h.bezier_keeps true false).map _
  | polyBezier16 => exact (h.bezier_keeps false false).map _
  | polyBezierTo => exact (h.bezier_keeps true true).map _
  | polyBezierTo16 => exact (h.bezier_keeps false true).map _
  | polygon | polyline | polyLineTo => exact (h.poly_keeps true).map _
  | polygon16 | polyline16 | polyLineTo16 => exact (h.poly_keeps false).map _
  | polyPolyline | polyPolygon => exact (h.polyPoly_keeps true).map _
  | polyPolyline16 | polyPolygon16 => exact (h.polyPoly_keeps false).map _
  | bitBlt => exact h.bitBlt_keeps.map _
  | stretchBlt => exact h.stretchBlt_keeps.map _
  | stretchDiBits => exact h.stretchDiBits_keeps.map _
  | extTextOutA => exact (h.textOut_keeps false).map _
  | extTextOutW => exact (h.textOut_keeps true).map _
  | _ => exact h.field_keeps.map _

end Extends

def pad (w padding : Bytes) : Bytes :=
  w.slice 0 4 ++ (Bytes.ofU32 (UInt32.ofNat (w.size + padding.size)) ++
    (w.slice 8 (w.size - 8) ++ padding))

variable {w padding : Bytes} (minimal : headerSize ≤ w.size)
include minimal

theorem size_slice_tag : (w.slice 0 4).size = 4 := by
  unfold headerSize at minimal
  exact Bytes.size_slice (by omega)

theorem size_slice_body : (w.slice 8 (w.size - 8)).size = w.size - 8 := by
  unfold headerSize at minimal
  exact Bytes.size_slice (by omega)

theorem size_pad : (pad w padding).size = w.size + padding.size := by
  have field (n : UInt32) : (Bytes.ofU32 n).size = 4 := rfl
  simp only [pad, Array.size_append, size_slice_tag minimal, size_slice_body minimal, field]
  unfold headerSize at minimal
  omega

theorem pad_tag : (pad w padding).u32At 0 = w.u32At 0 := by
  have size := size_slice_tag minimal
  have same : Bytes.AgreeOn (pad w padding) w 0 4 := by
    change (pad w padding).slice 0 4 = w.slice 0 4
    rw [pad, Bytes.slice_append_left (by omega), Bytes.slice_slice (by omega)]
  exact same.u32At (by decide)

theorem pad_size : (pad w padding).u32At 4 = UInt32.ofNat (w.size + padding.size) := by
  have size := size_slice_tag minimal
  have field : (pad w padding).slice 4 4 =
      Bytes.ofU32 (UInt32.ofNat (w.size + padding.size)) := by
    rw [pad, Bytes.slice_append_right (by omega), size, Bytes.slice_append_left (Nat.le_refl 4)]
    exact Bytes.slice_self _
  have here : ((pad w padding).slice 4 4).u32At 0 = (pad w padding).u32At 4 :=
    Bytes.u32At_slice (by decide)
  rw [← here, field, Bytes.u32At_ofU32]

theorem extends_pad : Extends w (pad w padding) := by
  constructor
  · rw [size_pad minimal]
    omega
  · have head := size_slice_tag minimal
    have body := size_slice_body minimal
    change w.slice 8 (w.size - 8) = (pad w padding).slice 8 (w.size - 8)
    rw [pad, Bytes.slice_append_right (by omega), head, Bytes.slice_append_right (Nat.le_refl 4)]
    change _ = (w.slice 8 (w.size - 8) ++ padding).slice 0 (w.size - 8)
    rw [Bytes.slice_append_left (by omega), Bytes.slice_slice (by omega)]

end Record

def WholeRecord.tag (w : WholeRecord) : UInt32 := w.bytes.u32At 0

namespace Cursor

variable {w : WholeRecord} {padding rest : Bytes} {c : Cursor}

theorem readRecord_pad_of_decoded {record : Record}
    (small : w.bytes.size + padding.size < UInt32.size)
    (placed : c.ahead = Record.pad w.bytes padding ++ rest)
    (decoded : Record.decode w.tag (Record.pad w.bytes padding) = .ok record) :
    c.readRecord = .ok (record, c.advance (w.bytes.size + padding.size)) := by
  have size : (Record.pad w.bytes padding).size = w.bytes.size + padding.size :=
    Record.size_pad w.minimal
  have minimal : Record.headerSize ≤ (Record.pad w.bytes padding).size := by
    have least := w.minimal
    omega
  have declared : (ofBytes (Record.pad w.bytes padding)).recordSize =
      (Record.pad w.bytes padding).size := by
    change ((Record.pad w.bytes padding).u32At 4).toNat = _
    rw [Record.pad_size w.minimal, UInt32.toNat_ofNat_of_lt' small, size]
  have whole : Record.decodeWhole (Record.pad w.bytes padding) = .ok record := by
    rw [Record.decodeWhole, Record.pad_tag w.minimal]
    exact decoded
  rw [← size]
  exact (WholeRecord.ofDecoded _ record minimal declared whole).readRecord_of_ahead placed

/-- Padding does not tell in a record of a known type, and in any other only by its size. -/
theorem readRecord_pad (small : w.bytes.size + padding.size < UInt32.size)
    (placed : c.ahead = Record.pad w.bytes padding ++ rest) :
    (RecordType.ofTag? w.tag ≠ none →
      c.readRecord = .ok (w.record, c.advance (w.bytes.size + padding.size))) ∧
    (RecordType.ofTag? w.tag = none →
      w.record = .skip w.tag (UInt32.ofNat w.bytes.size) ∧
      c.readRecord = .ok (.skip w.tag (UInt32.ofNat (w.bytes.size + padding.size)),
        c.advance (w.bytes.size + padding.size))) := by
  have decodes : Record.decode w.tag w.bytes = .ok w.record := w.decodes
  unfold Record.decode at decodes
  cases kind : RecordType.ofTag? w.tag with
  | some type =>
    rw [kind] at decodes
    refine ⟨fun _ => readRecord_pad_of_decoded small placed ?_, nofun⟩
    rw [Record.decode, kind]
    exact (Record.extends_pad w.minimal).decodeAs_keeps type _ decodes
  | none =>
    rw [kind] at decodes
    refine ⟨fun known => absurd rfl known, fun _ => ⟨(Except.ok.inj decodes).symm, ?_⟩⟩
    refine readRecord_pad_of_decoded small placed ?_
    rw [Record.decode, kind, Record.size_pad w.minimal]

/-- The record that ends a picture, behind its palette three bytes more and then those of something
else. -/
theorem readRecord_pad_end :
    Container.penFile.tail.bytes.size + (#[1, 2, 3] : Bytes).size < UInt32.size ∧
    (ofBytes (Record.pad paddedEnd #[1, 2, 3] ++ #[9])).ahead =
      Record.pad Container.penFile.tail.bytes #[1, 2, 3] ++ #[9] ∧
    RecordType.ofTag? Container.penFile.tail.tag ≠ none ∧
    (ofBytes (Record.pad paddedEnd #[1, 2, 3] ++ #[9])).readRecord =
      .ok (.eof [⟨0, 30, 20, 10⟩],
        (ofBytes (Record.pad paddedEnd #[1, 2, 3] ++ #[9])).advance 27) := by
  have small : Container.penFile.tail.bytes.size + (#[1, 2, 3] : Bytes).size < UInt32.size := by
    decide
  have placed := ahead_ofBytes (Record.pad paddedEnd #[1, 2, 3] ++ #[9])
  have known : RecordType.ofTag? Container.penFile.tail.tag ≠ none := by decide
  exact ⟨small, placed, known, (readRecord_pad small placed).1 known⟩

end Cursor

end Metafile
