import Metafile.Proofs.CreatedHandle
import Metafile.Proofs.Sections

/-! # Bitmaps in records

Four kinds of record carry a bitmap, each with its offset fields in another place. They all lift it by
one law: the information and the pixels have to lie inside the record, and the bitmap is made of their
bytes alone. -/
namespace Metafile

inductive BitmapCarrier where
  | bitBlt
  | stretchBlt
  | stretchDiBits
  | patternBrush
deriving DecidableEq, Repr

namespace BitmapCarrier

def type : BitmapCarrier → RecordType
  | bitBlt => .bitBlt
  | stretchBlt => .stretchBlt
  | stretchDiBits => .stretchDiBits
  | patternBrush => .createDibPatternBrushPt

def fixedSize : BitmapCarrier → Nat
  | bitBlt => 100
  | stretchBlt => 108
  | stretchDiBits => 80
  | patternBrush => 32

def fieldsAt : BitmapCarrier → Nat
  | bitBlt | stretchBlt => 84
  | stretchDiBits => 48
  | patternBrush => 16

theorem head_le (carrier : BitmapCarrier) : Record.headerSize ≤ carrier.fixedSize := by
  cases carrier <;> decide

/-- A brush has to have a pattern, a transfer may do without a source. -/
def Accepts (carrier : BitmapCarrier) (bitmap : Option Dib) : Prop :=
  bitmap = none → carrier ≠ patternBrush

end BitmapCarrier

def Dib.ofSections (info bits : Bytes) : Dib where
  header := info.valueAt BitmapHeader 0
  colorTable :=
    info.extract (min (max (info.valueAt BitmapHeader 0).size.toNat 40) info.size) info.size
  bits := bits

def Dib.ofSections? (info bits : Bytes) : Option Dib :=
  if info.size = 0 then none else some (.ofSections info bits)

namespace Record

def bitmap? : Record → Option Dib
  | bitBlt transfer | stretchBlt transfer | stretchDiBits transfer => transfer.source
  | createDibPatternBrushPt _ _ dib => some dib
  | _ => none

namespace BitmapFields

variable (f : BitmapFields)

def Fit (size : Nat) : Prop :=
  40 ≤ f.infoSize.toNat ∧ SectionFits size f.infoOffset.toNat f.infoSize.toNat ∧
    (f.bitsSize = 0 ∨ SectionFits size f.bitsOffset.toNat f.bitsSize.toNat)

instance (size : Nat) : Decidable (f.Fit size) := inferInstanceAs (Decidable (_ ∧ _ ∧ (_ ∨ _)))

def infoIn (w : Bytes) : Bytes := w.slice f.infoOffset.toNat f.infoSize.toNat

def bitsIn (w : Bytes) : Bytes := w.slice f.bitsOffset.toNat f.bitsSize.toNat

theorem infoSize_ne_zero {f : BitmapFields} {size : Nat} (fits : f.Fit size) : f.infoSize ≠ 0 := by
  intro zero
  have least := fits.1
  rw [zero] at least
  exact absurd least (by decide)

end BitmapFields

variable {w : Bytes} {f : BitmapFields}

/-- Pixels of no bytes need no place in the record. -/
theorem bits_eq_ok_iff {β : Type} {rest : Bytes → Except RecordFault β} {b : β} :
    (if f.bitsSize = 0 then pure #[] >>= rest
      else bytesAt w f.bitsOffset f.bitsSize >>= rest) = .ok b ↔
      (f.bitsSize = 0 ∨ SectionFits w.size f.bitsOffset.toNat f.bitsSize.toNat) ∧
        rest (f.bitsIn w) = .ok b := by
  by_cases none : f.bitsSize = 0
  · have empty : f.bitsIn w = #[] := by simp [BitmapFields.bitsIn, none]
    rw [if_pos none, empty]
    exact (and_iff_right (.inl none)).symm
  · rw [if_neg none, bind_eq_ok_iff, or_iff_right none]
    constructor
    · rintro ⟨_, found, read⟩
      obtain ⟨fits, rfl⟩ := bytesAt_eq_ok_iff.mp found
      exact ⟨fits, read⟩
    · rintro ⟨fits, read⟩
      exact ⟨_, bytesAt_eq_ok_iff.mpr ⟨fits, rfl⟩, read⟩

theorem embeddedBitmap_eq_ok_iff {bitmap : Option Dib} :
    embeddedBitmap w f = .ok bitmap ↔
      f.infoSize = 0 ∧ bitmap = none ∨
      f.Fit w.size ∧ bitmap = some (.ofSections (f.infoIn w) (f.bitsIn w)) := by
  by_cases none : f.infoSize = 0
  · rw [embeddedBitmap, if_pos none]
    constructor
    · intro decoded
      exact .inl ⟨none, (Except.ok.inj decoded).symm⟩
    · rintro (⟨-, rfl⟩ | ⟨fits, -⟩)
      · rfl
      · exact absurd none (BitmapFields.infoSize_ne_zero fits)
  · rw [embeddedBitmap, if_neg none, refuse_eq_ok_iff, bind_eq_ok_iff]
    simp only [bits_eq_ok_iff]
    constructor
    · rintro ⟨enough, _, found, bits, made⟩
      obtain ⟨info, rfl⟩ := bytesAt_eq_ok_iff.mp found
      exact .inr ⟨⟨Nat.not_lt.mp enough, info, bits⟩, (Except.ok.inj made).symm⟩
    · rintro (⟨zero, -⟩ | ⟨⟨enough, info, bits⟩, rfl⟩)
      · exact absurd zero none
      · exact ⟨Nat.not_lt.mpr enough, _, bytesAt_eq_ok_iff.mpr ⟨info, rfl⟩, bits, rfl⟩

theorem eq_ofSections?_of_embeddedBitmap {bitmap : Option Dib}
    (lifted : embeddedBitmap w f = .ok bitmap) :
    bitmap = Dib.ofSections? (f.infoIn w) (f.bitsIn w) := by
  unfold Dib.ofSections?
  rcases embeddedBitmap_eq_ok_iff.mp lifted with ⟨zero, rfl⟩ | ⟨fits, rfl⟩
  · have empty : (f.infoIn w).size = 0 := by simp [BitmapFields.infoIn, zero]
    rw [if_pos empty]
  · have size : (f.infoIn w).size = f.infoSize.toNat := Bytes.size_slice fits.2.1.2
    have least := fits.1
    rw [if_neg (by omega)]

def Lifts (w : Bytes) (carrier : BitmapCarrier) (outcome : Except RecordFault Record) : Prop :=
  ∀ bitmap, (∃ record, outcome = .ok record ∧ record.bitmap? = bitmap) ↔
    embeddedBitmap w (w.valueAt BitmapFields carrier.fieldsAt) = .ok bitmap ∧
      carrier.Accepts bitmap

theorem needFixed_of_room {needed : Nat} (room : needed ≤ w.size) : needFixed w needed = .ok () :=
  needFixed_eq_ok_iff.mpr room

theorem lifts_transfer {carrier : BitmapCarrier} {kind : Transfer → Record}
    {make : Option Dib → Transfer} (room : carrier.fixedSize ≤ w.size)
    (optional : carrier ≠ .patternBrush) (carries : ∀ source, (kind (make source)).bitmap? = source) :
    Lifts w carrier (kind <$> (needFixed w carrier.fixedSize >>= fun _ =>
      embeddedBitmap w (w.valueAt BitmapFields carrier.fieldsAt) >>= fun source =>
        pure (make source))) := by
  intro bitmap
  rw [needFixed_of_room room]
  constructor
  · rintro ⟨record, decoded, rfl⟩
    obtain ⟨transfer, framed, rfl⟩ := of_map_ok decoded
    obtain ⟨_, -, framed⟩ := of_bind_ok framed
    obtain ⟨source, lifted, made⟩ := of_bind_ok framed
    rw [← Except.ok.inj made, carries]
    exact ⟨lifted, fun _ => optional⟩
  · rintro ⟨lifted, -⟩
    refine ⟨kind (make bitmap), ?_, carries bitmap⟩
    rw [lifted]
    rfl

theorem lifts_brush (room : 32 ≤ w.size) (handle : checkHandle (w.u32At 8) = .ok ()) :
    Lifts w .patternBrush (decodePatternBrush w) := by
  intro bitmap
  rw [decodePatternBrush, needFixed_of_room room]
  change (∃ record, (checkHandle (w.u32At 8) >>= fun _ => _) = _ ∧ _) ↔ _
  rw [handle]
  change (∃ record, (embeddedBitmap w (w.valueAt BitmapFields 16) >>= _) = _ ∧ _) ↔
    embeddedBitmap w (w.valueAt BitmapFields 16) = _ ∧ _
  constructor
  · rintro ⟨record, decoded, rfl⟩
    obtain ⟨found, lifted, made⟩ := of_bind_ok decoded
    cases found with
    | none => cases made
    | some dib =>
      cases made
      exact ⟨lifted, nofun⟩
  · rintro ⟨lifted, accepted⟩
    rw [lifted]
    cases bitmap with
    | none => exact absurd rfl (accepted rfl)
    | some dib => exact ⟨_, rfl, rfl⟩

theorem decodeAs_lifts {carrier : BitmapCarrier} (room : carrier.fixedSize ≤ w.size)
    (handle : carrier = .patternBrush → checkHandle (w.u32At 8) = .ok ()) :
    Lifts w carrier (decodeAs w carrier.type) := by
  cases carrier with
  | bitBlt => exact lifts_transfer room (by decide) fun _ => rfl
  | stretchBlt => exact lifts_transfer room (by decide) fun _ => rfl
  | stretchDiBits => exact lifts_transfer room (by decide) fun _ => rfl
  | patternBrush => exact lifts_brush room (handle rfl)

theorem accepts_iff {carrier : BitmapCarrier} {size : Nat} (same : w.size = size) :
    (∃ bitmap, embeddedBitmap w f = .ok bitmap ∧ carrier.Accepts bitmap) ↔
      f.infoSize = 0 ∧ carrier ≠ .patternBrush ∨ f.Fit size := by
  subst same
  simp only [embeddedBitmap_eq_ok_iff]
  constructor
  · rintro ⟨_, ⟨zero, rfl⟩ | ⟨fits, -⟩, accepted⟩
    · exact .inl ⟨zero, accepted rfl⟩
    · exact .inr fits
  · rintro (⟨zero, optional⟩ | fits)
    · exact ⟨none, .inl ⟨zero, rfl⟩, fun _ => optional⟩
    · exact ⟨_, .inr ⟨fits, rfl⟩, nofun⟩

/-- A bitmap read from the two sections of a record. The colour table lies between the end of the
header, by its own account, and the end of the information. -/
structure HoldsBitmap (w : Bytes) (f : BitmapFields) (dib : Dib) : Prop where
  header : dib.header = w.valueAt BitmapHeader f.infoOffset.toNat
  colorTable : dib.colorTable =
    w.extract (f.infoOffset.toNat + min (max dib.header.size.toNat 40) f.infoSize.toNat)
      (f.infoOffset.toNat + f.infoSize.toNat)
  bits : dib.bits = w.slice f.bitsOffset.toNat f.bitsSize.toNat

theorem ofSections_holdsBitmap (fits : f.Fit w.size) :
    HoldsBitmap w f (.ofSections (f.infoIn w) (f.bitsIn w)) := by
  obtain ⟨least, info, -⟩ := fits
  have header : (f.infoIn w).valueAt BitmapHeader 0 = w.valueAt BitmapHeader f.infoOffset.toNat :=
    Bytes.valueAt_slice least
  have size : (f.infoIn w).size = f.infoSize.toNat := Bytes.size_slice info.2
  constructor
  · exact header
  · dsimp only [Dib.ofSections]
    rw [size, BitmapFields.infoIn, Bytes.slice, Array.extract_extract, Nat.min_self]
  · rfl

end Record

namespace Cursor

open Record

/-- A record that carries a bitmap starts at a cursor; a brush has a handle that can be given. -/
structure Carries (c : Cursor) (carrier : BitmapCarrier) : Prop where
  stands : c.Holds carrier.type carrier.fixedSize
  handle : carrier = .patternBrush →
    1 ≤ (c.recordBytes.u32At 8).toNat ∧ (c.recordBytes.u32At 8).toNat ≤ 0x7FFFFFFF

def bitmapFields (c : Cursor) (carrier : BitmapCarrier) : BitmapFields :=
  c.recordBytes.valueAt BitmapFields carrier.fieldsAt

variable {c : Cursor} {carrier : BitmapCarrier}

theorem readRecord_lifts (h : c.Carries carrier) (bitmap : Option Dib) :
    (∃ record, c.readRecord = .ok (record, c.advance c.recordSize) ∧ record.bitmap? = bitmap) ↔
      embeddedBitmap c.recordBytes (c.bitmapFields carrier) = .ok bitmap ∧
        carrier.Accepts bitmap := by
  have room : carrier.fixedSize ≤ c.recordBytes.size := by
    rw [h.stands.size_recordBytes carrier.head_le]
    exact h.stands.fixed
  have lifts := decodeAs_lifts room fun brush => checkHandle_of_range (h.handle brush)
  simp only [h.stands.readRecord_eq_ok_iff carrier.head_le, and_true]
  exact lifts bitmap

theorem readRecord_ok_lifted {record : Record} {next : Cursor} (h : c.Carries carrier)
    (read : c.readRecord = .ok (record, next)) :
    embeddedBitmap c.recordBytes (c.bitmapFields carrier) = .ok record.bitmap? ∧
      carrier.Accepts record.bitmap? := by
  obtain ⟨-, rfl⟩ := (h.stands.readRecord_eq_ok_iff carrier.head_le).mp read
  exact (readRecord_lifts h _).mp ⟨record, read, rfl⟩

/-- All records lift a bitmap alike: they are read exactly when its sections lie inside them, the bitmap
is what these hold, and the same information and pixels are the same bitmap in any two of them. -/
theorem readRecord_bitmap (h : c.Carries carrier) :
    ((∃ record next, c.readRecord = .ok (record, next)) ↔
      (c.bitmapFields carrier).infoSize = 0 ∧ carrier ≠ .patternBrush ∨
        (c.bitmapFields carrier).Fit c.recordSize) ∧
    (∀ record next, c.readRecord = .ok (record, next) →
      ((c.bitmapFields carrier).infoSize = 0 → record.bitmap? = none) ∧
      ((c.bitmapFields carrier).infoSize ≠ 0 → ∃ dib, record.bitmap? = some dib ∧
        HoldsBitmap c.recordBytes (c.bitmapFields carrier) dib)) ∧
    (∀ (c' : Cursor) (carrier' : BitmapCarrier), c'.Carries carrier' →
      (c.bitmapFields carrier).infoIn c.recordBytes =
        (c'.bitmapFields carrier').infoIn c'.recordBytes →
      (c.bitmapFields carrier).bitsIn c.recordBytes =
        (c'.bitmapFields carrier').bitsIn c'.recordBytes →
      ∀ record next record' next', c.readRecord = .ok (record, next) →
        c'.readRecord = .ok (record', next') → record.bitmap? = record'.bitmap?) := by
  refine ⟨?_, ?_, ?_⟩
  · rw [← accepts_iff (h.stands.size_recordBytes carrier.head_le)]
    constructor
    · rintro ⟨record, next, read⟩
      exact ⟨_, readRecord_ok_lifted h read⟩
    · rintro ⟨bitmap, lifted⟩
      obtain ⟨record, read, -⟩ := (readRecord_lifts h bitmap).mpr lifted
      exact ⟨record, _, read⟩
  · intro record next read
    obtain ⟨lifted, -⟩ := readRecord_ok_lifted h read
    rcases embeddedBitmap_eq_ok_iff.mp lifted with ⟨zero, absent⟩ | ⟨fits, found⟩
    · exact ⟨fun _ => absent, fun nonzero => absurd zero nonzero⟩
    · have nonzero := BitmapFields.infoSize_ne_zero fits
      exact ⟨fun zero => absurd zero nonzero, fun _ => ⟨_, found, ofSections_holdsBitmap fits⟩⟩
  · intro c' carrier' h' info bits record next record' next' read read'
    rw [eq_ofSections?_of_embeddedBitmap (readRecord_ok_lifted h read).1, info, bits]
    exact (eq_ofSections?_of_embeddedBitmap (readRecord_ok_lifted h' read').1).symm

def pixelTransfer : Bytes :=
  #[81, 0, 0, 0, 128, 0, 0, 0, 0, 0, 0, 0, 0, 0, 0, 0, 0, 0, 0, 0, 0, 0, 0, 0, 0, 0, 0, 0, 0, 0,
    0, 0, 0, 0, 0, 0, 0, 0, 0, 0, 1, 0, 0, 0, 1, 0, 0, 0, 80, 0, 0, 0, 44, 0, 0, 0, 124, 0, 0, 0,
    4, 0, 0, 0, 0, 0, 0, 0, 32, 0, 204, 0, 1, 0, 0, 0, 1, 0, 0, 0, 40, 0, 0, 0, 1, 0, 0, 0, 1, 0,
    0, 0, 1, 0, 24, 0, 0, 0, 0, 0, 0, 0, 0, 0, 0, 0, 0, 0, 0, 0, 0, 0, 0, 0, 0, 0, 0, 0, 0, 0,
    10, 20, 30, 0, 30, 20, 10, 0]

/-- The same bitmap in a brush, its pixel before its information. -/
def pixelBrush : Bytes :=
  #[94, 0, 0, 0, 80, 0, 0, 0, 7, 0, 0, 0, 0, 0, 0, 0, 36, 0, 0, 0, 44, 0, 0, 0, 32, 0, 0, 0, 4,
    0, 0, 0, 30, 20, 10, 0, 40, 0, 0, 0, 1, 0, 0, 0, 1, 0, 0, 0, 1, 0, 24, 0, 0, 0, 0, 0, 0, 0,
    0, 0, 0, 0, 0, 0, 0, 0, 0, 0, 0, 0, 0, 0, 0, 0, 0, 0, 10, 20, 30, 0]

theorem readRecord_pixelTransfer :
    (ofBytes pixelTransfer).Carries .stretchDiBits ∧ (ofBytes pixelBrush).Carries .patternBrush ∧
    ∃ record next record' next' dib, (ofBytes pixelTransfer).readRecord = .ok (record, next) ∧
      (ofBytes pixelBrush).readRecord = .ok (record', next') ∧
      record.bitmap? = some dib ∧ record'.bitmap? = some dib ∧
      dib.colorTable = #[10, 20, 30, 0] ∧ dib.bits = #[30, 20, 10, 0] := by
  have carries : (ofBytes pixelTransfer).Carries .stretchDiBits :=
    ⟨⟨by decide +kernel, by decide +kernel, by decide +kernel⟩, nofun⟩
  have carries' : (ofBytes pixelBrush).Carries .patternBrush :=
    ⟨⟨by decide, by decide, by decide⟩, fun _ => by decide +kernel⟩
  have whole : (ofBytes pixelTransfer).recordBytes = pixelTransfer :=
    recordBytes_ofBytes (by decide +kernel)
  have whole' : (ofBytes pixelBrush).recordBytes = pixelBrush := recordBytes_ofBytes (by decide)
  have fields : (ofBytes pixelTransfer).bitmapFields .stretchDiBits = ⟨80, 44, 124, 4⟩ := by
    rw [bitmapFields, whole]
    decide +kernel
  have fields' : (ofBytes pixelBrush).bitmapFields .patternBrush = ⟨36, 44, 32, 4⟩ := by
    rw [bitmapFields, whole']
    decide +kernel
  obtain ⟨reads, lifts, alike⟩ := readRecord_bitmap carries
  obtain ⟨reads', -, -⟩ := readRecord_bitmap carries'
  have alike := alike _ _ carries'
  rw [fields] at reads lifts alike
  rw [fields'] at reads' alike
  rw [whole] at lifts alike
  rw [whole'] at alike
  obtain ⟨record, next, read⟩ := reads.mpr (by decide +kernel)
  obtain ⟨record', next', read'⟩ := reads'.mpr (by decide +kernel)
  have same := alike (by decide +kernel) (by decide +kernel) _ _ _ _ read read'
  obtain ⟨dib, found, holds⟩ := (lifts _ _ read).2 (by decide)
  refine ⟨carries, carries', _, _, _, _, dib, read, read', found, same.symm.trans found, ?_, ?_⟩
  · rw [holds.colorTable, holds.header]
    decide +kernel
  · rw [holds.bits]
    decide +kernel

end Cursor

end Metafile
