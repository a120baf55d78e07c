import Metafile.Proofs.Sections

/-! # Sections of text records

A text record names the places of its characters and of their advances. It decodes exactly when both
lie inside it, and then the text has one unit and one advance for each character it declares. Nothing
else but the fixed fields tells in the decoded text. -/
namespace Metafile

namespace Record

variable {α : Type} {w : Bytes} {wide : Bool} {i : Nat}

@[simp] theorem getElem?_everyOther (xs : List α) (i : Nat) :
    (everyOther xs)[i]? = xs[2 * i]? := by
  induction xs using everyOther.induct generalizing i with
  | case1 => simp [everyOther]
  | case2 x => cases i <;> simp [everyOther]
  | case3 x y rest ih =>
    cases i with
    | zero => rfl
    | succ i => simp [everyOther, ih, Nat.mul_add]

theorem length_everyOther (xs : List α) : (everyOther xs).length = (xs.length + 1) / 2 := by
  induction xs using everyOther.induct with
  | case1 => simp [everyOther]
  | case2 x => simp [everyOther]
  | case3 x y rest ih =>
    simp only [everyOther, List.length_cons, ih]
    omega

structure TextFields where
  count : UInt32
  stringOffset : UInt32
  options : TextOptions
  advanceOffset : UInt32

def textFields (w : Bytes) : TextFields where
  count := w.u32At 44
  stringOffset := w.u32At 48
  options := ⟨w.u32At 52⟩
  advanceOffset := w.u32At 72

def unitWidth (wide : Bool) : Nat := if wide then 2 else 1

def unitAt (w : Bytes) (wide : Bool) (i : Nat) : UInt16 :=
  if wide then w.u16At i else Windows1252.decodeByte (w.byteAt i)

namespace TextFields

def perUnit (f : TextFields) : Nat := if f.options.hasAdvancePairs then 2 else 1

theorem perUnit_of_pairs (f : TextFields) (pairs : f.options.hasAdvancePairs) : f.perUnit = 2 :=
  if_pos pairs

theorem perUnit_of_single (f : TextFields) (single : ¬ f.options.hasAdvancePairs) :
    f.perUnit = 1 := if_neg single

def Fit (f : TextFields) (wide : Bool) (size : Nat) : Prop :=
  f.count = 0 ∨ f.advanceOffset ≠ 0 ∧
    SectionFits size f.stringOffset.toNat (unitWidth wide * f.count.toNat) ∧
    SectionFits size f.advanceOffset.toNat (4 * f.perUnit * f.count.toNat)

instance (f : TextFields) (wide : Bool) (size : Nat) : Decidable (f.Fit wide size) :=
  inferInstanceAs (Decidable (_ ∨ _ ∧ _ ∧ _))

end TextFields

/-- A text of as many characters as a record declares, each with its advances. -/
structure HoldsText (w : Bytes) (wide : Bool) (t : TextRun) : Prop where
  reference : t.reference = w.valueAt Point 36
  options : t.options = (textFields w).options
  rectangle : t.rectangle = w.valueAt Rect 56
  length_codeUnits : t.codeUnits.length = (textFields w).count.toNat
  codeUnits : ∀ i < (textFields w).count.toNat,
    t.codeUnits[i]? = some (unitAt w wide ((textFields w).stringOffset.toNat + unitWidth wide * i))
  length_dx : t.dx.length = (textFields w).count.toNat
  dx : ∀ i < (textFields w).count.toNat,
    t.dx[i]? = some (w.i32At ((textFields w).advanceOffset.toNat + 4 * (textFields w).perUnit * i))
  length_dy : t.dy.length =
    if (textFields w).options.hasAdvancePairs then (textFields w).count.toNat else 0
  dy : (textFields w).options.hasAdvancePairs → ∀ i < (textFields w).count.toNat,
    t.dy[i]? = some (w.i32At ((textFields w).advanceOffset.toNat + 8 * i + 4))

/-- What two records that give the same text have in common: the sections may lie anywhere. -/
structure SameText (wide : Bool) (w w' : Bytes) : Prop where
  fields : w.AgreeOn w' 8 48
  frame : w.AgreeOn w' 52 72
  string :
    w.slice (textFields w).stringOffset.toNat (unitWidth wide * (textFields w).count.toNat) =
    w'.slice (textFields w').stringOffset.toNat (unitWidth wide * (textFields w').count.toNat)
  advances :
    w.slice (textFields w).advanceOffset.toNat
      (4 * (textFields w).perUnit * (textFields w).count.toNat) =
    w'.slice (textFields w').advanceOffset.toNat
      (4 * (textFields w').perUnit * (textFields w').count.toNat)

def codeUnitsAt (w : Bytes) (wide : Bool) (f : TextFields) : List UInt16 :=
  if wide then w.valuesAt UInt16 f.stringOffset.toNat f.count.toNat
  else Windows1252.decode (w.slice f.stringOffset.toNat f.count.toNat)

def advancesAt (w : Bytes) (f : TextFields) : List Int32 :=
  w.valuesAt Int32 f.advanceOffset.toNat (f.perUnit * f.count.toNat)

def dxAt (w : Bytes) (f : TextFields) : List Int32 :=
  if f.options.hasAdvancePairs then everyOther (advancesAt w f) else advancesAt w f

def dyAt (w : Bytes) (f : TextFields) : List Int32 :=
  if f.options.hasAdvancePairs then everyOther ((advancesAt w f).drop 1) else []

def textRunAt (w : Bytes) (wide : Bool) : TextRun where
  reference := w.valueAt Point 36
  options := (textFields w).options
  rectangle := w.valueAt Rect 56
  codeUnits := codeUnitsAt w wide (textFields w)
  dx := dxAt w (textFields w)
  dy := dyAt w (textFields w)

def textOutAt (w : Bytes) (wide : Bool) : TextOut where
  bounds := w.valueAt Rect 8
  graphicsMode := w.u32At 24
  exScale := w.f32At 28
  eyScale := w.f32At 32
  text := textRunAt w wide

theorem codeUnits_eq_ok_iff {β : Type} (f : TextFields)
    {rest : List UInt16 → Except RecordFault β} {b : β} :
    (if wide = true then arrayAt UInt16 w f.stringOffset f.count >>= rest
      else (bytesAt w f.stringOffset f.count).map Windows1252.decode >>= rest) = .ok b ↔
      SectionFits w.size f.stringOffset.toNat (unitWidth wide * f.count.toNat) ∧
        rest (codeUnitsAt w wide f) = .ok b := by
  cases wide with
  | true =>
    rw [if_pos rfl, bind_eq_ok_iff]
    simp only [arrayAt_eq_ok_iff, codeUnitsAt, unitWidth, if_true]
    rw [Nat.mul_comm 2]
    constructor
    · rintro ⟨_, ⟨fits, rfl⟩, read⟩
      exact ⟨fits, read⟩
    · rintro ⟨fits, read⟩
      exact ⟨_, ⟨fits, rfl⟩, read⟩
  | false =>
    rw [if_neg (by decide), bind_eq_ok_iff]
    simp only [codeUnitsAt, unitWidth, Bool.false_eq_true, if_false, Nat.one_mul]
    constructor
    · rintro ⟨_, decoded, read⟩
      obtain ⟨_, found, rfl⟩ := of_map_ok decoded
      obtain ⟨fits, rfl⟩ := bytesAt_eq_ok_iff.mp found
      exact ⟨fits, read⟩
    · rintro ⟨fits, read⟩
      exact ⟨_, map_eq_ok_iff.mpr ⟨_, bytesAt_eq_ok_iff.mpr ⟨fits, rfl⟩, rfl⟩, read⟩

/-- A number of pairs that overflows would not have found room in the record. -/
theorem advances_eq_ok_iff {β : Type} (f : TextFields) (small : w.size < UInt32.size)
    {unseen : PUnit → Except RecordFault β} {paired single : List Int32 → Except RecordFault β}
    {b : β} :
    (if f.options.hasAdvancePairs = true then
        if UInt32.size ≤ f.count.toNat * 2 then throw .advanceCountOverflow >>= unseen
        else arrayAt Int32 w f.advanceOffset (f.count * 2) >>= paired
      else arrayAt Int32 w f.advanceOffset f.count >>= single) = .ok b ↔
      SectionFits w.size f.advanceOffset.toNat (4 * f.perUnit * f.count.toNat) ∧
        (if f.options.hasAdvancePairs then paired else single) (advancesAt w f) = .ok b := by
  unfold advancesAt TextFields.perUnit
  cases f.options.hasAdvancePairs with
  | true =>
    simp only [if_true, refuse_eq_ok_iff, bind_eq_ok_iff, arrayAt_eq_ok_iff]
    have total (exact_ : f.count.toNat * 2 < UInt32.size) :
        (f.count * 2).toNat = 2 * f.count.toNat := by
      rw [UInt32.toNat_mul, Nat.mul_comm 2]
      exact Nat.mod_eq_of_lt exact_
    have bytes : 2 * f.count.toNat * 4 = 4 * 2 * f.count.toNat := by omega
    constructor
    · rintro ⟨exact_, _, ⟨fits, rfl⟩, read⟩
      rw [total (Nat.not_le.mp exact_)] at fits read
      rw [← bytes]
      exact ⟨fits, read⟩
    · rintro ⟨fits, read⟩
      have room := fits.2
      have exact_ : f.count.toNat * 2 < UInt32.size := by omega
      rw [← total exact_] at bytes read
      rw [← bytes] at fits
      exact ⟨Nat.not_le.mpr exact_, _, ⟨fits, rfl⟩, read⟩
  | false =>
    simp only [Bool.false_eq_true, if_false, bind_eq_ok_iff, arrayAt_eq_ok_iff]
    change (∃ _, (SectionFits _ _ (_ * 4) ∧ _) ∧ _) ↔ _
    rw [Nat.mul_one, Nat.one_mul, Nat.mul_comm 4]
    constructor
    · rintro ⟨_, ⟨fits, rfl⟩, read⟩
      exact ⟨fits, read⟩
    · rintro ⟨fits, read⟩
      exact ⟨_, ⟨fits, rfl⟩, read⟩

theorem textRunAt_of_empty (none : (textFields w).count = 0) :
    textRunAt w wide =
      { reference := w.valueAt Point 36, options := ⟨w.u32At 52⟩, rectangle := w.valueAt Rect 56
        codeUnits := [], dx := [], dy := [] } := by
  have units : codeUnitsAt w wide (textFields w) = [] := by
    cases wide <;> simp [codeUnitsAt, none, Windows1252.decode, Bytes.valuesAt]
  have advances : advancesAt w (textFields w) = [] := by
    simp [advancesAt, none, Bytes.valuesAt]
  unfold textRunAt dxAt dyAt
  rw [units, advances]
  simp only [everyOther, List.drop_nil, ite_self]
  rfl

theorem decodeTextRun_eq_ok_iff {t : TextRun} (small : w.size < UInt32.size) :
    decodeTextRun wide w = .ok t ↔
      (textFields w).Fit wide w.size ∧ textRunAt w wide = t := by
  unfold decodeTextRun
  dsimp only
  by_cases none : w.u32At 44 = 0
  · rw [if_pos none, textRunAt_of_empty none]
    constructor
    · intro decoded
      exact ⟨.inl none, Except.ok.inj decoded⟩
    · rintro ⟨-, rfl⟩
      rfl
  · have fit : (textFields w).Fit wide w.size ↔ (textFields w).advanceOffset ≠ 0 ∧ _ ∧ _ :=
      or_iff_right none
    rw [if_neg none, refuse_eq_ok_iff, fit, and_assoc, and_assoc]
    refine and_congr_right fun _ => ?_
    refine (codeUnits_eq_ok_iff (textFields w)).trans (and_congr_right fun _ => ?_)
    refine (advances_eq_ok_iff (textFields w) small).trans (and_congr_right fun _ => ?_)
    unfold textRunAt dxAt dyAt
    cases (textFields w).options.hasAdvancePairs with
    | true => exact Iff.of_eq (Except.ok.injEq _ _)
    | false => exact Iff.of_eq (Except.ok.injEq _ _)

theorem unit_codeUnitsAt (f : TextFields)
    (fits : f.stringOffset.toNat + unitWidth wide * f.count.toNat ≤ w.size)
    (h : i < f.count.toNat) :
    (codeUnitsAt w wide f)[i]? =
      some (unitAt w wide (f.stringOffset.toNat + unitWidth wide * i)) := by
  cases wide with
  | true =>
    simp only [codeUnitsAt, unitAt, unitWidth, if_true, Bytes.getElem?_valuesAt h,
      Bytes.valueAt_u16]
    rw [Nat.mul_comm 2]
    rfl
  | false =>
    simp only [unitWidth, Bool.false_eq_true, if_false, Nat.one_mul] at fits
    simp only [codeUnitsAt, unitAt, unitWidth, Bool.false_eq_true, if_false, Nat.one_mul,
      Windows1252.decode]
    rw [List.getElem?_map, Array.getElem?_toList, Bytes.getElem?_slice h, Bytes.byteAt]
    rw [Array.getElem?_eq_getElem (by omega)]
    rfl

theorem length_codeUnitsAt (f : TextFields)
    (fits : f.stringOffset.toNat + unitWidth wide * f.count.toNat ≤ w.size) :
    (codeUnitsAt w wide f).length = f.count.toNat := by
  cases wide with
  | true => exact Bytes.length_valuesAt
  | false =>
    simp only [unitWidth, Bool.false_eq_true, if_false, Nat.one_mul] at fits
    simp only [codeUnitsAt, Bool.false_eq_true, if_false, Windows1252.decode, List.length_map,
      Array.length_toList]
    exact Bytes.size_slice fits

theorem advance_advancesAt (f : TextFields) (h : i < f.perUnit * f.count.toNat) :
    (advancesAt w f)[i]? = some (w.i32At (f.advanceOffset.toNat + 4 * i)) := by
  rw [advancesAt, Bytes.getElem?_valuesAt h, Bytes.valueAt_i32, Nat.mul_comm 4]
  rfl

theorem length_advancesAt (f : TextFields) :
    (advancesAt w f).length = f.perUnit * f.count.toNat := Bytes.length_valuesAt

theorem length_dxAt (f : TextFields) : (dxAt w f).length = f.count.toNat := by
  unfold dxAt
  by_cases pairs : f.options.hasAdvancePairs
  · rw [if_pos pairs, length_everyOther, length_advancesAt, f.perUnit_of_pairs pairs]
    omega
  · rw [if_neg pairs, length_advancesAt, f.perUnit_of_single pairs, Nat.one_mul]

theorem advance_dxAt (f : TextFields) (h : i < f.count.toNat) :
    (dxAt w f)[i]? = some (w.i32At (f.advanceOffset.toNat + 4 * f.perUnit * i)) := by
  unfold dxAt
  by_cases pairs : f.options.hasAdvancePairs
  · have two := f.perUnit_of_pairs pairs
    rw [if_pos pairs, getElem?_everyOther, advance_advancesAt, two, ← Nat.mul_assoc]
    rw [two]
    omega
  · have one := f.perUnit_of_single pairs
    rw [if_neg pairs, advance_advancesAt, one]
    rw [one]
    omega

theorem length_dyAt (f : TextFields) :
    (dyAt w f).length = if f.options.hasAdvancePairs then f.count.toNat else 0 := by
  unfold dyAt
  by_cases pairs : f.options.hasAdvancePairs
  · rw [if_pos pairs, if_pos pairs, length_everyOther, List.length_drop, length_advancesAt,
      f.perUnit_of_pairs pairs]
    omega
  · rw [if_neg pairs, if_neg pairs, List.length_nil]

theorem advance_dyAt (f : TextFields) (pairs : f.options.hasAdvancePairs)
    (h : i < f.count.toNat) :
    (dyAt w f)[i]? = some (w.i32At (f.advanceOffset.toNat + 8 * i + 4)) := by
  unfold dyAt
  have two := f.perUnit_of_pairs pairs
  rw [if_pos pairs, getElem?_everyOther, List.getElem?_drop, advance_advancesAt]
  · congr 2
    omega
  · rw [two]
    omega

theorem textRunAt_holdsText (fits : (textFields w).Fit wide w.size) :
    HoldsText w wide (textRunAt w wide) := by
  have units : (textRunAt w wide).codeUnits.length = (textFields w).count.toNat ∧
      ∀ i < (textFields w).count.toNat, (textRunAt w wide).codeUnits[i]? = some
        (unitAt w wide ((textFields w).stringOffset.toNat + unitWidth wide * i)) := by
    rcases fits with none | ⟨-, ⟨-, string⟩, -⟩
    · rw [textRunAt_of_empty none, none]
      simp
    · exact ⟨length_codeUnitsAt _ string, fun i h => unit_codeUnitsAt _ string h⟩
  exact {
    reference := rfl
    options := rfl
    rectangle := rfl
    length_codeUnits := units.1
    codeUnits := units.2
    length_dx := length_dxAt _
    dx := fun i h => advance_dxAt _ h
    length_dy := length_dyAt _
    dy := fun pairs i h => advance_dyAt _ pairs h }

theorem decodeTextOut_eq_ok_iff {t : TextOut} (small : w.size < UInt32.size) (room : 76 ≤ w.size) :
    decodeTextOut wide w = .ok t ↔ (textFields w).Fit wide w.size ∧ textOutAt w wide = t := by
  unfold decodeTextOut
  rw [needFixed, if_neg (by omega)]
  change (decodeTextRun wide w >>= fun text => _) = _ ↔ _
  rw [bind_eq_ok_iff]
  constructor
  · rintro ⟨text, decoded, made⟩
    obtain ⟨fits, rfl⟩ := (decodeTextRun_eq_ok_iff small).mp decoded
    exact ⟨fits, Except.ok.inj made⟩
  · rintro ⟨fits, rfl⟩
    exact ⟨_, (decodeTextRun_eq_ok_iff small).mpr ⟨fits, rfl⟩, rfl⟩

namespace SameText

variable {w' : Bytes} (same : SameText wide w w')
include same

theorem count_eq : (textFields w).count = (textFields w').count :=
  same.fields.u32At (by decide)

theorem options_eq : (textFields w).options = (textFields w').options :=
  congrArg TextOptions.mk (same.frame.u32At (by decide))

theorem perUnit_eq : (textFields w).perUnit = (textFields w').perUnit := by
  rw [TextFields.perUnit, same.options_eq, TextFields.perUnit]

theorem codeUnits_eq :
    codeUnitsAt w wide (textFields w) = codeUnitsAt w' wide (textFields w') := by
  have string := same.string
  rw [← same.count_eq] at string
  unfold codeUnitsAt
  rw [← same.count_eq]
  cases wide with
  | true =>
    rw [unitWidth, if_pos rfl, Nat.mul_comm] at string
    exact Bytes.valuesAt_eq_of_slice string
  | false =>
    rw [unitWidth, if_neg (by decide), Nat.one_mul] at string
    exact congrArg Windows1252.decode string

theorem advances_eq : advancesAt w (textFields w) = advancesAt w' (textFields w') := by
  have advances := same.advances
  rw [← same.count_eq, ← same.perUnit_eq, Nat.mul_assoc, Nat.mul_comm] at advances
  unfold advancesAt
  rw [← same.count_eq, ← same.perUnit_eq]
  exact Bytes.valuesAt_eq_of_slice advances

theorem textOutAt_eq : textOutAt w wide = textOutAt w' wide := by
  have fields := same.fields
  have frame := same.frame
  have run : textRunAt w wide = textRunAt w' wide := by
    unfold textRunAt dxAt dyAt
    rw [fields.valueAt (by decide), frame.valueAt (by decide), same.options_eq,
      same.codeUnits_eq, same.advances_eq]
  unfold textOutAt
  rw [run, fields.valueAt (by decide), fields.u32At (by decide),
    fields.f32At (i := 28) (by decide), fields.f32At (i := 32) (by decide)]

end SameText

def textType (wide : Bool) : RecordType := if wide then .extTextOutW else .extTextOutA

def ofText (wide : Bool) (t : TextOut) : Record := if wide then .extTextOutW t else .extTextOutA t

theorem decodeAs_textType_eq_ok_iff {record : Record} (small : w.size < UInt32.size)
    (room : 76 ≤ w.size) :
    decodeAs w (textType wide) = .ok record ↔
      (textFields w).Fit wide w.size ∧ ofText wide (textOutAt w wide) = record := by
  have kind : decodeAs w (textType wide) = ofText wide <$> decodeTextOut wide w := by
    cases wide <;> rfl
  rw [kind, map_eq_ok_iff]
  constructor
  · rintro ⟨t, decoded, rfl⟩
    obtain ⟨fits, rfl⟩ := (decodeTextOut_eq_ok_iff small room).mp decoded
    exact ⟨fits, rfl⟩
  · rintro ⟨fits, rfl⟩
    exact ⟨_, (decodeTextOut_eq_ok_iff small room).mpr ⟨fits, rfl⟩, rfl⟩

end Record

namespace Cursor

open Record

theorem readRecord_text_eq_ok_iff {c next : Cursor} {wide : Bool} {record : Record}
    (stands : c.Holds (textType wide) 76) :
    c.readRecord = .ok (record, next) ↔
      (textFields c.recordBytes).Fit wide c.recordSize ∧
        ofText wide (textOutAt c.recordBytes wide) = record ∧ next = c.advance c.recordSize := by
  have room : 76 ≤ c.recordBytes.size := stands.size_recordBytes.symm ▸ stands.fixed
  rw [stands.readRecord_eq_ok_iff, decodeAs_textType_eq_ok_iff stands.size_lt room,
    stands.size_recordBytes, and_assoc]

/-- A text record is read exactly when its two sections lie inside it, and its text is what they hold.
Records with the same fields and sections give the same text, wherever the sections stand and whatever
stands around them. -/
theorem readRecord_text {c : Cursor} {wide : Bool} (stands : c.Holds (textType wide) 76) :
    ((∃ record next, c.readRecord = .ok (record, next)) ↔
      (textFields c.recordBytes).Fit wide c.recordSize) ∧
    (∀ record next, c.readRecord = .ok (record, next) →
      next = c.advance c.recordSize ∧ ∃ t : TextOut, record = ofText wide t ∧
        t.bounds = c.recordBytes.valueAt Rect 8 ∧ t.graphicsMode = c.recordBytes.u32At 24 ∧
        t.exScale = c.recordBytes.f32At 28 ∧ t.eyScale = c.recordBytes.f32At 32 ∧
        HoldsText c.recordBytes wide t.text) ∧
    (∀ c' : Cursor, c'.Holds (textType wide) 76 →
      (textFields c'.recordBytes).Fit wide c'.recordSize →
      SameText wide c.recordBytes c'.recordBytes →
      ∀ record next, c.readRecord = .ok (record, next) →
        c'.readRecord = .ok (record, c'.advance c'.recordSize)) := by
  refine ⟨⟨?_, ?_⟩, ?_, ?_⟩
  · rintro ⟨record, next, read⟩
    exact ((readRecord_text_eq_ok_iff stands).mp read).1
  · intro fits
    exact ⟨_, _, (readRecord_text_eq_ok_iff stands).mpr ⟨fits, rfl, rfl⟩⟩
  · intro record next read
    obtain ⟨fits, rfl, rfl⟩ := (readRecord_text_eq_ok_iff stands).mp read
    rw [← stands.size_recordBytes] at fits
    exact ⟨rfl, _, rfl, rfl, rfl, rfl, rfl, textRunAt_holdsText fits⟩
  · intro c' stands' fits' same record next read
    obtain ⟨-, rfl, -⟩ := (readRecord_text_eq_ok_iff stands).mp read
    rw [readRecord_text_eq_ok_iff stands', same.textOutAt_eq]
    exact ⟨fits', rfl, rfl⟩

def pairedText : Bytes :=
  #[84, 0, 0, 0, 96, 0, 0, 0, 0, 0, 0, 0, 0, 0, 0, 0, 9, 0, 0, 0, 9, 0, 0, 0,
    1, 0, 0, 0, 0, 0, 128, 63, 0, 0, 128, 63, 3, 0, 0, 0, 4, 0, 0, 0, 2, 0, 0, 0,
    92, 0, 0, 0, 0, 32, 0, 0, 0, 0, 0, 0, 0, 0, 0, 0, 8, 0, 0, 0, 8, 0, 0, 0,
    76, 0, 0, 0, 5, 0, 0, 0, 255, 255, 255, 255, 6, 0, 0, 0, 254, 255, 255, 255,
    0x41, 0, 0xAC, 0x20]

/-- The same text with its characters before their advances and four bytes between them. -/
def spreadText : Bytes :=
  #[84, 0, 0, 0, 100, 0, 0, 0, 0, 0, 0, 0, 0, 0, 0, 0, 9, 0, 0, 0, 9, 0, 0, 0,
    1, 0, 0, 0, 0, 0, 128, 63, 0, 0, 128, 63, 3, 0, 0, 0, 4, 0, 0, 0, 2, 0, 0, 0,
    76, 0, 0, 0, 0, 32, 0, 0, 0, 0, 0, 0, 0, 0, 0, 0, 8, 0, 0, 0, 8, 0, 0, 0,
    84, 0, 0, 0, 0x41, 0, 0xAC, 0x20, 0xEE, 0xEE, 0xEE, 0xEE,
    5, 0, 0, 0, 255, 255, 255, 255, 6, 0, 0, 0, 254, 255, 255, 255]

theorem readRecord_pairedText :
    (ofBytes pairedText).Holds (textType true) 76 ∧ (ofBytes spreadText).Holds (textType true) 76 ∧
    SameText true (ofBytes pairedText).recordBytes (ofBytes spreadText).recordBytes ∧
    ∃ t : TextOut, (ofBytes pairedText).readRecord =
        .ok (.extTextOutW t, (ofBytes pairedText).advance 96) ∧
      (ofBytes spreadText).readRecord = .ok (.extTextOutW t, (ofBytes spreadText).advance 100) ∧
      t.text.codeUnits[1]? = some 0x20AC ∧ t.text.dx[1]? = some 6 ∧
      t.text.dy[1]? = some (-2 : Int32) := by
  have stands : (ofBytes pairedText).Holds (textType true) 76 :=
    ⟨by decide, by decide, by decide⟩
  have stands' : (ofBytes spreadText).Holds (textType true) 76 :=
    ⟨by decide, by decide, by decide⟩
  have whole : (ofBytes pairedText).recordBytes = pairedText := recordBytes_ofBytes (by decide)
  have whole' : (ofBytes spreadText).recordBytes = spreadText := recordBytes_ofBytes (by decide)
  have same : SameText true pairedText spreadText :=
    ⟨by decide, by decide, by decide, by decide⟩
  obtain ⟨reads, holds, elsewhere⟩ := readRecord_text stands
  rw [whole] at reads holds elsewhere
  obtain ⟨record, next, read⟩ := reads.mpr (by decide)
  obtain ⟨rfl, t, rfl, -, -, -, -, text⟩ := holds _ _ read
  have moved := elsewhere (ofBytes spreadText) stands'
  rw [whole'] at moved ⊢
  rw [whole]
  refine ⟨stands, stands', same, t, read, moved (by decide) same _ _ read, ?_, ?_, ?_⟩
  · rw [text.codeUnits 1 (by decide)]
    decide
  · rw [text.dx 1 (by decide)]
    decide
  · rw [text.dy (by decide) 1 (by decide)]
    decide

end Cursor

end Metafile
