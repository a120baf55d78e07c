import Metafile.Object.Stock
import Metafile.Proofs.Success
import Metafile.Record.Decode

/-! # Handles of decoded records

The decoders of the records that create an object check its handle before anything else is read, so
a decoded record never creates an object under the null handle or under that of a stock object. -/
namespace Metafile

/-- The bit that marks the handles of stock objects splits all handles in the middle. -/
theorem Stock.and_topBit_eq_zero (handle : UInt32) :
    handle &&& 0x80000000 = 0 ↔ handle.toNat < 0x80000000 := by
  rw [← UInt32.toNat_inj, UInt32.toNat_and]
  change handle.toNat &&& 2 ^ 31 = 0 ↔ handle.toNat < 2 ^ 31
  constructor
  · intro clear
    refine Nat.lt_of_not_le fun large => ?_
    have top := Nat.testBit_of_two_pow_le_and_two_pow_add_one_gt large handle.toNat_lt
    have bit : (handle.toNat &&& 2 ^ 31).testBit 31 = true := by
      rw [Nat.testBit_and, top, Nat.testBit_two_pow_self]
      rfl
    rw [clear] at bit
    cases bit
  · intro small
    refine Nat.eq_of_testBit_eq fun i => ?_
    rw [Nat.testBit_and, Nat.testBit_two_pow, Nat.zero_testBit]
    by_cases top : 31 = i
    · subst i
      rw [Nat.testBit_lt_two_pow small, Bool.false_and]
    · rw [decide_eq_false top, Bool.and_false]

theorem Stock.isStock_eq_false_iff {handle : UInt32} :
    isStock handle = false ↔ handle.toNat < 0x80000000 := by
  rw [← and_topBit_eq_zero, isStock, bne_eq_false_iff_eq]

namespace Record

def HandleChecked (outcome : Except RecordFault Record) : Prop :=
  ∀ record handle, outcome = .ok record → record.createdHandle? = some handle →
    checkHandle handle = .ok ()

theorem HandleChecked.of_idle {outcome : Except RecordFault Record}
    (idle : ∀ record, outcome = .ok record → record.createdHandle? = none) :
    HandleChecked outcome := by
  intro record handle decoded creates
  rw [idle record decoded] at creates
  cases creates

theorem HandleChecked.of_map {α : Type} {kind : α → Record} (x : Except RecordFault α)
    (idle : ∀ a, (kind a).createdHandle? = none) : HandleChecked (kind <$> x) := by
  refine .of_idle fun record decoded => ?_
  obtain ⟨a, -, rfl⟩ := of_map_ok decoded
  exact idle a

theorem HandleChecked.of_check {w : Bytes} {handle : UInt32} {needed : Nat}
    {rest : Unit → Except RecordFault Record}
    (creates : ∀ record, rest () = .ok record → record.createdHandle? = some handle) :
    HandleChecked (needFixed w needed >>= fun _ => checkHandle handle >>= rest) := by
  intro record created decoded named
  obtain ⟨_, -, decoded⟩ := of_bind_ok decoded
  obtain ⟨_, checked, decoded⟩ := of_bind_ok decoded
  rw [creates record decoded] at named
  cases named
  exact checked

theorem decodePen_checked (w : Bytes) : HandleChecked (decodePen w) := by
  refine .of_check fun record decoded => ?_
  cases decoded
  rfl

theorem decodeBrush_checked (w : Bytes) : HandleChecked (decodeBrush w) := by
  refine .of_check fun record decoded => ?_
  cases decoded
  rfl

theorem decodeFont_checked (w : Bytes) : HandleChecked (decodeFont w) := by
  refine .of_check fun record decoded => ?_
  cases decoded
  rfl

theorem decodePalette_checked (w : Bytes) : HandleChecked (decodePalette w) := by
  refine .of_check fun record decoded => ?_
  obtain ⟨entries, -, decoded⟩ := of_bind_ok decoded
  cases decoded
  rfl

theorem decodeExtPen_checked (w : Bytes) : HandleChecked (decodeExtPen w) := by
  refine .of_check fun record decoded => ?_
  dsimp only at decoded
  split at decoded <;>
  · obtain ⟨dashes, -, decoded⟩ := of_bind_ok decoded
    cases decoded
    rfl

theorem decodePatternBrush_checked (w : Bytes) : HandleChecked (decodePatternBrush w) := by
  refine .of_check fun record decoded => ?_
  obtain ⟨bitmap, -, decoded⟩ := of_bind_ok decoded
  cases bitmap with
  | none => cases decoded
  | some dib =>
    cases decoded
    rfl

/-- A region record is decoded to itself and creates nothing. -/
theorem decodeRegion_idle {w : Bytes} {record : Record} (decoded : decodeRegion w = .ok record) :
    record.createdHandle? = none := by
  obtain ⟨_, -, decoded⟩ := of_bind_ok decoded
  dsimp only at decoded
  split at decoded
  · cases decoded
    rfl
  split at decoded
  · cases decoded
  split at decoded
  · cases decoded
  obtain ⟨rects, -, decoded⟩ := of_bind_ok decoded
  cases decoded
  rfl

theorem decodeAs_checked (w : Bytes) (type : RecordType) : HandleChecked (decodeAs w type) := by
  cases type
  case createPen => exact decodePen_checked w
  case extCreatePen => exact decodeExtPen_checked w
  case createBrushIndirect => exact decodeBrush_checked w
  case createDibPatternBrushPt => exact decodePatternBrush_checked w
  case extCreateFontIndirectW => exact decodeFont_checked w
  case createPalette => exact decodePalette_checked w
  case extSelectClipRgn => exact .of_idle fun _ decoded => decodeRegion_idle decoded
  case saveDc => exact .of_idle fun _ decoded => Except.ok.inj decoded ▸ rfl
  case modifyWorldTransform | setPixelV =>
    refine .of_idle fun record decoded => ?_
    obtain ⟨_, -, decoded⟩ := of_bind_ok decoded
    cases decoded
    rfl
  all_goals exact .of_map _ fun _ => rfl

theorem decode_checked (tag : UInt32) (w : Bytes) : HandleChecked (decode tag w) := by
  unfold decode
  cases RecordType.ofTag? tag with
  | some type => exact decodeAs_checked w type
  | none => exact .of_idle fun _ decoded => Except.ok.inj decoded ▸ rfl

theorem checkHandle_ok {handle : UInt32} (checked : checkHandle handle = .ok ()) :
    handle ≠ 0 ∧ Stock.isStock handle = false := by
  unfold checkHandle at checked
  split at checked
  · cases checked
  · rename_i nonzero
    split at checked
    · cases checked
    · rename_i clear
      rw [Decidable.not_not, Stock.and_topBit_eq_zero] at clear
      exact ⟨nonzero, Stock.isStock_eq_false_iff.mpr clear⟩

/-- These handles are the numbers from 1 to 2³¹ - 1. -/
theorem checkHandle_range {handle : UInt32} (checked : checkHandle handle = .ok ()) :
    1 ≤ handle.toNat ∧ handle.toNat ≤ 0x7FFFFFFF := by
  obtain ⟨nonzero, created⟩ := checkHandle_ok checked
  rw [Stock.isStock_eq_false_iff] at created
  have positive : handle.toNat ≠ 0 := fun zero => nonzero (UInt32.toNat_inj.mp zero)
  omega

theorem checkHandle_of_range {handle : UInt32}
    (range : 1 ≤ handle.toNat ∧ handle.toNat ≤ 0x7FFFFFFF) : checkHandle handle = .ok () := by
  have nonzero : handle ≠ 0 := by
    rintro rfl
    exact absurd range.1 (by decide)
  have clear : handle &&& 0x80000000 = 0 := (Stock.and_topBit_eq_zero handle).mpr (by omega)
  rw [checkHandle, if_neg nonzero, if_neg (not_not_intro clear)]

end Record

end Metafile
