import Mathlib.Data.List.Induction
import Mathlib.Tactic.IntervalCases
import Metafile.Proofs.ClippedText
import Metafile.Proofs.TextSections
import Metafile.Proofs.WholeFigures

/-! # Text that moves the current position

Text that is drawn from the current position moves it along x by the sum of its advances, to the
right, to the left or not at all as the text is aligned. The sum is exact however many advances
there are. It is then held to 32 bits, and so is the place that it leads to: the place is the nearest
one to the exact sum unless the sum does not fit and leads from one side of zero to the other. -/
namespace Metafile

theorem clampInt_eq (x : Int) :
    clampInt x Int32.minValue.toInt Int32.maxValue.toInt = max (-2 ^ 31) (min x (2 ^ 31 - 1)) := rfl

theorem toInt_saturate32 (x : Int) :
    (saturate32 x).toInt = max (-2 ^ 31) (min x (2 ^ 31 - 1)) := by
  rw [saturate32, clampInt_eq]
  exact Int32.toInt_ofInt_of_le (by omega) (by omega)

/-! ## Advances in machine words -/

def wordSum (dx : List Int32) : Int64 := dx.foldl (fun sum d => sum + d.toInt64) 0

def clampWord (x : Int64) : Int32 :=
  (if x < Int32.minValue.toInt64 then Int32.minValue.toInt64
    else if Int32.maxValue.toInt64 < x then Int32.maxValue.toInt64 else x).toInt32

theorem sum_within (dx : List Int32) :
    -(2 ^ 31 * dx.length) ≤ (dx.map Int32.toInt).sum ∧
      (dx.map Int32.toInt).sum ≤ 2 ^ 31 * dx.length := by
  induction dx with
  | nil => simp
  | cons d dx ih =>
    have low := d.le_toInt
    have high := d.toInt_lt
    rw [List.map_cons, List.sum_cons, List.length_cons]
    omega

theorem toInt_wordSum {dx : List Int32} (few : dx.length < UInt32.size) :
    (wordSum dx).toInt = (dx.map Int32.toInt).sum := by
  induction dx using List.reverseRecOn with
  | nil => rfl
  | append_singleton dx d ih =>
    have bounds := sum_within (dx ++ [d])
    have step : wordSum (dx ++ [d]) = wordSum dx + d.toInt64 := List.foldl_append
    rw [List.length_append] at few
    rw [List.map_append, List.sum_append, List.map_singleton, List.sum_singleton] at bounds ⊢
    rw [step, Int64.toInt_add, Int32.toInt_toInt64, ih (by omega)]
    rw [List.length_append, List.length_singleton] at bounds
    have few : dx.length + 1 < 2 ^ 32 := few
    exact Int.bmod_eq_of_le (by omega) (by omega)

theorem clampWord_eq (x : Int64) : clampWord x = saturate32 x.toInt := by
  rw [← Int32.toInt_inj, toInt_saturate32]
  have low : Int32.minValue.toInt64.toInt = -2 ^ 31 := rfl
  have high : Int32.maxValue.toInt64.toInt = 2 ^ 31 - 1 := rfl
  unfold clampWord
  simp only [Int64.lt_iff_toInt_lt, low, high]
  split
  · rename_i below
    change (-2 ^ 31 : Int) = _
    omega
  split
  · rename_i above
    change (2 ^ 31 - 1 : Int) = _
    omega
  · rw [Int64.toInt_toInt32, Int.bmod_eq_of_le (by omega) (by omega)]
    omega

/-! ## Where aligned text leads -/

inductive Alignment where
  | left
  | right
  | center
deriving DecidableEq, Repr

namespace Alignment

def move (a : Alignment) (x : Int32) (sum : Int) : Int32 :=
  match a with
  | left => saturate32 (x.toInt + (saturate32 sum).toInt)
  | right => saturate32 (x.toInt - (saturate32 sum).toInt)
  | center => x

def nearest (a : Alignment) (x : Int32) (sum : Int) : Int32 :=
  match a with
  | left => saturate32 (x.toInt + sum)
  | right => saturate32 (x.toInt - sum)
  | center => x

/-- A sum that does not fit into 32 bits leads away from zero or stops at its end. -/
def Leads (a : Alignment) (x : Int32) (sum : Int) : Prop :=
  match a with
  | left => (sum < 2 ^ 31 ∨ 0 ≤ x.toInt) ∧ (-2 ^ 31 ≤ sum ∨ x.toInt ≤ 0)
  | right => (sum < 2 ^ 31 ∨ x.toInt ≤ -1) ∧ (-2 ^ 31 ≤ sum ∨ -1 ≤ x.toInt)
  | center => True

theorem move_eq_nearest_iff (a : Alignment) (x : Int32) (sum : Int) :
    a.move x sum = a.nearest x sum ↔ a.Leads x sum := by
  have low := x.le_toInt
  have high := x.toInt_lt
  cases a with
  | left =>
    unfold move nearest Leads
    rw [← Int32.toInt_inj]
    simp only [toInt_saturate32]
    omega
  | right =>
    unfold move nearest Leads
    rw [← Int32.toInt_inj]
    simp only [toInt_saturate32]
    omega
  | center => exact ⟨fun _ => trivial, fun _ => rfl⟩

end Alignment

namespace TextAlign

/-- The bit of the right alignment is one of the two of the center alignment. -/
def alignment (a : TextAlign) : Alignment :=
  if a.bits &&& 6 = 6 then .center else if a.bits &&& 6 = 2 then .right else .left

theorem and_low (n mask : Nat) (small : mask < 2 ^ 3) : n &&& mask = n % 2 ^ 3 &&& mask := by
  have low := Nat.and_lt_two_pow n small
  rw [← Nat.mod_eq_of_lt low, Nat.and_mod_two_pow, Nat.mod_eq_of_lt small]

theorem and_right_iff {bits : UInt32} (other : bits &&& 6 ≠ 6) :
    bits &&& 2 = 2 ↔ bits &&& 6 = 2 := by
  rw [ne_eq, ← UInt32.toNat_inj, UInt32.toNat_and] at other
  rw [← UInt32.toNat_inj, ← UInt32.toNat_inj, UInt32.toNat_and, UInt32.toNat_and]
  change ¬ bits.toNat &&& 6 = 6 at other
  change bits.toNat &&& 2 = 2 ↔ bits.toNat &&& 6 = 2
  have six := and_low bits.toNat 6 (by decide)
  rw [six] at other ⊢
  rw [and_low bits.toNat 2 (by decide)]
  have small : bits.toNat % 2 ^ 3 < 2 ^ 3 := Nat.mod_lt _ (by decide)
  generalize bits.toNat % 2 ^ 3 = low at small other ⊢
  interval_cases low <;> simp_all

theorem isCenter_iff (a : TextAlign) : a.isCenter = true ↔ a.bits &&& 6 = 6 := beq_iff_eq

theorem isRight_iff (a : TextAlign) :
    a.isRight = true ↔ a.bits &&& 6 ≠ 6 ∧ a.bits &&& 6 = 2 := by
  unfold isRight
  rw [Bool.and_eq_true, Bool.not_eq_true', ← Bool.not_eq_true, isCenter_iff, and_comm]
  constructor
  · rintro ⟨other, right⟩
    exact ⟨other, (and_right_iff other).mp (beq_iff_eq.mp right)⟩
  · rintro ⟨other, right⟩
    exact ⟨other, beq_iff_eq.mpr ((and_right_iff other).mpr right)⟩

end TextAlign

namespace FontLibrary

def Usable (lib : FontLibrary) (family : String) : Prop :=
  ∃ font face, (lib.load family).1 = some font ∧ lib.reader font = .ok face

theorem load_reader (lib : FontLibrary) (family : String) :
    (lib.load family).2.reader = lib.reader := by
  unfold load
  dsimp only
  split <;> rfl

theorem usable_new {directory : FontDirectory} {resolver : FontResolver} {reader : FontReader}
    {family : String} {font : Bytes} {face : Face}
    (found : directory.lookup (resolver family) = some font) (read : reader font = .ok face) :
    (FontLibrary.new (some directory) resolver reader).Usable family := by
  refine ⟨font, face, ?_, read⟩
  change (directory.lookup (resolver family)).bind _ = _
  rw [found, Option.bind_some]
  have parsed : (FontLibrary.new (some directory) resolver reader).reader font = .ok face := read
  rw [parsed]

end FontLibrary

namespace Context

variable {c : Context} {text : TextRun}

theorem afterText_eq (a : TextAlign) (x : Int32) (sum : Int) :
    afterText a x sum = a.alignment.move x sum := by
  unfold afterText TextAlign.alignment
  dsimp only
  by_cases center : a.bits &&& 6 = 6
  · have still : ¬ a.isRight = true := fun right => (a.isRight_iff.mp right).1 center
    rw [if_neg still, if_pos (a.isCenter_iff.mpr center), if_pos center]
    rfl
  · rw [if_neg center]
    by_cases right : a.bits &&& 6 = 2
    · rw [if_pos (a.isRight_iff.mpr ⟨center, right⟩), if_pos right]
      rfl
    · have left : ¬ a.isRight = true := fun isRight => right (a.isRight_iff.mp isRight).2
      rw [if_neg left, if_neg (mt a.isCenter_iff.mp center), if_neg right]
      rfl

theorem textAdvance_of_dx (given : text.dx ≠ []) (width : Float32) :
    c.textAdvance text width = (text.dx.map Int32.toInt).sum := by
  unfold textAdvance
  rw [if_neg (by simpa using given)]
  rfl

def Follows (c next : Context) (text : TextRun) : Prop :=
  next.state.current =
    ⟨c.state.textAlign.alignment.move c.state.current.x (text.dx.map Int32.toInt).sum,
      c.state.current.y⟩

theorem drawCharacters_follows (filled : text.codeUnits ≠ []) (given : text.dx ≠ [])
    (follows : c.state.textAlign.updatesPosition = true)
    (usable : c.fonts.Usable c.state.font.face) :
    c.Follows (c.drawCharacters text).1 text ∧ (c.drawCharacters text).2 = none := by
  obtain ⟨font, face, loaded, read⟩ := usable
  rw [← c.fonts.load_reader c.state.font.face] at read
  unfold drawCharacters Plotter.drawText
  rw [if_neg (by simpa using filled)]
  dsimp only
  rw [loaded]
  dsimp only
  rw [read]
  refine ⟨?_, ?_⟩
  · dsimp only [Follows, proceed]
    rw [if_pos follows, if_pos follows, textAdvance_of_dx given, afterText_eq]
    rfl
  · dsimp only [proceed]
    rw [if_pos follows]
    rfl

theorem drawNarrowed_follows (able : c.CanMask) (filled : text.codeUnits ≠ [])
    (given : text.dx ≠ []) (follows : c.state.textAlign.updatesPosition = true)
    (usable : c.fonts.Usable c.state.font.face) :
    c.Follows (c.drawNarrowed text).1 text ∧ (c.drawNarrowed text).2 = none := by
  obtain ⟨area, made⟩ := able.exists_area (c.rectShape? text.rectangle)
  rw [drawNarrowed_eq, made]
  exact drawCharacters_follows (c := c.withClip (c.state.clip.combine area .intersect)) filled given
    follows usable

/-- If a text asks for a clip of its own, a mask can be made for it. -/
def CanClip (c : Context) (text : TextRun) : Prop :=
  text.options.isClipped = true → (c.backed text).CanMask

theorem drawTextOut_follows (able : c.CanClip text)
    (filled : text.codeUnits ≠ []) (given : text.dx ≠ [])
    (follows : c.state.textAlign.updatesPosition = true)
    (usable : c.fonts.Usable c.state.font.face) :
    c.Follows (c.drawTextOut text).1 text ∧ (c.drawTextOut text).2 = none := by
  have fonts : (c.backed text).fonts = c.fonts := by
    unfold backed
    split <;> rfl
  have state := c.backed_state text
  rw [← state] at follows usable
  rw [← fonts] at usable
  unfold drawTextOut
  dsimp only
  rw [Follows, ← state]
  split
  · rename_i clipped
    exact drawNarrowed_follows (able clipped) filled given follows usable
  · exact drawCharacters_follows filled given follows usable

theorem apply_follows {record : Record} {t : TextOut}
    (isText : record = .extTextOutA t ∨ record = .extTextOutW t)
    (able : c.CanClip t.text)
    (filled : t.text.codeUnits ≠ []) (given : t.text.dx.length = t.text.codeUnits.length)
    (follows : c.state.textAlign.updatesPosition = true)
    (usable : c.fonts.Usable c.state.font.face) :
    c.Follows (c.apply record).1 t.text ∧ (c.apply record).2 = none := by
  have drawn : c.apply record = c.drawTextOut t.text := by
    rcases isText with rfl | rfl <;> rfl
  have advances : t.text.dx ≠ [] := by
    intro none
    rw [none, List.length_nil] at given
    exact filled (List.length_eq_zero_iff.mp given.symm)
  rw [drawn]
  exact drawTextOut_follows able filled advances follows usable

end Context

namespace Record

/-- In a text record there is an advance for each character, and their number was a 32-bit one. -/
def KeepsAdvances : Record → Prop
  | .extTextOutA t | .extTextOutW t =>
      t.text.dx.length = t.text.codeUnits.length ∧ t.text.dx.length < UInt32.size
  | _ => True

theorem keepsAdvances_of_decodeTextOut {w : Bytes} {wide : Bool} {t : TextOut}
    (small : w.size < UInt32.size) (decoded : decodeTextOut wide w = .ok t) :
    t.text.dx.length = t.text.codeUnits.length ∧ t.text.dx.length < UInt32.size := by
  obtain ⟨_, room, -⟩ := of_bind_ok decoded
  obtain ⟨fits, rfl⟩ := (decodeTextOut_eq_ok_iff small (needFixed_eq_ok_iff.mp room)).mp decoded
  have holds := textRunAt_holdsText fits
  refine ⟨holds.length_dx.trans holds.length_codeUnits.symm, ?_⟩
  change (textRunAt w wide).dx.length < _
  rw [holds.length_dx]
  exact UInt32.toNat_lt _

theorem keepsAdvances_of_isPlain (record : Record) (plain : record.isPlain = true) :
    record.KeepsAdvances := by
  cases record
  case extTextOutA | extTextOutW => cases plain
  all_goals trivial

theorem decodeAs_keepsAdvances {w : Bytes} (small : w.size < UInt32.size) (type : RecordType) :
    AllKeep KeepsAdvances (decodeAs w type) := by
  cases type
  case extTextOutA | extTextOutW => exact .map fun _ => keepsAdvances_of_decodeTextOut small
  case polyBezier | polyBezier16 | polyBezierTo | polyBezierTo16 => exact .map fun _ _ => trivial
  case polyPolyline | polyPolyline16 | polyPolygon | polyPolygon16 =>
    exact .map fun _ _ => trivial
  all_goals exact decodeAs_of_plain keepsAdvances_of_isPlain (by decide) (by decide) (by decide)

end Record

theorem WholeRecord.keepsAdvances (w : WholeRecord) : w.record.KeepsAdvances := by
  have small : w.bytes.size < UInt32.size := by
    rw [← w.declared]
    exact UInt32.toNat_lt _
  exact Record.decode_of_decodeAs (Record.decodeAs_keepsAdvances small) (fun _ _ => trivial)
    w.record w.decodes

theorem Cursor.advances_of_readRecord {c next : Cursor} {record : Record} {t : TextOut}
    (read : c.readRecord = .ok (record, next))
    (isText : record = .extTextOutA t ∨ record = .extTextOutW t) :
    t.text.dx.length = t.text.codeUnits.length ∧ t.text.dx.length < UInt32.size := by
  obtain ⟨w, rfl, -⟩ := WholeRecord.exists_of_readRecord read
  have kept := w.keepsAdvances
  rcases isText with same | same
  · rwa [same] at kept
  · rwa [same] at kept

namespace Context

variable {c : Context}

/-- Text that follows the current position moves it by the sum of its advances, held to 32 bits, and
holds the place it comes to in the same way. That place is the nearest one to the exact sum just if a
sum that does not fit does not lead over zero. The sum itself never wraps around. -/
theorem apply_followedText {cursor next : Cursor} {record : Record} {t : TextOut}
    (read : cursor.readRecord = .ok (record, next))
    (isText : record = .extTextOutA t ∨ record = .extTextOutW t)
    (able : c.CanClip t.text)
    (filled : t.text.codeUnits ≠ [])
    (follows : c.state.textAlign.updatesPosition = true)
    (usable : c.fonts.Usable c.state.font.face) :
    let align := c.state.textAlign.alignment
    let x := c.state.current.x
    let sum := (t.text.dx.map Int32.toInt).sum
    (c.apply record).2 = none ∧
    (c.apply record).1.state.current = ⟨align.move x sum, c.state.current.y⟩ ∧
    (align.move x sum = align.nearest x sum ↔ align.Leads x sum) ∧
    (∀ n, (wordSum (t.text.dx.take n)).toInt = ((t.text.dx.take n).map Int32.toInt).sum) ∧
    clampWord (wordSum t.text.dx) = saturate32 sum := by
  intro align x sum
  obtain ⟨given, few⟩ := Cursor.advances_of_readRecord read isText
  obtain ⟨moved, done⟩ := apply_follows isText able filled given follows usable
  refine ⟨done, moved, align.move_eq_nearest_iff x sum, fun n => ?_, ?_⟩
  · exact toInt_wordSum (Nat.lt_of_le_of_lt (List.length_take_le' _ _) few)
  · rw [clampWord_eq, toInt_wordSum few]

def bareFont : Bytes :=
  #[0, 1, 0, 0, 0, 3, 0, 32, 0, 1, 0, 16, 104, 101, 97, 100, 0, 0, 0, 0, 0, 0, 0, 60,
    0, 0, 0, 54, 104, 104, 101, 97, 0, 0, 0, 0, 0, 0, 0, 116, 0, 0, 0, 36, 109, 97, 120, 112,
    0, 0, 0, 0, 0, 0, 0, 152, 0, 0, 0, 6, 0, 1, 0, 0, 0, 0, 0, 0, 0, 0, 0, 0,
    95, 15, 60, 245, 0, 0, 0, 64, 0, 0, 0, 0, 0, 0, 0, 0, 0, 0, 0, 0, 0, 0, 0, 0,
    0, 0, 0, 0, 0, 0, 0, 0, 0, 0, 0, 0, 0, 0, 0, 1, 0, 0, 0, 0, 0, 1, 0, 0,
    0, 48, 255, 240, 0, 0, 0, 0, 0, 0, 0, 0, 0, 0, 0, 0, 0, 0, 0, 0, 0, 0, 0, 0,
    0, 0, 0, 0, 0, 0, 0, 0, 0, 0, 80, 0, 0, 1, 0, 0]

/-- Two characters under a clip of their own, whose advances add up to one more than a 32-bit number
holds. -/
def wideText : Bytes :=
  #[84, 0, 0, 0, 88, 0, 0, 0, 0, 0, 0, 0, 0, 0, 0, 0, 255, 255, 255, 255, 255, 255, 255, 255,
    1, 0, 0, 0, 0, 0, 128, 63, 0, 0, 128, 63, 0, 0, 0, 0, 0, 0, 0, 0, 2, 0, 0, 0, 76, 0, 0, 0,
    4, 0, 0, 0, 0, 0, 0, 0, 0, 0, 0, 0, 0, 0, 0, 0, 0, 0, 0, 0, 80, 0, 0, 0, 65, 0, 66, 0,
    255, 255, 255, 127, 1, 0, 0, 0]

def lettered : Context :=
  { square with
    fonts := .new (some [("f.ttf", bareFont)]) (fun _ => "f.ttf") TrueType.reader }

def following (align : UInt32) (x : Int32) : Context :=
  lettered.play [.setBkMode 1, .setTextAlign align, .moveToEx ⟨x, 0⟩]

theorem following_usable (align : UInt32) (x : Int32) :
    (following align x).fonts.Usable (following align x).state.font.face := by
  have parsed : (TrueType.reader bareFont).isOk = true := by decide +kernel
  have found : [("f.ttf", bareFont)].lookup "f.ttf" = some bareFont := List.lookup_cons_self
  cases read : TrueType.reader bareFont with
  | ok face => exact FontLibrary.usable_new found read
  | error reason =>
    rw [read] at parsed
    cases parsed

theorem following_canClip {text : TextRun} (plain : text.options.isOpaque = false) (align : UInt32)
    (x : Int32) : (following align x).CanClip text := by
  intro _
  rw [backed_of_plain _ plain]
  rfl

theorem readRecord_wideText : ∃ t next,
    (Cursor.ofBytes wideText).readRecord = .ok (.extTextOutW t, next) ∧
      t.text.codeUnits = [65, 66] ∧ t.text.dx = [2 ^ 31 - 1, 1] ∧
      t.text.options.isOpaque = false :=
  ⟨_, _, rfl, rfl, rfl, rfl⟩

theorem apply_followedText_right : ∃ t next,
    (Cursor.ofBytes wideText).readRecord = .ok (.extTextOutW t, next) ∧
    (following 3 (-1)).CanClip t.text ∧
    t.text.codeUnits ≠ [] ∧ (following 3 (-1)).state.textAlign.updatesPosition = true ∧
    (following 3 (-1)).fonts.Usable (following 3 (-1)).state.font.face ∧
    ((following 3 (-1)).apply (.extTextOutW t)).2 = none ∧
    ((following 3 (-1)).apply (.extTextOutW t)).1.state.current = ⟨-2 ^ 31, 0⟩ := by
  obtain ⟨t, next, read, units, advances, plain⟩ := readRecord_wideText
  have filled : t.text.codeUnits ≠ [] := by
    rw [units]
    decide
  have usable := following_usable 3 (-1)
  have able := following_canClip plain 3 (-1)
  obtain ⟨done, moved, -⟩ :=
    apply_followedText (c := following 3 (-1)) read (.inr rfl) able filled rfl usable
  rw [advances] at moved
  exact ⟨t, next, read, able, filled, rfl, usable, done, moved.trans (by decide)⟩

/-- A sum that does not fit leads over zero: the place is not the nearest one to the exact sum. -/
theorem apply_overZero : ∃ t next,
    (Cursor.ofBytes wideText).readRecord = .ok (.extTextOutW t, next) ∧
    (following 1 (-2 ^ 31)).CanClip t.text ∧
    t.text.codeUnits ≠ [] ∧ (following 1 (-2 ^ 31)).state.textAlign.updatesPosition = true ∧
    (following 1 (-2 ^ 31)).fonts.Usable (following 1 (-2 ^ 31)).state.font.face ∧
    (following 1 (-2 ^ 31)).state.textAlign.alignment = .left ∧
    ((following 1 (-2 ^ 31)).apply (.extTextOutW t)).1.state.current = ⟨-1, 0⟩ ∧
    saturate32 ((following 1 (-2 ^ 31)).state.current.x.toInt +
      (t.text.dx.map Int32.toInt).sum) = 0 := by
  obtain ⟨t, next, read, units, advances, plain⟩ := readRecord_wideText
  have filled : t.text.codeUnits ≠ [] := by
    rw [units]
    decide
  have usable := following_usable 1 (-2 ^ 31)
  have able := following_canClip plain 1 (-2 ^ 31)
  have given := (Cursor.advances_of_readRecord read (.inr rfl)).1
  have moved := (apply_follows (c := following 1 (-2 ^ 31)) (.inr rfl) able filled given
    rfl usable).1
  rw [Follows, advances] at moved
  refine ⟨t, next, read, able, filled, rfl, usable, rfl, moved.trans (by decide), ?_⟩
  rw [advances]
  decide

end Context

end Metafile
