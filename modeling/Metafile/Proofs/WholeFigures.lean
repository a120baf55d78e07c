import Metafile.Playback.Apply
import Metafile.Proofs.Container
import Metafile.Proofs.Sections

/-! # Points of decoded records

A record that has been decoded can be drawn without looking at its counts again: its figures lie one
behind the other and take up all of its points, and its curves leave no point over. -/
namespace Metafile

theorem flatten_splitLengths {α : Type} {lengths : List Nat} {xs : List α}
    (total : lengths.foldr (· + ·) 0 = xs.length) : (splitLengths lengths xs).flatten = xs := by
  induction lengths generalizing xs with
  | nil =>
    rw [List.foldr_nil] at total
    rw [List.length_eq_zero_iff.mp total.symm]
    rfl
  | cons n rest ih =>
    rw [List.foldr_cons] at total
    rw [splitLengths, List.flatten_cons, ih (by rw [List.length_drop]; omega),
      List.take_append_drop]

theorem map_length_splitLengths {α : Type} {lengths : List Nat} {xs : List α}
    (total : lengths.foldr (· + ·) 0 ≤ xs.length) :
    (splitLengths lengths xs).map List.length = lengths := by
  induction lengths generalizing xs with
  | nil => rfl
  | cons n rest ih =>
    rw [List.foldr_cons] at total
    rw [splitLengths, List.map_cons, ih (by rw [List.length_drop]; omega), List.length_take,
      Nat.min_eq_left (by omega)]

namespace PolyPoly

/-- Consecutive slices of a list, with lengths of their own. The places are machine words, and a
slice that does not lie inside the list is none. -/
def slicesFrom? {α : Type} (xs : List α) (start : Nat) : List UInt32 → Option (List (List α))
  | [] => some []
  | count :: rest =>
      let stop := start + count.toNat
      if stop < UInt64.size ∧ stop ≤ xs.length then
        (slicesFrom? xs stop rest).map ((xs.drop start).take (stop - start) :: ·)
      else none

def pointCount (counts : List UInt32) : Nat := (counts.map (·.toNat)).foldr (· + ·) 0

theorem pointCount_cons (count : UInt32) (rest : List UInt32) :
    pointCount (count :: rest) = count.toNat + pointCount rest := rfl

def wordTotal (counts : List UInt32) : UInt64 :=
  counts.foldl (fun total count => total + count.toUInt64) 0

structure Whole (p : PolyPoly) : Prop where
  total : pointCount p.counts = p.points.length
  word : (wordTotal p.counts).toNat = p.points.length
  sliced : slicesFrom? p.points 0 p.counts = some p.figures
  lengths : p.figures.map List.length = p.counts.map (·.toNat)
  joined : p.figures.flatten = p.points

theorem slicesFrom?_eq {α : Type} {xs : List α} {start : Nat} {counts : List UInt32}
    (small : xs.length < UInt64.size) (room : start + pointCount counts ≤ xs.length) :
    slicesFrom? xs start counts = some (splitLengths (counts.map (·.toNat)) (xs.drop start)) := by
  induction counts generalizing start with
  | nil => rfl
  | cons count rest ih =>
    rw [pointCount_cons] at room
    rw [slicesFrom?, if_pos ⟨by omega, by omega⟩, ih (by omega), Nat.add_sub_cancel_left]
    rw [List.map_cons, splitLengths, List.drop_drop]
    rfl

theorem toNat_foldl_add {counts : List UInt32} {total : UInt64}
    (room : total.toNat + UInt32.size * counts.length ≤ UInt64.size) :
    (counts.foldl (fun total count => total + count.toUInt64) total).toNat =
      total.toNat + pointCount counts := by
  induction counts generalizing total with
  | nil => rfl
  | cons count rest ih =>
    have small : count.toNat < UInt32.size := count.toNat_lt
    rw [List.length_cons, Nat.mul_succ] at room
    have next : (total + count.toUInt64).toNat = total.toNat + count.toNat := by
      have fits : total.toNat + count.toNat < UInt64.size := by omega
      rw [UInt64.toNat_add, UInt32.toNat_toUInt64]
      exact Nat.mod_eq_of_lt fits
    rw [List.foldl_cons, ih (by rw [next]; omega), next, pointCount_cons, Nat.add_assoc]

theorem toNat_wordTotal {counts : List UInt32} (few : counts.length < UInt32.size) :
    (wordTotal counts).toNat = pointCount counts := by
  have room : (0 : UInt64).toNat + UInt32.size * counts.length ≤ UInt64.size := by
    change 0 + _ ≤ _
    unfold UInt32.size at few ⊢
    unfold UInt64.size
    omega
  rw [wordTotal, toNat_foldl_add room]
  exact Nat.zero_add _

theorem whole_of_total {p : PolyPoly} (few : p.counts.length < UInt32.size)
    (small : p.points.length < UInt64.size)
    (total : pointCount p.counts = p.points.length) : p.Whole where
  total := total
  word := (toNat_wordTotal few).trans total
  sliced := slicesFrom?_eq small (by rw [total]; omega)
  lengths := map_length_splitLengths (Nat.le_of_eq total)
  joined := flatten_splitLengths total

end PolyPoly

namespace PathDraft

/-- Every three points make a curve, and no point is left over. -/
structure TakesAll (points : List DevicePoint) : Prop where
  cubic : ∀ segment ∈ cubics points, ∃ c d p, segment = .cubic c d p
  joined : (cubics points).flatMap PathSegment.points = points

theorem takesAll {points : List DevicePoint} (threes : points.length % 3 = 0) :
    TakesAll points := by
  fun_induction cubics points with
  | case1 c d p rest ih =>
    have behind := ih (by simp only [List.length_cons] at threes; omega)
    constructor
    · intro segment member
      rcases List.mem_cons.mp member with rfl | member
      · exact ⟨c, d, p, rfl⟩
      · exact behind.cubic segment member
    · rw [cubics, List.flatMap_cons, behind.joined]
      rfl
  | case2 points few =>
    have none : points = [] := by
      match points, few, threes with
      | [], _, _ => rfl
      | c :: d :: p :: rest, few, _ => exact absurd rfl (few c d p rest)
    subst none
    exact ⟨by simp [cubics], rfl⟩

end PathDraft

/-- Points behind a start are in threes, and the curve that is drawn from the start takes them
all. -/
structure CurvesThrough (start : Point) (points : List Point) : Prop where
  threes : points.length % 3 = 0
  takesAll : ∀ c : Context, PathDraft.TakesAll (c.mapPoints points)
  drawn : ∀ c : Context, c.curveShape? (start :: points) =
    c.rasterizer.path? (.move (c.mapPoint start) :: PathDraft.cubics (c.mapPoints points))

theorem curvesThrough {points : List Point} (threes : points.length % 3 = 0) (start : Point) :
    CurvesThrough start points where
  threes := threes
  takesAll c := PathDraft.takesAll (by rw [Context.mapPoints, List.length_map, threes])
  drawn _ := rfl

namespace Record

def KeepsPoints : Record → Prop
  | .polyPolyline poly | .polyPolygon poly => poly.Whole
  | .polyBezier poly => ∀ start rest, poly.points = start :: rest → CurvesThrough start rest
  | .polyBezierTo poly => ∀ start, CurvesThrough start poly.points
  | _ => True

variable {w : Bytes} {wide : Bool}

theorem length_arrayFrom {α : Type} [FixedLayout α] {start count : Nat} {values : List α}
    (read : arrayFrom α w start count = .ok values) : values.length = count := by
  unfold arrayFrom at read
  split at read
  · cases read
  · cases read
    exact Bytes.length_valuesAt

theorem length_pointsFrom {start count : Nat} {points : List Point}
    (read : pointsFrom wide w start count = .ok points) : points.length = count := by
  cases wide with
  | true => exact length_arrayFrom (α := Point) read
  | false =>
    obtain ⟨narrow, stored, rfl⟩ := map_eq_ok_iff.mp read
    rw [List.length_map, length_arrayFrom stored]

theorem formsCurves_of_decodeBezier {continues : Bool} {poly : Poly}
    (decoded : decodeBezier wide continues w = .ok poly) :
    FormsCurves continues poly.points.length := by
  obtain ⟨found, -, decoded⟩ := of_bind_ok decoded
  split at decoded
  · rename_i forms
    cases decoded
    exact forms
  · cases decoded

theorem whole_of_decodePolyPoly {poly : PolyPoly} (decoded : decodePolyPoly wide w = .ok poly) :
    poly.Whole := by
  obtain ⟨_, -, decoded⟩ := of_bind_ok decoded
  obtain ⟨counts, counted, decoded⟩ := of_bind_ok decoded
  obtain ⟨added, decoded⟩ := refuse_eq_ok_iff.mp decoded
  obtain ⟨points, placed, decoded⟩ := of_bind_ok decoded
  cases decoded
  have declared : points.length = (w.u32At 28).toNat := length_pointsFrom placed
  have total : PolyPoly.pointCount counts = points.length :=
    (Decidable.not_not.mp added).trans declared.symm
  refine PolyPoly.whole_of_total ?_ ?_ total
  · change counts.length < UInt32.size
    rw [length_arrayFrom counted]
    exact UInt32.toNat_lt _
  · change points.length < UInt64.size
    rw [declared]
    exact Nat.lt_trans (UInt32.toNat_lt _) (by decide)

def AllKeep (P : Record → Prop) (outcome : Except RecordFault Record) : Prop :=
  ∀ record, outcome = .ok record → P record

namespace AllKeep

variable {α : Type} {P : Record → Prop} {x : Except RecordFault α}
  {y z : Except RecordFault Record}

theorem decoded {record : Record} (keep : P record) : AllKeep P (.ok record) := by
  rintro _ ⟨⟩
  exact keep

theorem refused (fault : RecordFault) : AllKeep P (.error fault) := nofun

theorem bind {f : α → Except RecordFault Record} (keep : ∀ a, x = .ok a → AllKeep P (f a)) :
    AllKeep P (x >>= f) := by
  intro record decoded
  obtain ⟨a, read, decoded⟩ := of_bind_ok decoded
  exact keep a read record decoded

theorem map {f : α → Record} (keep : ∀ a, x = .ok a → P (f a)) : AllKeep P (f <$> x) := by
  intro record decoded
  obtain ⟨a, read, rfl⟩ := of_map_ok decoded
  exact keep a read

theorem ite {c : Prop} [Decidable c] (yes : AllKeep P y) (no : AllKeep P z) :
    AllKeep P (if c then y else z) := by
  split
  · exact yes
  · exact no

end AllKeep

def isPlain : Record → Bool
  | .polyPolyline _ | .polyPolygon _ | .polyBezier _ | .polyBezierTo _ => false
  | .extTextOutA _ | .extTextOutW _ => false
  | _ => true

/-- A property of all plain records is one of what is decoded as a plain record. -/
theorem decodeAs_of_plain {P : Record → Prop} (plain : ∀ record, record.isPlain = true → P record)
    {type : RecordType}
    (figures : type ∉ [.polyPolyline, .polyPolyline16, .polyPolygon, .polyPolygon16])
    (curves : type ∉ [.polyBezier, .polyBezier16, .polyBezierTo, .polyBezierTo16])
    (text : type ∉ [.extTextOutA, .extTextOutW]) : AllKeep P (decodeAs w type) := by
  cases type
  case polyPolyline | polyPolyline16 | polyPolygon | polyPolygon16 =>
    exact absurd (by decide) figures
  case polyBezier | polyBezier16 | polyBezierTo | polyBezierTo16 => exact absurd (by decide) curves
  case extTextOutA | extTextOutW => exact absurd (by decide) text
  case saveDc => exact .decoded (plain _ rfl)
  case modifyWorldTransform | setPixelV => exact .bind fun _ _ => .decoded (plain _ rfl)
  case createPen | createBrushIndirect | extCreateFontIndirectW =>
    exact .bind fun _ _ => .bind fun _ _ => .decoded (plain _ rfl)
  case createPalette =>
    exact .bind fun _ _ => .bind fun _ _ => .bind fun _ _ => .decoded (plain _ rfl)
  case extCreatePen =>
    refine .bind fun _ _ => .bind fun _ _ => .ite ?_ ?_
    all_goals exact .bind fun _ _ => .decoded (plain _ rfl)
  case createDibPatternBrushPt =>
    refine .bind fun _ _ => .bind fun _ _ => .bind fun dib? _ => ?_
    cases dib? with
    | none => exact .refused _
    | some dib => exact .decoded (plain _ rfl)
  case extSelectClipRgn =>
    refine .bind fun _ _ => .ite (.decoded (plain _ rfl)) (.ite (.refused _) (.ite (.refused _) ?_))
    exact .bind fun _ _ => .decoded (plain _ rfl)
  all_goals exact .map fun _ _ => plain _ rfl

theorem polyBezier_keepsPoints {poly : Poly} (decoded : decodeBezier wide false w = .ok poly) :
    (Record.polyBezier poly).KeepsPoints := by
  intro start rest points
  have forms := formsCurves_of_decodeBezier decoded
  rw [points, List.length_cons] at forms
  have forms : rest.length + 1 = 0 ∨ (rest.length + 1) % 3 = 1 := forms
  exact curvesThrough (by omega) start

theorem polyBezierTo_keepsPoints {poly : Poly} (decoded : decodeBezier wide true w = .ok poly) :
    (Record.polyBezierTo poly).KeepsPoints :=
  curvesThrough (formsCurves_of_decodeBezier decoded)

theorem keepsPoints_of_isPlain (record : Record) (plain : record.isPlain = true) :
    record.KeepsPoints := by
  cases record
  case polyPolyline | polyPolygon | polyBezier | polyBezierTo => cases plain
  all_goals trivial

theorem decodeAs_keepsPoints (type : RecordType) : AllKeep KeepsPoints (decodeAs w type) := by
  cases type
  case polyBezier | polyBezier16 => exact .map fun _ => polyBezier_keepsPoints
  case polyBezierTo | polyBezierTo16 => exact .map fun _ => polyBezierTo_keepsPoints
  case polyPolyline | polyPolyline16 | polyPolygon | polyPolygon16 =>
    exact .map fun _ => whole_of_decodePolyPoly
  case extTextOutA | extTextOutW => exact .map fun _ _ => trivial
  all_goals exact decodeAs_of_plain keepsPoints_of_isPlain (by decide) (by decide) (by decide)

theorem decode_of_decodeAs {P : Record → Prop} {tag : UInt32}
    (known : ∀ type, AllKeep P (decodeAs w type)) (skipped : ∀ tag size, P (.skip tag size)) :
    AllKeep P (decode tag w) := by
  unfold decode
  cases RecordType.ofTag? tag with
  | some type => exact known type
  | none => exact .decoded (skipped _ _)

end Record

theorem WholeRecord.keepsPoints (w : WholeRecord) : w.record.KeepsPoints :=
  Record.decode_of_decodeAs Record.decodeAs_keepsPoints (fun _ _ => trivial) w.record w.decodes

theorem Document.parse_keepsPoints {data : Bytes} {d : Document} (parsed : parse data = .ok d) :
    ∀ record ∈ d.records, record.KeepsPoints := by
  obtain ⟨container, rest, -, rfl⟩ := exists_container parsed
  intro record member
  obtain ⟨w, -, rfl⟩ := List.mem_map.mp member
  have kept := w.keepsPoints
  unfold WholeRecord.inBody inBody
  split
  · trivial
  · exact kept

namespace Cursor

/-- Whatever bytes a record has been read from, its points are safe to draw: its figures are slices
that take up its points, and its curves leave no point over. -/
theorem readRecord_keepsPoints {c next : Cursor} {record : Record}
    (read : c.readRecord = .ok (record, next)) : record.KeepsPoints := by
  obtain ⟨w, rfl, -⟩ := WholeRecord.exists_of_readRecord read
  exact w.keepsPoints

def threeFigures : Bytes :=
  #[91, 0, 0, 0, 56, 0, 0, 0, 0, 0, 0, 0, 0, 0, 0, 0, 9, 0, 0, 0, 9, 0, 0, 0,
    3, 0, 0, 0, 3, 0, 0, 0, 2, 0, 0, 0, 0, 0, 0, 0, 1, 0, 0, 0,
    1, 0, 2, 0, 3, 0, 4, 0, 255, 255, 5, 0]

/-- A curve of its own, with its start and three points. -/
def oneCurve : Bytes :=
  #[85, 0, 0, 0, 44, 0, 0, 0, 0, 0, 0, 0, 0, 0, 0, 0, 9, 0, 0, 0, 9, 0, 0, 0,
    4, 0, 0, 0, 0, 0, 0, 0, 1, 0, 2, 0, 3, 0, 4, 0, 5, 0, 6, 0]

theorem readRecord_keepsPoints_figures :
    (ofBytes threeFigures).readRecord =
      .ok (.polyPolygon ⟨⟨0, 0, 9, 9⟩, [2, 0, 1], [⟨1, 2⟩, ⟨3, 4⟩, ⟨-1, 5⟩]⟩,
        (ofBytes threeFigures).advance 56) ∧
    PolyPoly.Whole ⟨⟨0, 0, 9, 9⟩, [2, 0, 1], [⟨1, 2⟩, ⟨3, 4⟩, ⟨-1, 5⟩]⟩ ∧
    (ofBytes oneCurve).readRecord =
      .ok (.polyBezier ⟨⟨0, 0, 9, 9⟩, [⟨0, 0⟩, ⟨1, 2⟩, ⟨3, 4⟩, ⟨5, 6⟩]⟩,
        (ofBytes oneCurve).advance 44) ∧
    CurvesThrough ⟨0, 0⟩ [⟨1, 2⟩, ⟨3, 4⟩, ⟨5, 6⟩] := by
  have figures : (ofBytes threeFigures).readRecord =
      .ok (.polyPolygon ⟨⟨0, 0, 9, 9⟩, [2, 0, 1], [⟨1, 2⟩, ⟨3, 4⟩, ⟨-1, 5⟩]⟩,
        (ofBytes threeFigures).advance 56) := rfl
  have curve : (ofBytes oneCurve).readRecord =
      .ok (.polyBezier ⟨⟨0, 0, 9, 9⟩, [⟨0, 0⟩, ⟨1, 2⟩, ⟨3, 4⟩, ⟨5, 6⟩]⟩,
        (ofBytes oneCurve).advance 44) := rfl
  exact ⟨figures, readRecord_keepsPoints figures, curve,
    readRecord_keepsPoints curve _ _ rfl⟩

end Cursor

end Metafile
