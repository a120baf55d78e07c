import Metafile.Proofs.StoredValues
import Metafile.Proofs.WholeFigures

/-! # Compact points

Every kind of record that carries points has two types, one for coordinates of four bytes and one
for coordinates of two. Points that fit into the small coordinates are read alike from both. -/
namespace Metafile

namespace Point

def IsShort (p : Point) : Prop :=
  (-0x8000 ≤ p.x.toInt ∧ p.x.toInt ≤ 0x7FFF) ∧ (-0x8000 ≤ p.y.toInt ∧ p.y.toInt ≤ 0x7FFF)

instance (p : Point) : Decidable p.IsShort := inferInstanceAs (Decidable (_ ∧ _))

def narrow (p : Point) : ShortPoint := ⟨p.x.toInt16, p.y.toInt16⟩

end Point

theorem toInt32_toInt16_of_short {x : Int32} (short : -0x8000 ≤ x.toInt ∧ x.toInt ≤ 0x7FFF) :
    x.toInt16.toInt32 = x := by
  rw [← Int32.toInt_inj, Int16.toInt_toInt32, Int32.toInt_toInt16, Int.bmod_def]
  omega

theorem Point.widen_narrow {p : Point} (short : p.IsShort) : p.narrow.widen = p := by
  rw [ShortPoint.widen, narrow, toInt32_toInt16_of_short short.1, toInt32_toInt16_of_short short.2]

open Bytes Stored

def storePoints (wide : Bool) (points : List Point) : Bytes :=
  if wide then storeAll points else storeAll (points.map Point.narrow)

def StorableIn (wide : Bool) (points : List Point) : Prop :=
  wide = true ∨ ∀ p ∈ points, p.IsShort

theorem length_le_size_storeAll {α : Type} [FixedLayout α] [Stored α] (values : List α) :
    values.length ≤ (storeAll values).size := by
  rw [size_storeAll]
  exact Nat.le_mul_of_pos_right _ FixedLayout.width_pos

theorem length_le_size_storePoints (wide : Bool) (points : List Point) :
    points.length ≤ (storePoints wide points).size := by
  cases wide with
  | true => exact length_le_size_storeAll points
  | false =>
    have size := length_le_size_storeAll (points.map Point.narrow)
    rw [List.length_map] at size
    exact size

/-- The instructions that are given points, apart from those for a single one. -/
inductive PointsKind where
  | polyBezier
  | polygon
  | polyline
  | polyBezierTo
  | polylineTo
  | polyPolyline
  | polyPolygon
deriving DecidableEq, Repr

namespace PointsKind

def type (wide : Bool) : PointsKind → RecordType
  | polyBezier => if wide then .polyBezier else .polyBezier16
  | polygon => if wide then .polygon else .polygon16
  | polyline => if wide then .polyline else .polyline16
  | polyBezierTo => if wide then .polyBezierTo else .polyBezierTo16
  | polylineTo => if wide then .polyLineTo else .polyLineTo16
  | polyPolyline => if wide then .polyPolyline else .polyPolyline16
  | polyPolygon => if wide then .polyPolygon else .polyPolygon16

def hasFigures : PointsKind → Bool
  | polyPolyline | polyPolygon => true
  | _ => false

/-- What a record holds behind its head. Behind the points there may be other bytes. -/
def body (kind : PointsKind) (wide : Bool) (bounds : Rect) (counts : List UInt32)
    (points : List Point) (tail : Bytes) : Bytes :=
  toBytes bounds ++
    if kind.hasFigures then
      toBytes (UInt32.ofNat counts.length) ++ (toBytes (UInt32.ofNat points.length) ++
        (storeAll counts ++ (storePoints wide points ++ tail)))
    else toBytes (UInt32.ofNat points.length) ++ (storePoints wide points ++ tail)

def bytes (kind : PointsKind) (wide : Bool) (bounds : Rect) (counts : List UInt32)
    (points : List Point) (tail : Bytes) : Bytes :=
  Record.wrap (kind.type wide).tag (kind.body wide bounds counts points tail)

def record (kind : PointsKind) (bounds : Rect) (counts : List UInt32) (points : List Point) :
    Record :=
  match kind with
  | polyBezier => .polyBezier ⟨bounds, points⟩
  | polygon => .polygon ⟨bounds, points⟩
  | polyline => .polyline ⟨bounds, points⟩
  | polyBezierTo => .polyBezierTo ⟨bounds, points⟩
  | polylineTo => .polylineTo ⟨bounds, points⟩
  | polyPolyline => .polyPolyline ⟨bounds, counts, points⟩
  | polyPolygon => .polyPolygon ⟨bounds, counts, points⟩

/-- The counts of figures add up to the number of points, and points of a curve make up whole
segments. -/
def Proper (kind : PointsKind) (counts : List UInt32) (points : List Point) : Prop :=
  match kind with
  | polyBezier => Record.FormsCurves false points.length
  | polyBezierTo => Record.FormsCurves true points.length
  | polyPolyline | polyPolygon => PolyPoly.pointCount counts = points.length
  | polygon | polyline | polylineTo => True

instance (kind : PointsKind) (counts : List UInt32) (points : List Point) :
    Decidable (kind.Proper counts points) :=
  match kind with
  | polyBezier => inferInstanceAs (Decidable (Record.FormsCurves false points.length))
  | polyBezierTo => inferInstanceAs (Decidable (Record.FormsCurves true points.length))
  | polyPolyline | polyPolygon =>
    inferInstanceAs (Decidable (PolyPoly.pointCount counts = points.length))
  | polygon | polyline | polylineTo => inferInstanceAs (Decidable True)

def fault (kind : PointsKind) (counts : List UInt32) (points : List Point) : RecordFault :=
  if kind.hasFigures then .figureTotal (PolyPoly.pointCount counts) points.length
  else .incompleteCurve points.length

def outcome (kind : PointsKind) (bounds : Rect) (counts : List UInt32) (points : List Point) :
    Except RecordFault Record :=
  if kind.Proper counts points then .ok (kind.record bounds counts points)
  else .error (kind.fault counts points)

end PointsKind

namespace Record

variable {wide : Bool} {w tail : Bytes} {i : Nat} {bounds : Rect} {counts : List UInt32}
  {points : List Point}

theorem pointsFrom_stored (storable : StorableIn wide points)
    (h : w.EndsFrom i (storePoints wide points ++ tail)) :
    pointsFrom wide w i points.length = .ok points := by
  cases wide with
  | true => exact arrayFrom_stored (α := Point) h
  | false =>
    have short : ∀ p ∈ points, p.IsShort := storable.resolve_left Bool.false_ne_true
    have stored := arrayFrom_stored (α := ShortPoint) h
    rw [List.length_map] at stored
    change ((arrayFrom ShortPoint w i points.length).map _) = _
    rw [stored]
    have same : (points.map Point.narrow).map ShortPoint.widen = points := by
      rw [List.map_map]
      exact (List.map_congr_left fun p member => Point.widen_narrow (short p member)).trans
        (List.map_id' points)
    exact congrArg Except.ok same

theorem toNat_ofNat_length {α : Type} {values : List α} {size : Nat}
    (inside : values.length ≤ size) (small : size < UInt32.size) :
    (UInt32.ofNat values.length).toNat = values.length :=
  UInt32.toNat_ofNat_of_lt' (Nat.lt_of_le_of_lt inside small)

theorem decodePoly_stored (small : w.size < UInt32.size) (storable : StorableIn wide points)
    (h : w.EndsFrom headerSize (toBytes bounds ++
      (toBytes (UInt32.ofNat points.length) ++ (storePoints wide points ++ tail)))) :
    decodePoly wide w = .ok ⟨bounds, points⟩ := by
  have counted : w.EndsFrom 24 _ := h.behind
  have placed : w.EndsFrom 28 _ := counted.behind
  have room := placed.size_eq
  rw [Array.size_append] at room
  have inside := length_le_size_storePoints wide points
  have count : (w.u32At 24).toNat = points.length := by
    rw [counted.u32At, toNat_ofNat_length (by omega) small]
  refine bind_eq_ok_iff.mpr ⟨(), needFixed_eq_ok_iff.mpr (by omega), ?_⟩
  refine bind_eq_ok_iff.mpr ⟨points, ?_, ?_⟩
  · rw [count]
    exact pointsFrom_stored storable placed
  · have edges : w.valueAt Rect 8 = bounds := h.valueAt
    rw [edges]
    rfl

theorem decodeBezier_stored (continues : Bool) (small : w.size < UInt32.size)
    (storable : StorableIn wide points)
    (h : w.EndsFrom headerSize (toBytes bounds ++
      (toBytes (UInt32.ofNat points.length) ++ (storePoints wide points ++ tail)))) :
    decodeBezier wide continues w =
      if FormsCurves continues points.length then .ok ⟨bounds, points⟩
      else .error (.incompleteCurve points.length) := by
  rw [decodeBezier, decodePoly_stored small storable h]
  rfl

theorem decodePolyPoly_stored (small : w.size < UInt32.size) (storable : StorableIn wide points)
    (h : w.EndsFrom headerSize (toBytes bounds ++ (toBytes (UInt32.ofNat counts.length) ++
      (toBytes (UInt32.ofNat points.length) ++
        (storeAll counts ++ (storePoints wide points ++ tail)))))) :
    decodePolyPoly wide w =
      if PolyPoly.pointCount counts = points.length then .ok ⟨bounds, counts, points⟩
      else .error (.figureTotal (PolyPoly.pointCount counts) points.length) := by
  have figures : w.EndsFrom 24 _ := h.behind
  have declared : w.EndsFrom 28 _ := figures.behind
  have listed : w.EndsFrom 32 _ := declared.behind
  have placed : w.EndsFrom (32 + counts.length * 4) (storePoints wide points ++ tail) := by
    have next := listed.next
    rw [size_storeAll] at next
    exact next
  have room := placed.size_eq
  rw [Array.size_append] at room
  have inside := length_le_size_storePoints wide points
  have figure_count : (w.u32At 24).toNat = counts.length := by
    rw [figures.u32At, toNat_ofNat_length (by omega) small]
  have point_count : (w.u32At 28).toNat = points.length := by
    rw [declared.u32At, toNat_ofNat_length (by omega) small]
  have edges : w.valueAt Rect 8 = bounds := h.valueAt
  have fixed : needFixed w 32 = .ok () := needFixed_eq_ok_iff.mpr (by omega)
  unfold decodePolyPoly
  rw [fixed, figure_count, point_count, edges]
  dsimp only [bind, Except.bind]
  rw [arrayFrom_stored listed]
  dsimp only
  rw [pointsFrom_stored storable placed]
  change (if ¬ PolyPoly.pointCount counts = points.length then _ else _) = _
  by_cases total : PolyPoly.pointCount counts = points.length
  · rw [if_neg (not_not_intro total), if_pos total]
    rfl
  · rw [if_pos total, if_neg total]
    rfl

theorem decode_stored (kind : PointsKind)
    (small : (kind.bytes wide bounds counts points tail).size < UInt32.size)
    (storable : StorableIn wide points) :
    decode (kind.type wide).tag (kind.bytes wide bounds counts points tail) =
      kind.outcome bounds counts points := by
  have h : (kind.bytes wide bounds counts points tail).EndsFrom headerSize _ := wrap_body
  rw [decode, RecordType.ofTag?_tag]
  dsimp only
  generalize kind.bytes wide bounds counts points tail = w at small h ⊢
  cases kind with
  | polygon | polyline | polylineTo =>
    have decoded := decodePoly_stored small storable h
    cases wide <;> exact congrArg (_ <$> ·) decoded
  | polyBezier =>
    have decoded := decodeBezier_stored false small storable h
    cases wide <;> exact (congrArg (_ <$> ·) decoded).trans (apply_ite _ _ _ _)
  | polyBezierTo =>
    have decoded := decodeBezier_stored true small storable h
    cases wide <;> exact (congrArg (_ <$> ·) decoded).trans (apply_ite _ _ _ _)
  | polyPolyline | polyPolygon =>
    have decoded := decodePolyPoly_stored small storable h
    cases wide <;> exact (congrArg (_ <$> ·) decoded).trans (apply_ite _ _ _ _)

end Record

namespace Cursor

theorem readRecord_stored (kind : PointsKind) {wide : Bool} {bounds : Rect} {counts : List UInt32}
    {points : List Point} {tail rest : Bytes} {c : Cursor} (storable : StorableIn wide points)
    (small : (kind.bytes wide bounds counts points tail).size < UInt32.size)
    (placed : c.ahead = kind.bytes wide bounds counts points tail ++ rest) :
    (kind.Proper counts points →
      c.readRecord = .ok (kind.record bounds counts points,
        c.advance (kind.bytes wide bounds counts points tail).size)) ∧
    (¬ kind.Proper counts points →
      c.readRecord = .error (.malformedRecord c.absolutePosition (kind.type wide).tag
        (kind.fault counts points))) := by
  have read := readRecord_wrap small placed
  have decoded := Record.decode_stored kind small storable
  unfold PointsKind.bytes at decoded
  rw [decoded, PointsKind.outcome] at read
  constructor
  · intro proper
    rw [if_pos proper] at read
    exact read
  · intro improper
    rw [if_neg improper] at read
    exact read

/-- The two types of a kind are the same record: with the same points they are both read, to the
instruction with exactly these points, or both refused. -/
theorem readRecord_compact (kind : PointsKind) (bounds : Rect) (counts : List UInt32)
    (points : List Point) (short : ∀ p ∈ points, p.IsShort) {tail tail' rest rest' : Bytes}
    {c c' : Cursor}
    (small : (kind.bytes false bounds counts points tail).size < UInt32.size)
    (small' : (kind.bytes true bounds counts points tail').size < UInt32.size)
    (placed : c.ahead = kind.bytes false bounds counts points tail ++ rest)
    (placed' : c'.ahead = kind.bytes true bounds counts points tail' ++ rest') :
    (kind.Proper counts points ∧
      c.readRecord = .ok (kind.record bounds counts points,
        c.advance (kind.bytes false bounds counts points tail).size) ∧
      c'.readRecord = .ok (kind.record bounds counts points,
        c'.advance (kind.bytes true bounds counts points tail').size)) ∨
    (¬ kind.Proper counts points ∧
      c.readRecord = .error (.malformedRecord c.absolutePosition (kind.type false).tag
        (kind.fault counts points)) ∧
      c'.readRecord = .error (.malformedRecord c'.absolutePosition (kind.type true).tag
        (kind.fault counts points))) := by
  obtain ⟨read, refused⟩ := readRecord_stored kind (.inr short) small placed
  obtain ⟨read', refused'⟩ := readRecord_stored kind (.inl rfl) small' placed'
  by_cases proper : kind.Proper counts points
  · exact .inl ⟨proper, read proper, read' proper⟩
  · exact .inr ⟨proper, refused proper, refused' proper⟩

def extremes : List Point := [⟨-32768, 32767⟩, ⟨-1, 2⟩, ⟨32767, 0⟩]

def extremeFigures (wide : Bool) (tail : Bytes) : Bytes :=
  PointsKind.polyPolygon.bytes wide ⟨0, 0, 9, 9⟩ [1, 2] extremes tail

/-- Padding of different lengths, and other bytes behind the records, make no difference. -/
theorem readRecord_compact_extremes :
    (∀ p ∈ extremes, p.IsShort) ∧
    (extremeFigures false #[]).size < UInt32.size ∧
    (extremeFigures true #[1, 2, 3]).size < UInt32.size ∧
    (ofBytes (extremeFigures false #[] ++ #[7])).ahead = extremeFigures false #[] ++ #[7] ∧
    (ofBytes (extremeFigures true #[1, 2, 3] ++ #[])).ahead =
      extremeFigures true #[1, 2, 3] ++ #[] ∧
    (ofBytes (extremeFigures false #[] ++ #[7])).readRecord =
      .ok (.polyPolygon ⟨⟨0, 0, 9, 9⟩, [1, 2], extremes⟩,
        (ofBytes (extremeFigures false #[] ++ #[7])).advance 52) ∧
    (ofBytes (extremeFigures true #[1, 2, 3] ++ #[])).readRecord =
      .ok (.polyPolygon ⟨⟨0, 0, 9, 9⟩, [1, 2], extremes⟩,
        (ofBytes (extremeFigures true #[1, 2, 3] ++ #[])).advance 67) := by
  have short : ∀ p ∈ extremes, p.IsShort := by decide
  have small : (extremeFigures false #[]).size < UInt32.size := by decide
  have small' : (extremeFigures true #[1, 2, 3]).size < UInt32.size := by decide
  have placed := ahead_ofBytes (extremeFigures false #[] ++ #[7])
  have placed' := ahead_ofBytes (extremeFigures true #[1, 2, 3] ++ #[])
  have proper : PointsKind.polyPolygon.Proper [1, 2] extremes := by decide
  obtain ⟨-, read, read'⟩ | ⟨improper, -⟩ :=
    readRecord_compact .polyPolygon ⟨0, 0, 9, 9⟩ [1, 2] extremes short small small' placed placed'
  · exact ⟨short, small, small', placed, placed', read, read'⟩
  · exact absurd proper improper

end Cursor

end Metafile
