import Metafile.Proofs.ClipIndependence
import Metafile.Proofs.Effects

/-! # Records that draw the same

Lines and curves that go on from the current position are those of records that carry all of their
points, with a move behind them, and a single figure is a line or a polygon of its own. -/
namespace Metafile

namespace Rasterizer

variable (r : Rasterizer)

theorem polylines?_singleton (points : List DevicePoint) (closed : Bool) :
    r.polylines? [points] closed = r.polyline? points closed := by
  cases points with
  | nil => exact r.path?_nil
  | cons first rest => exact congrArg r.path? (List.append_nil _)

/-- Figures without points are left out, so that nothing may be left of a path. -/
theorem polylines?_of_empty {figures : List (List DevicePoint)} (closed : Bool)
    (empty : ∀ figure ∈ figures, figure = []) : r.polylines? figures closed = none := by
  have undrawn : PathDraft.polylines figures closed = [] := by
    refine List.flatMap_eq_nil_iff.mpr fun figure member => ?_
    rw [empty figure member]
    rfl
  rw [polylines?, undrawn]
  exact r.path?_nil

end Rasterizer

theorem eq_nil_of_mem_splitLengths_nil {α : Type} {lengths : List Nat} {piece : List α}
    (member : piece ∈ splitLengths lengths []) : piece = [] := by
  induction lengths with
  | nil => cases member
  | cons n rest ih =>
    rw [splitLengths, List.take_nil, List.drop_nil] at member
    rcases List.mem_cons.mp member with rfl | member
    · rfl
    · exact ih member

theorem PolyPoly.figures_single (bounds : Rect) {n : UInt32} {points : List Point}
    (all : n.toNat = points.length) : PolyPoly.figures ⟨bounds, [n], points⟩ = [points] := by
  change [points.take n.toNat] = [points]
  rw [List.take_of_length_le (Nat.le_of_eq all.symm)]

def Record.Pointless : Record → Prop
  | .polyBezier poly | .polygon poly | .polyline poly | .polyBezierTo poly | .polylineTo poly =>
      poly.points = []
  | .polyPolyline poly | .polyPolygon poly => poly.points = []
  | _ => False

namespace Context

variable (c : Context)

/-- The pen does not look at the current position. -/
theorem stroke_moveTo (p : Point) (shape? : Option Shape) :
    (c.moveTo p).stroke shape? = (c.stroke shape?).moveTo p := by
  cases shape? with
  | none => rfl
  | some shape =>
    unfold stroke
    change (if c.state.pen.isNull then _ else _) = _
    split <;> rfl

def errors (records : List Record) : List Error := (c.outcomes records).filterMap id

/-- A record has the effect of others one after the other, and reports the errors they report. -/
def StandsFor (record : Record) (records : List Record) : Prop :=
  (c.apply record).1 = c.play records ∧ (c.apply record).2.toList = c.errors records

theorem standsFor_self (record : Record) : c.StandsFor record [record] := by
  refine ⟨rfl, ?_⟩
  change _ = [(c.apply record).2].filterMap id
  cases (c.apply record).2 <;> rfl

theorem standsFor_of_stroke {record drawing : Record} {shape? : Option Shape} {last : Point}
    (record_eq : c.apply record = ((c.moveTo last).stroke shape?).done)
    (drawing_eq : c.apply drawing = (c.stroke shape?).done) :
    c.StandsFor record [drawing, .moveToEx last] := by
  constructor
  · change _ = ((c.apply drawing).1.apply (.moveToEx last)).1
    rw [record_eq, drawing_eq, stroke_moveTo]
    rfl
  · change _ = [(c.apply drawing).2, none].filterMap id
    rw [record_eq, drawing_eq]
    rfl

theorem polylineTo_standsFor {points : List Point} {last : Point}
    (ends : points.getLast? = some last) (bounds bounds' : Rect) :
    c.StandsFor (.polylineTo ⟨bounds, points⟩)
      [.polyline ⟨bounds', c.state.current :: points⟩, .moveToEx last] := by
  refine c.standsFor_of_stroke ?_ rfl
  change (c.polylineTo ⟨bounds, points⟩).done = _
  rw [polylineTo, ends]
  rfl

theorem polyBezierTo_standsFor {points : List Point} {last : Point}
    (ends : points.getLast? = some last) (bounds bounds' : Rect) :
    c.StandsFor (.polyBezierTo ⟨bounds, points⟩)
      [.polyBezier ⟨bounds', c.state.current :: points⟩, .moveToEx last] := by
  refine c.standsFor_of_stroke ?_ rfl
  change (c.polyBezierTo ⟨bounds, points⟩).done = _
  rw [polyBezierTo, ends]
  rfl

structure SameDrawings (points : List Point) (last : Point) : Prop where
  line : ∀ bounds, c.apply (.lineTo last) = c.apply (.polylineTo ⟨bounds, [last]⟩)
  lines : ∀ bounds bounds', c.StandsFor (.polylineTo ⟨bounds, points⟩)
    [.polyline ⟨bounds', c.state.current :: points⟩, .moveToEx last]
  curves : ∀ bounds bounds', c.StandsFor (.polyBezierTo ⟨bounds, points⟩)
    [.polyBezier ⟨bounds', c.state.current :: points⟩, .moveToEx last]
  figure : ∀ bounds bounds', ∀ n : UInt32, n.toNat = points.length →
    c.apply (.polyPolyline ⟨bounds, [n], points⟩) = c.apply (.polyline ⟨bounds', points⟩)
  closedFigure : ∀ bounds bounds', ∀ n : UInt32, n.toNat = points.length →
    c.apply (.polyPolygon ⟨bounds, [n], points⟩) = c.apply (.polygon ⟨bounds', points⟩)

theorem figuresShape?_single (bounds : Rect) {n : UInt32} {points : List Point}
    (all : n.toNat = points.length) (closed : Bool) :
    c.figuresShape? ⟨bounds, [n], points⟩ closed = c.lineShape? points closed := by
  rw [figuresShape?, PolyPoly.figures_single bounds all, List.map_singleton,
    Rasterizer.polylines?_singleton, lineShape?]

theorem sameDrawings_of_getLast? {points : List Point} {last : Point}
    (ends : points.getLast? = some last) : c.SameDrawings points last where
  line _ := rfl
  lines := c.polylineTo_standsFor ends
  curves := c.polyBezierTo_standsFor ends
  figure bounds _ _ all :=
    congrArg (fun shape? => (c.stroke shape?).done) (c.figuresShape?_single bounds all false)
  closedFigure bounds _ _ all :=
    congrArg c.fillAndStroke (c.figuresShape?_single bounds all true)

theorem figuresShape?_pointless {poly : PolyPoly} (pointless : poly.points = []) (closed : Bool) :
    c.figuresShape? poly closed = none := by
  have empty : ∀ figure ∈ poly.figures.map c.mapPoints, figure = [] := by
    intro figure member
    obtain ⟨piece, among, rfl⟩ := List.mem_map.mp member
    rw [PolyPoly.figures, pointless] at among
    rw [eq_nil_of_mem_splitLengths_nil among]
    rfl
  rw [figuresShape?, c.rasterizer.polylines?_of_empty closed empty]

theorem apply_pointless {record : Record} (pointless : record.Pointless) :
    c.apply record = c.done := by
  cases record
  case polyline | polygon | polyBezier | polylineTo | polyBezierTo =>
    rename_i poly
    obtain ⟨bounds, points⟩ := poly
    have none : points = [] := pointless
    subst none
    rfl
  case polyPolyline =>
    have nothing := c.figuresShape?_pointless pointless false
    exact congrArg (fun shape? => (c.stroke shape?).done) nothing
  case polyPolygon => exact congrArg c.fillAndStroke (c.figuresShape?_pointless pointless true)
  all_goals cases pointless

/-- What is drawn from the current position, or as a single figure, is what a record of its own
draws, whatever the mapping, the tools and the clip. Records without points do nothing. -/
theorem apply_sameDrawings :
    (∀ points last, points.getLast? = some last → c.SameDrawings points last) ∧
    ∀ record : Record, record.Pointless → c.apply record = c.done :=
  ⟨fun _ _ => c.sameDrawings_of_getLast?, fun _ => c.apply_pointless⟩

theorem apply_sameDrawings_square :
    ([⟨1, 0⟩, ⟨1, 1⟩] : List Point).getLast? = some ⟨1, 1⟩ ∧
    square.StandsFor (.polylineTo ⟨⟨0, 0, 1, 1⟩, [⟨1, 0⟩, ⟨1, 1⟩]⟩)
      [.polyline ⟨⟨0, 0, 1, 1⟩, [⟨0, 0⟩, ⟨1, 0⟩, ⟨1, 1⟩]⟩, .moveToEx ⟨1, 1⟩] ∧
    square.apply (.polyPolygon ⟨⟨0, 0, 1, 1⟩, [2], [⟨1, 0⟩, ⟨1, 1⟩]⟩) =
      square.apply (.polygon ⟨⟨0, 0, 1, 1⟩, [⟨1, 0⟩, ⟨1, 1⟩]⟩) ∧
    (Record.polyPolygon ⟨⟨0, 0, 1, 1⟩, [0, 0], []⟩).Pointless ∧
    square.apply (.polyPolygon ⟨⟨0, 0, 1, 1⟩, [0, 0], []⟩) = square.done := by
  have ends : ([⟨1, 0⟩, ⟨1, 1⟩] : List Point).getLast? = some ⟨1, 1⟩ := rfl
  obtain ⟨alike, idle⟩ := square.apply_sameDrawings
  have drawn := alike _ _ ends
  exact ⟨ends, drawn.lines _ _, drawn.closedFigure _ _ 2 rfl, rfl, idle _ rfl⟩

def drawnThrough (draw : Poly → Record) (poly : Poly) : List Record :=
  match poly.points.getLast? with
  | none => []
  | some last => [draw ⟨poly.bounds, c.state.current :: poly.points⟩, .moveToEx last]

/-- What a record stands for that does not go on from the current position. -/
def standalone : Record → List Record
  | .lineTo p => c.drawnThrough .polyline ⟨c.bounds, [p]⟩
  | .polylineTo poly => c.drawnThrough .polyline poly
  | .polyBezierTo poly => c.drawnThrough .polyBezier poly
  | record => [record]

theorem standsFor_drawnThrough {record : Record} {draw : Poly → Record} {poly : Poly}
    (idle : poly.points = [] → c.apply record = c.done)
    (drawn : ∀ last, poly.points.getLast? = some last →
      c.StandsFor record [draw ⟨poly.bounds, c.state.current :: poly.points⟩, .moveToEx last]) :
    c.StandsFor record (c.drawnThrough draw poly) := by
  unfold drawnThrough
  cases ends : poly.points.getLast? with
  | none =>
    have nothing := idle (List.getLast?_eq_none_iff.mp ends)
    constructor
    · rw [nothing]
      rfl
    · rw [nothing]
      rfl
  | some last => exact drawn last ends

theorem standsFor_standalone (record : Record) : c.StandsFor record (c.standalone record) := by
  cases record
  case lineTo p =>
    have drawn : c.StandsFor (.lineTo p)
        [.polyline ⟨c.bounds, [c.state.current, p]⟩, .moveToEx p] :=
      c.standsFor_of_stroke rfl rfl
    exact drawn
  case polylineTo poly =>
    refine c.standsFor_drawnThrough (fun none => c.apply_pointless none) fun last ends => ?_
    exact c.polylineTo_standsFor ends _ _
  case polyBezierTo poly =>
    refine c.standsFor_drawnThrough (fun none => c.apply_pointless none) fun last ends => ?_
    exact c.polyBezierTo_standsFor ends _ _
  all_goals exact c.standsFor_self _

theorem destination?_drawnThrough (draw : Poly → Record)
    (free : ∀ poly, (draw poly).destination? = none) (poly : Poly) :
    ∀ record ∈ c.drawnThrough draw poly, record.destination? = none := by
  intro record member
  unfold drawnThrough at member
  split at member
  · cases member
  · rcases List.mem_cons.mp member with rfl | member
    · exact free _
    · rw [List.mem_singleton.mp member]
      rfl

theorem destination?_standalone (record : Record) :
    ∀ other ∈ c.standalone record, other.destination? = none := by
  cases record
  case lineTo p => exact c.destination?_drawnThrough .polyline (fun _ => rfl) ⟨c.bounds, [p]⟩
  case polylineTo poly => exact c.destination?_drawnThrough .polyline (fun _ => rfl) poly
  case polyBezierTo poly => exact c.destination?_drawnThrough .polyBezier (fun _ => rfl) poly
  all_goals
    intro other member
    rw [List.mem_singleton.mp member]
    rfl

def standaloneRun (c : Context) : List Record → List Record
  | [] => []
  | record :: rest => c.standalone record ++ standaloneRun (c.apply record).1 rest

theorem play_append (records rest : List Record) :
    c.play (records ++ rest) = (c.play records).play rest := List.foldl_append

theorem errors_cons (record : Record) (rest : List Record) :
    c.errors (record :: rest) = (c.apply record).2.toList ++ (c.apply record).1.errors rest := by
  change ((c.apply record).2 :: (c.apply record).1.outcomes rest).filterMap id = _
  cases (c.apply record).2 <;> rfl

theorem errors_append (records rest : List Record) :
    c.errors (records ++ rest) = c.errors records ++ (c.play records).errors rest := by
  induction records generalizing c with
  | nil => rfl
  | cons record records ih =>
    rw [List.cons_append, errors_cons, errors_cons, ih, List.append_assoc]
    rfl

theorem play_standaloneRun (records : List Record) :
    c.play (c.standaloneRun records) = c.play records ∧
    c.errors (c.standaloneRun records) = c.errors records ∧
    ∀ record ∈ c.standaloneRun records, record.destination? = none := by
  induction records generalizing c with
  | nil => exact ⟨rfl, rfl, nofun⟩
  | cons record rest ih =>
    obtain ⟨effect, reported⟩ := c.standsFor_standalone record
    obtain ⟨final, later, free⟩ := ih (c.apply record).1
    refine ⟨?_, ?_, ?_⟩
    · rw [standaloneRun, play_append, ← effect, final]
      rfl
    · rw [standaloneRun, errors_append, ← effect, ← reported, later, errors_cons]
    · intro other member
      rcases List.mem_append.mp member with own | member
      · exact c.destination?_standalone record other own
      · exact free other member

end Context

end Metafile
