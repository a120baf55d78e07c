import Metafile.Proofs.Drawing
import Metafile.Proofs.NewContext

/-! # Effects of records

A record paints, or it changes objects and the drawing state, but never both. All that painting does
to the drawing state is to move the current position: lines and curves that start there move it to
their end, and text moves it along x when it is asked to. -/
namespace Metafile

namespace Record

def destination? : Record → Option Point
  | .lineTo point => some point
  | .polylineTo poly | .polyBezierTo poly => poly.points.getLast?
  | _ => none

def isText : Record → Bool
  | .extTextOutA _ | .extTextOutW _ => true
  | _ => false

end Record

namespace Context

/-- Text leaves the current position where it is, unless it is to follow; it stays at its height. -/
structure Writes (c next : Context) : Prop where
  height : next.state.current.y = c.state.current.y
  still : c.state.textAlign.updatesPosition = false → next.state.current = c.state.current

theorem Writes.of_same {c next : Context} (same : next.state.current = c.state.current) :
    c.Writes next :=
  ⟨congrArg Point.y same, fun _ => same⟩

variable (c : Context)

theorem stroke_state (shape? : Option Shape) : (c.stroke shape?).state = c.state := by
  unfold stroke
  split
  · rfl
  split <;> rfl

theorem fillShape_state (shape : Shape) : (c.fillShape shape).1.state = c.state := by
  unfold fillShape
  cases c.brushInk with
  | error e => rfl
  | ok ink? => cases ink? <;> rfl

theorem fillAndStroke_state (shape? : Option Shape) :
    (c.fillAndStroke shape?).1.state = c.state := by
  cases shape? with
  | none => rfl
  | some shape => exact (stroke_state _ (some shape)).trans (c.fillShape_state shape)

theorem transfer_state (t : Transfer) : (c.transfer t).1.state = c.state := by
  unfold transfer
  cases transferSource t with
  | error e => rfl
  | ok source =>
    dsimp only [proceed]
    cases transferPattern c.state.brush t.rop with
    | error e => rfl
    | ok pattern =>
      dsimp only
      cases c.raster.blit (c.transferBlit t source pattern) c.state.clip <;> rfl

theorem lineTo_current (p : Point) : (c.lineTo p).state.current = p :=
  congrArg DrawState.current (stroke_state (c.moveTo p) _)

theorem polylineTo_current (poly : Poly) :
    (c.polylineTo poly).state.current = poly.points.getLast?.getD c.state.current := by
  unfold polylineTo
  cases poly.points.getLast? with
  | none => rfl
  | some last => exact congrArg DrawState.current (stroke_state (c.moveTo last) _)

theorem polyBezierTo_current (poly : Poly) :
    (c.polyBezierTo poly).state.current = poly.points.getLast?.getD c.state.current := by
  unfold polyBezierTo
  cases poly.points.getLast? with
  | none => rfl
  | some last => exact congrArg DrawState.current (stroke_state (c.moveTo last) _)

theorem drawCharacters_writes (text : TextRun) : c.Writes (c.drawCharacters text).1 := by
  unfold drawCharacters
  dsimp only
  split
  · exact .of_same rfl
  split
  · exact .of_same rfl
  unfold proceed
  split
  · cases follows : c.state.textAlign.updatesPosition with
    | false => exact .of_same rfl
    | true =>
      refine ⟨rfl, fun still => ?_⟩
      rw [follows] at still
      cases still
  · exact .of_same rfl

theorem backed_state (text : TextRun) : (c.backed text).state = c.state := by
  unfold backed
  split <;> rfl

theorem drawNarrowed_writes (text : TextRun) : c.Writes (c.drawNarrowed text).1 := by
  rw [drawNarrowed_eq]
  cases c.areaMask (c.rectShape? text.rectangle) with
  | error e => exact .of_same rfl
  | ok area =>
    have written := drawCharacters_writes (c.withClip (c.state.clip.combine area .intersect)) text
    exact ⟨written.height, written.still⟩

theorem drawTextOut_writes (text : TextRun) : c.Writes (c.drawTextOut text).1 := by
  have written : (c.backed text).Writes (c.drawTextOut text).1 := by
    unfold drawTextOut
    dsimp only
    split
    · exact drawNarrowed_writes _ text
    · exact drawCharacters_writes _ text
  constructor
  · rw [written.height, backed_state]
  · intro still
    rw [written.still (by rw [backed_state, still]), backed_state]

theorem apply_current {record : Record} (draws : record.draws = true)
    (other : record.isText = false) :
    (c.apply record).1.state.current = record.destination?.getD c.state.current := by
  cases record
  case lineTo p => exact c.lineTo_current p
  case polylineTo poly => exact c.polylineTo_current poly
  case polyBezierTo poly => exact c.polyBezierTo_current poly
  case polyline | polyBezier | polyPolyline =>
    exact congrArg DrawState.current (c.stroke_state _)
  case rectangle | ellipse | polygon | polyPolygon =>
    exact congrArg DrawState.current (c.fillAndStroke_state _)
  case bitBlt | stretchBlt | stretchDiBits =>
    exact congrArg DrawState.current (c.transfer_state _)
  case extTextOutA | extTextOutW => cases other
  case setPixelV => rfl
  all_goals cases draws

theorem apply_writes {record : Record} (text : record.isText = true) :
    c.Writes (c.apply record).1 := by
  cases record
  case extTextOutA t | extTextOutW t => exact c.drawTextOut_writes t.text
  all_goals cases text

/-- Records that only set something leave the raster alone. Records that paint leave everything but
the raster and the current position alone. -/
theorem apply_effects (record : Record) :
    (record.draws = false → (c.apply record).1.raster = c.raster) ∧
    (record.draws = true →
      (c.apply record).1.objects = c.objects ∧ (c.apply record).1.saved = c.saved ∧
      ∃ current, (c.apply record).1.state = { c.state with current } ∧
        (record.isText = false → current = record.destination?.getD c.state.current) ∧
        (record.isText = true → current.y = c.state.current.y ∧
          (c.state.textAlign.updatesPosition = false → current = c.state.current))) := by
  refine ⟨c.apply_raster, fun draws => ?_⟩
  have drawn := c.apply_drawn draws
  obtain ⟨current, state⟩ := drawn.state
  have same : (c.apply record).1.state.current = current := by rw [state]
  refine ⟨drawn.objects, drawn.saved, current, state, fun other => ?_, fun text => ?_⟩
  · rw [← same, c.apply_current draws other]
  · rw [← same]
    exact ⟨(c.apply_writes text).height, (c.apply_writes text).still⟩

def clippedLetter : TextOut where
  bounds := ⟨0, 0, 1, 1⟩
  graphicsMode := 1
  exScale := 1
  eyScale := 1
  text := ⟨⟨0, 0⟩, ⟨4⟩, ⟨0, 0, 1, 1⟩, [65], [1], []⟩

/-- Moving to a place paints nothing, a line from there changes nothing but the place, and a letter
under a clip of its own leaves the drawing state as it is. -/
theorem apply_effects_square :
    (square.apply (.moveToEx ⟨0, 1⟩)).1.raster = square.raster ∧
    (square.apply (.lineTo ⟨1, 1⟩)).1.objects = square.objects ∧
    (square.apply (.lineTo ⟨1, 1⟩)).1.saved = square.saved ∧
    (square.apply (.lineTo ⟨1, 1⟩)).1.state = { square.state with current := ⟨1, 1⟩ } ∧
    (square.apply (.extTextOutW clippedLetter)).1.state = square.state := by
  have moved := (square.apply_effects (.moveToEx ⟨0, 1⟩)).1 rfl
  obtain ⟨objects, saved, place, line, ends, -⟩ := (square.apply_effects (.lineTo ⟨1, 1⟩)).2 rfl
  obtain ⟨-, -, next, letter, -, stays⟩ :=
    (square.apply_effects (.extTextOutW clippedLetter)).2 rfl
  refine ⟨moved, objects, saved, ?_, ?_⟩
  · rw [line, ends rfl]
    rfl
  · rw [letter, (stays rfl).2 rfl]

theorem play_raster {records : List Record} (idle : ∀ record ∈ records, record.draws = false) :
    (c.play records).raster = c.raster := by
  induction records generalizing c with
  | nil => rfl
  | cons record rest ih =>
    rw [← c.apply_raster (idle record List.mem_cons_self)]
    exact ih (c.apply record).1 fun later member => idle later (List.mem_cons_of_mem _ member)

theorem play_drawn {records : List Record} (draws : ∀ record ∈ records, record.draws = true) :
    c.Drawn (c.play records) := by
  induction records generalizing c with
  | nil => exact .refl c
  | cons record rest ih =>
    refine (c.apply_drawn (draws record List.mem_cons_self)).trans ?_
    exact ih (c.apply record).1 fun later member => draws later (List.mem_cons_of_mem _ member)

end Context

end Metafile
