import Metafile.Proofs.Repaint
import Metafile.Proofs.SettingStep

/-! # What drawing changes

A drawing record changes the raster as far as the clip shows it, may move the current position, and
leaves the rest of the context alone. The other records leave the raster alone. -/
namespace Metafile

namespace Context

/-- What drawing may make of a context; only what is known about fonts is left open. -/
structure Drawn (c next : Context) : Prop where
  plotter : next.plotter = c.plotter
  bounds : next.bounds = c.bounds
  objects : next.objects = c.objects
  saved : next.saved = c.saved
  state : ∃ current, next.state = { c.state with current }
  raster : c.plotter.Repaints c.state.clip c.raster next.raster

namespace Drawn

variable {c next last : Context}

theorem refl (c : Context) : c.Drawn c :=
  ⟨rfl, rfl, rfl, rfl, ⟨c.state.current, rfl⟩, .refl _ _⟩

theorem clip (h : c.Drawn next) : next.state.clip = c.state.clip := by
  obtain ⟨current, same⟩ := h.state
  rw [same]

theorem trans (first : c.Drawn next) (second : next.Drawn last) : c.Drawn last := by
  refine ⟨second.plotter.trans first.plotter, second.bounds.trans first.bounds,
    second.objects.trans first.objects, second.saved.trans first.saved, ?_, ?_⟩
  · obtain ⟨current, middle⟩ := first.state
    obtain ⟨current', final⟩ := second.state
    exact ⟨current', by rw [final, middle]⟩
  · have painted := second.raster
    rw [first.clip, first.plotter] at painted
    exact .trans first.raster painted

theorem of_raster {raster : Image} (h : c.plotter.Repaints c.state.clip c.raster raster) :
    c.Drawn { c with raster } :=
  ⟨rfl, rfl, rfl, rfl, ⟨c.state.current, rfl⟩, h⟩

end Drawn

variable (c : Context)

theorem proceed_drawn {α : Type} {step : Except Error α} {next : α → Outcome}
    (drawn : ∀ a, step = .ok a → c.Drawn (next a).1) : c.Drawn (c.proceed step next).1 := by
  cases step with
  | error e => exact .refl c
  | ok a => exact drawn a rfl

theorem stroke_drawn (shape? : Option Shape) : c.Drawn (c.stroke shape?) := by
  unfold stroke
  split
  · exact .refl c
  split
  · exact .refl c
  · exact .of_raster (Plotter.stroke_repaints _ _ _)

theorem brushInk_inks {ink : Ink} (h : c.brushInk = .ok (some ink)) : c.rasterizer.Inks ink := by
  unfold brushInk at h
  split at h
  · cases h
  · cases h
    exact .solid _
  · cases h
    exact .solid _
  · obtain ⟨tile, made, same⟩ := of_map_ok h
    cases same
    exact .tiled made

theorem fillShape_drawn (shape : Shape) : c.Drawn (c.fillShape shape).1 := by
  refine c.proceed_drawn fun ink? brush => ?_
  cases ink? with
  | none => exact .refl c
  | some ink => exact .of_raster (Plotter.fill_repaints (c.brushInk_inks brush) _ _)

theorem fillAndStroke_drawn (shape? : Option Shape) : c.Drawn (c.fillAndStroke shape?).1 := by
  cases shape? with
  | none => exact .refl c
  | some shape => exact (c.fillShape_drawn shape).trans (stroke_drawn _ (some shape))

theorem moveTo_drawn (p : Point) : c.Drawn (c.moveTo p) :=
  ⟨rfl, rfl, rfl, rfl, ⟨p, rfl⟩, .refl _ _⟩

theorem lineTo_drawn (p : Point) : c.Drawn (c.lineTo p) :=
  (c.moveTo_drawn p).trans (stroke_drawn _ _)

theorem polylineTo_drawn (poly : Poly) : c.Drawn (c.polylineTo poly) := by
  unfold polylineTo
  split
  · exact .refl c
  · exact (c.moveTo_drawn _).trans (stroke_drawn _ _)

theorem polyBezierTo_drawn (poly : Poly) : c.Drawn (c.polyBezierTo poly) := by
  unfold polyBezierTo
  split
  · exact .refl c
  · exact (c.moveTo_drawn _).trans (stroke_drawn _ _)

theorem setPixel_drawn (p : Point) (color : ColorRef) : c.Drawn (c.setPixel p color).1 :=
  .of_raster (Plotter.setPixel_repaints _ _ color)

theorem transfer_drawn (t : Transfer) : c.Drawn (c.transfer t).1 := by
  refine c.proceed_drawn fun source _ => ?_
  refine c.proceed_drawn fun pattern _ => ?_
  refine c.proceed_drawn fun ⟨count, raster⟩ blitted => ?_
  exact .of_raster (Plotter.blit_repaints blitted)

theorem Drawn.of_fonts {next : Context} (fonts : FontLibrary) (h : Drawn { c with fonts } next) :
    c.Drawn next :=
  ⟨h.plotter, h.bounds, h.objects, h.saved, h.state, h.raster⟩

theorem drawCharacters_drawn (text : TextRun) : c.Drawn (c.drawCharacters text).1 := by
  unfold drawCharacters
  dsimp only
  split
  · exact .refl c
  refine .of_fonts c (c.fonts.load c.state.font.face).2 ?_
  split
  · exact .refl _
  · refine proceed_drawn _ fun ⟨width, raster⟩ drawn => ?_
    have painted := Drawn.of_raster (c := { c with fonts := (c.fonts.load c.state.font.face).2 })
      (Plotter.drawText_repaints drawn)
    dsimp only
    split
    · exact painted.trans ⟨rfl, rfl, rfl, rfl, ⟨_, rfl⟩, .refl _ _⟩
    · exact painted

theorem backed_drawn (text : TextRun) : c.Drawn (c.backed text) := by
  unfold backed
  split
  · exact .of_raster (Plotter.fillSolid_repaints _ _ _)
  · exact .refl c

def withClip (clip : Clip) : Context := { c with state := { c.state with clip } }

/-- Draws the characters of a text inside an area only. -/
def drawInside (text : TextRun) (area : Mask) : Outcome :=
  let drawn := (c.withClip (c.state.clip.combine area .intersect)).drawCharacters text
  (drawn.1.withClip c.state.clip, drawn.2)

theorem drawNarrowed_eq (text : TextRun) :
    c.drawNarrowed text =
      c.proceed (c.areaMask (c.rectShape? text.rectangle)) (c.drawInside text) := by
  unfold drawNarrowed clipRect combineClip
  cases c.areaMask (c.rectShape? text.rectangle) <;> rfl

theorem drawInside_drawn (text : TextRun) {area : Mask} (made : c.Area area) :
    c.Drawn (c.drawInside text area).1 := by
  have h := drawCharacters_drawn (c.withClip (c.state.clip.combine area .intersect)) text
  refine ⟨h.plotter, h.bounds, h.objects, h.saved, ?_, .narrowed made h.raster⟩
  obtain ⟨current, same⟩ := h.state
  exact ⟨current, congrArg (fun s : DrawState => { s with clip := c.state.clip }) same⟩

theorem drawNarrowed_drawn (text : TextRun) : c.Drawn (c.drawNarrowed text).1 := by
  rw [drawNarrowed_eq]
  exact c.proceed_drawn fun area made => c.drawInside_drawn text (c.areaMask_area made)

theorem drawTextOut_drawn (text : TextRun) : c.Drawn (c.drawTextOut text).1 := by
  refine (c.backed_drawn text).trans ?_
  unfold drawTextOut
  dsimp only
  split
  · exact drawNarrowed_drawn _ text
  · exact drawCharacters_drawn _ text

theorem apply_drawn {record : Record} (draws : record.draws = true) :
    c.Drawn (c.apply record).1 := by
  cases record
  case setPixelV p color => exact c.setPixel_drawn p color
  case lineTo p => exact c.lineTo_drawn p
  case polylineTo poly => exact c.polylineTo_drawn poly
  case polyBezierTo poly => exact c.polyBezierTo_drawn poly
  case polyline | polyBezier | polyPolyline => exact c.stroke_drawn _
  case rectangle | ellipse | polygon | polyPolygon => exact c.fillAndStroke_drawn _
  case bitBlt t | stretchBlt t | stretchDiBits t => exact c.transfer_drawn t
  case extTextOutA t | extTextOutW t => exact c.drawTextOut_drawn t.text
  all_goals cases draws

theorem combineClip_objects (shape? : Option Shape) (op : ClipOp) :
    (c.combineClip shape? op).1.objects = c.objects := by
  unfold combineClip
  cases c.areaMask shape? <;> rfl

theorem selectClipRegion_objects (mode : UInt32) (region? : Option Region) :
    (c.selectClipRegion mode region?).1.objects = c.objects := by
  unfold selectClipRegion
  split
  case h_4 op region _ => cases c.regionMask region <;> rfl
  all_goals rfl

theorem restore_objects (index : Int32) : (c.restore index).1.objects = c.objects := by
  unfold restore
  split <;> rfl

theorem apply_raster {record : Record} (idle : record.draws = false) :
    (c.apply record).1.raster = c.raster := (c.apply_settles idle).raster

theorem apply_plotter (record : Record) : (c.apply record).1.plotter = c.plotter := by
  cases draws : record.draws with
  | true => exact (c.apply_drawn draws).plotter
  | false => exact (c.apply_settles draws).plotter

/-- What every record preserves is so all along playback, with the same rasterizer. -/
theorem play_induction {c : Context} {P : Context → Prop} (records : List Record) (initial : P c)
    (step : ∀ d record, d.plotter = c.plotter → P d → P (d.apply record).1) :
    P (c.play records) := by
  induction records generalizing c with
  | nil => exact initial
  | cons record rest ih =>
    refine ih (step c record rfl initial) fun d later same h => ?_
    exact step d later (same.trans (c.apply_plotter record)) h

theorem play_plotter (records : List Record) : (c.play records).plotter = c.plotter :=
  play_induction (P := fun d => d.plotter = c.plotter) records rfl
    fun d record _ same => (d.apply_plotter record).trans same

theorem apply_repaints (record : Record) :
    c.plotter.Repaints c.state.clip c.raster (c.apply record).1.raster := by
  cases draws : record.draws with
  | true => exact (c.apply_drawn draws).raster
  | false =>
    rw [c.apply_raster draws]
    exact .refl _ _

end Context

end Metafile
