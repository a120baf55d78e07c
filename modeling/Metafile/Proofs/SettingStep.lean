import Metafile.Proofs.ObjectStep
import Metafile.Proofs.RasterLaws
import Metafile.Proofs.SavedStates
import Metafile.Proofs.Success

/-! # Steps that do not draw

A record that does not draw can fail, and then nothing has happened. Otherwise it changes objects
and the drawing state, or it moves a drawing state to the stack of saved ones or back from there. -/
namespace Metafile

def Record.draws : Record → Bool
  | .setPixelV _ _ | .lineTo _ | .polylineTo _ | .polyBezierTo _ | .polyline _ | .polyBezier _
  | .polyPolyline _ | .rectangle _ | .ellipse _ | .polygon _ | .polyPolygon _ | .bitBlt _
  | .stretchBlt _ | .stretchDiBits _ | .extTextOutA _ | .extTextOutW _ => true
  | _ => false

theorem DrawState.drawWith_clip (s : DrawState) (object : GraphicsObject) :
    (s.drawWith object).clip = s.clip := by
  cases object <;> rfl

namespace Context

def Area (c : Context) (area : Mask) : Prop :=
  c.rasterizer.Area c.raster.width c.raster.height area

/-- The clips that one record can set: the old one, none, or a combination with an area. -/
def Reclips (c : Context) (clip : Clip) : Prop :=
  clip = c.state.clip ∨ clip = none ∨
    ∃ area op, c.Area area ∧ clip = c.state.clip.combine area op

/-- The ways in which a step that does not draw can end. -/
inductive Settles (c : Context) : Outcome → Prop where
  | refused (e : Error) : c.Settles (c, some e)
  | changed (objects : ObjectTable) (state : DrawState) (clip : c.Reclips state.clip) :
      c.Settles ({ c with objects, state }, none)
  | saved : c.Settles ({ c with saved := c.saved.push c.state }, none)
  | restored {index : Int32} {state : DrawState} {saved : SaveStack DrawState}
      (popped : c.saved.popTo? index = some (state, saved)) :
      c.Settles ({ c with state, saved }, none)

theorem Settles.raster {c : Context} {outcome : Outcome} (settled : c.Settles outcome) :
    outcome.1.raster = c.raster := by
  cases settled <;> rfl

theorem Settles.plotter {c : Context} {outcome : Outcome} (settled : c.Settles outcome) :
    outcome.1.plotter = c.plotter := by
  cases settled <;> rfl

variable (c : Context)

theorem done_settles : c.Settles c.done := .changed c.objects c.state (Or.inl rfl)

theorem setState_settles {state : DrawState} (clip : c.Reclips state.clip) :
    c.Settles (c.setState state) := .changed c.objects state clip

theorem proceed_settles {α : Type} {step : Except Error α} {next : α → Outcome}
    (settled : ∀ a, step = .ok a → c.Settles (next a)) : c.Settles (c.proceed step next) := by
  cases step with
  | error e => exact .refused e
  | ok a => exact settled a rfl

theorem mask?_of_emptyMask {mask : Mask} (made : c.emptyMask = .ok mask) : c.mask? = some mask := by
  unfold emptyMask at made
  split at made
  · rename_i found
    cases made
    exact found
  · cases made

theorem areaMask_area {shape? : Option Shape} {area : Mask} (made : c.areaMask shape? = .ok area) :
    c.Area area := by
  unfold areaMask at made
  split at made
  · rename_i covered
    cases made
    obtain ⟨shape, -, covered⟩ := Option.bind_eq_some_iff.mp covered
    obtain ⟨blank, found, rfl⟩ := Option.map_eq_some_iff.mp covered
    exact ⟨blank, found, Or.inr ⟨shape, rfl⟩⟩
  · exact ⟨area, c.mask?_of_emptyMask made, Or.inl rfl⟩

theorem regionMask_area {region : Region} {area : Mask} (made : c.regionMask region = .ok area) :
    c.Area area := by
  obtain ⟨blank, empty, made⟩ := of_bind_ok made
  have found := c.mask?_of_emptyMask empty
  split at made
  · rename_i shape _
    cases made
    exact ⟨blank, found, Or.inr ⟨shape, rfl⟩⟩
  · cases made
    exact ⟨_, found, Or.inl rfl⟩

theorem insertObject_settles (handle : UInt32) (object : GraphicsObject) :
    c.Settles (c.insertObject handle object) := by
  rw [insertObject_eq]
  split
  · exact .refused _
  split
  · exact .refused _
  · exact .changed _ c.state (Or.inl rfl)

theorem selectStock_settles (handle : UInt32) : c.Settles (c.selectStock handle) := by
  unfold selectStock
  split
  · exact .changed _ _ (Or.inl rfl)
  · exact .changed _ _ (Or.inl rfl)
  split
  · exact .changed _ c.state (Or.inl rfl)
  split
  · exact .changed _ _ (Or.inl rfl)
  · exact .refused _

theorem selectObject_settles (handle : UInt32) : c.Settles (c.selectObject handle) := by
  cases stock : Stock.isStock handle with
  | true =>
    rw [selectObject, stock]
    exact c.selectStock_settles handle
  | false =>
    rw [c.selectObject_eq handle stock]
    split
    · exact .changed _ _ (Or.inl (DrawState.drawWith_clip _ _))
    · exact .refused _

theorem selectPalette_settles (handle : UInt32) : c.Settles (c.selectPalette handle) := by
  by_cases default : handle = Stock.defaultPalette
  · rw [selectPalette, if_pos default]
    exact c.done_settles
  · rw [c.selectPalette_eq handle default]
    split
    · exact .changed _ c.state (Or.inl rfl)
    · exact .refused _

theorem deleteObject_settles (handle : UInt32) : c.Settles (c.deleteObject handle) := by
  cases stock : Stock.isStock handle with
  | true =>
    rw [deleteObject, stock]
    exact c.done_settles
  | false =>
    rw [c.deleteObject_eq handle stock]
    split
    · exact .changed _ c.state (Or.inl rfl)
    · exact .refused _

theorem combineClip_settles (shape? : Option Shape) (op : ClipOp) :
    c.Settles (c.combineClip shape? op) := by
  refine c.proceed_settles fun area made => ?_
  exact c.setState_settles (Or.inr (Or.inr ⟨area, op, c.areaMask_area made, rfl⟩))

theorem clipRect_settles (rect : Rect) (op : ClipOp) : c.Settles (c.clipRect rect op) :=
  c.combineClip_settles (c.rectShape? rect) op

theorem selectClipRegion_settles (mode : UInt32) (region? : Option Region) :
    c.Settles (c.selectClipRegion mode region?) := by
  unfold selectClipRegion
  split
  · exact .refused _
  · exact c.setState_settles (Or.inr (Or.inl rfl))
  · exact c.done_settles
  · refine c.proceed_settles fun area made => ?_
    exact c.setState_settles (Or.inr (Or.inr ⟨area, _, c.regionMask_area made, rfl⟩))

theorem restore_settles (index : Int32) : c.Settles (c.restore index) := by
  unfold restore
  split
  · rename_i popped
    exact .restored popped
  · exact c.done_settles

theorem apply_settles {record : Record} (idle : record.draws = false) :
    c.Settles (c.apply record) := by
  cases record
  case saveDc => exact .saved
  case restoreDc index => exact c.restore_settles index
  case intersectClipRect rect | excludeClipRect rect => exact c.clipRect_settles rect _
  case extSelectClipRgn mode region? => exact c.selectClipRegion_settles mode region?
  case createPen | extCreatePen | createBrushIndirect | createDibPatternBrushPt
      | extCreateFontIndirectW | createPalette => exact c.insertObject_settles _ _
  case selectObject handle => exact c.selectObject_settles handle
  case selectPalette handle => exact c.selectPalette_settles handle
  case deleteObject handle => exact c.deleteObject_settles handle
  case header | eof | skip => exact c.done_settles
  all_goals first | (cases idle; done) | exact c.setState_settles (Or.inl rfl)

end Context

end Metafile
