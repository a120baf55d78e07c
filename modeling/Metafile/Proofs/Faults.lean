import Metafile.Proofs.Drawing

/-! # Faults of playback

A record that cannot be carried out is passed over, with one exception: an object that is created
under a handle in use ends playback. -/
namespace Metafile

/-- What is reported when something cannot be painted; no handle is at fault. -/
def Error.isPainting : Error → Bool
  | unsupportedPixelFormat _ | invalidBitmap _ | drawing _ => true
  | _ => false

theorem Error.isFatal_of_isPainting {e : Error} (painting : e.isPainting = true) :
    e.isFatal = false := by
  cases e <;> first | rfl | cases painting

def Paints {α : Type} (x : Except Error α) : Prop := ∀ e, x = .error e → e.isPainting = true

namespace Paints

variable {α β : Type}

theorem ok (a : α) : Paints (.ok a) := by
  intro e failed
  cases failed

theorem error {e : Error} (painting : e.isPainting = true) : Paints (.error e : Except Error α) := by
  intro other failed
  cases failed
  exact painting

theorem bind {x : Except Error α} {f : α → Except Error β} (first : Paints x)
    (second : ∀ a, Paints (f a)) : Paints (x >>= f) := by
  cases x with
  | error e => exact error (first e rfl)
  | ok a => exact second a

theorem map {x : Except Error α} (f : α → β) (first : Paints x) : Paints (f <$> x) := by
  cases x with
  | error e => exact error (first e rfl)
  | ok a => exact ok (f a)

end Paints

theorem Dib.checkData_paints (data : Bytes) (width height bits : Nat) :
    Paints (checkData data width height bits) := by
  unfold checkData
  split
  · exact .error rfl
  split
  · exact .error rfl
  · exact .ok ()

theorem Dib.toImage_paints (dib : Dib) : Paints dib.toImage := by
  unfold toImage
  dsimp only
  split
  · exact .error rfl
  split
  · split
    · exact .error rfl
    · exact .bind (checkData_paints _ _ _ _) fun _ => .ok _
  · exact .error rfl

theorem Dib.toTile_paints (dib : Dib) : Paints dib.toTile := by
  unfold toTile
  split
  · exact .ok _
  · rename_i e failed
    exact .error (dib.toImage_paints e failed)

theorem Rasterizer.pattern_paints (r : Rasterizer) (dib : Dib) : Paints (r.pattern dib) := by
  refine .bind dib.toTile_paints fun tile => ?_
  split
  · exact .ok _
  · exact .error rfl

theorem Image.blit_paints (image : Image) (b : Blit) (clip : Clip) :
    Paints (image.blit b clip) := by
  unfold blit
  split
  · exact .error rfl
  split
  · exact .error rfl
  · exact .ok _

theorem Plotter.drawText_paints (t : Plotter) (image : Image) (reader : FontReader) (font : Bytes)
    (text : DeviceText) (clip : Clip) : Paints (t.drawText image reader font text clip) := by
  unfold drawText
  split
  · exact .error rfl
  · exact .ok _

namespace Context

variable (c : Context)

theorem brushInk_paints : Paints c.brushInk := by
  unfold brushInk
  split
  · exact .ok none
  · exact .ok _
  · exact .ok _
  · exact .map _ (c.rasterizer.pattern_paints _)

theorem transferSource_paints (t : Transfer) : Paints (transferSource t) := by
  unfold transferSource
  split
  · exact .map _ (Dib.toImage_paints _)
  · exact .ok none

theorem transferPattern_paints (brush : Brush) (rop : UInt32) :
    Paints (transferPattern brush rop) := by
  unfold transferPattern
  split
  · cases brush with
    | null => exact .ok _
    | solid | hatched => exact .ok _
    | pattern dib => exact .map _ dib.toTile_paints
  · exact .ok _

theorem emptyMask_paints : Paints c.emptyMask := by
  unfold emptyMask
  split
  · exact .ok _
  · exact .error rfl

theorem areaMask_paints (shape? : Option Shape) : Paints (c.areaMask shape?) := by
  unfold areaMask
  split
  · exact .ok _
  · exact c.emptyMask_paints

theorem regionMask_paints (region : Region) : Paints (c.regionMask region) := by
  refine .bind c.emptyMask_paints fun mask => ?_
  split <;> exact .ok _

/-- Whatever is reported after a step lets playback go on. -/
def Outcome.Passes (outcome : Outcome) : Prop := ∀ e, outcome.2 = some e → e.isFatal = false

def Outcome.Paints (outcome : Outcome) : Prop := ∀ e, outcome.2 = some e → e.isPainting = true

namespace Outcome.Paints

theorem of_none {outcome : Outcome} (done : outcome.2 = none) : outcome.Paints := by
  intro e failed
  rw [done] at failed
  cases failed

theorem of_some {outcome : Outcome} {e : Error} (failed : outcome.2 = some e)
    (painting : e.isPainting = true) : outcome.Paints := by
  intro other same
  rw [failed] at same
  cases same
  exact painting

theorem passes {outcome : Outcome} (h : outcome.Paints) : outcome.Passes :=
  fun e failed => e.isFatal_of_isPainting (h e failed)

end Outcome.Paints

theorem proceed_paints {α : Type} {step : Except Error α} {next : α → Outcome}
    (first : Metafile.Paints step) (second : ∀ a, (next a).Paints) :
    (c.proceed step next).Paints := by
  cases step with
  | error e => exact .of_some rfl (first e rfl)
  | ok a => exact second a

theorem fillShape_paints (shape : Shape) : (c.fillShape shape).Paints := by
  refine c.proceed_paints c.brushInk_paints fun ink? => ?_
  cases ink? <;> exact .of_none rfl

theorem fillAndStroke_paints (shape? : Option Shape) : (c.fillAndStroke shape?).Paints := by
  cases shape? with
  | none => exact .of_none rfl
  | some shape => exact c.fillShape_paints shape

theorem transfer_paints (t : Transfer) : (c.transfer t).Paints := by
  refine c.proceed_paints (transferSource_paints t) fun source => ?_
  refine c.proceed_paints (transferPattern_paints _ _) fun pattern => ?_
  exact c.proceed_paints (Image.blit_paints _ _ _) fun _ => .of_none rfl

theorem drawCharacters_paints (text : TextRun) : (c.drawCharacters text).Paints := by
  unfold drawCharacters
  dsimp only
  split
  · exact .of_none rfl
  split
  · exact .of_none rfl
  · refine proceed_paints _ (Plotter.drawText_paints _ _ _ _ _ _) fun _ => ?_
    split <;> exact .of_none rfl

theorem drawTextOut_paints (text : TextRun) : (c.drawTextOut text).Paints := by
  unfold drawTextOut
  dsimp only
  split
  · rw [drawNarrowed_eq]
    exact proceed_paints _ (areaMask_paints _ _) fun _ => drawCharacters_paints _ text
  · exact drawCharacters_paints _ text

theorem combineClip_paints (shape? : Option Shape) (op : ClipOp) :
    (c.combineClip shape? op).Paints :=
  c.proceed_paints (c.areaMask_paints shape?) fun _ => .of_none rfl

theorem selectClipRegion_paints (mode : UInt32) (region? : Option Region) :
    (c.selectClipRegion mode region?).Paints := by
  unfold selectClipRegion
  split
  · exact .of_some rfl rfl
  · exact .of_none rfl
  · exact .of_none rfl
  · exact c.proceed_paints (c.regionMask_paints _) fun _ => .of_none rfl

theorem restore_paints (index : Int32) : (c.restore index).Paints := by
  unfold restore
  split <;> exact .of_none rfl

theorem apply_paints {record : Record} (idle : record.createdHandle? = none)
    (unnamed : record.namedHandle? = none) : (c.apply record).Paints := by
  cases record
  case extSelectClipRgn mode region? => exact c.selectClipRegion_paints mode region?
  case intersectClipRect | excludeClipRect => exact c.combineClip_paints _ _
  case restoreDc index => exact c.restore_paints index
  case rectangle | ellipse | polygon | polyPolygon => exact c.fillAndStroke_paints _
  case bitBlt t | stretchBlt t | stretchDiBits t => exact c.transfer_paints t
  case extTextOutA t | extTextOutW t => exact c.drawTextOut_paints t.text
  all_goals first | (cases idle; done) | (cases unnamed; done) | exact .of_none rfl

theorem LooksUp.passes {c : Context} {handle : UInt32} {outcome : Outcome}
    (step : c.LooksUp handle outcome) : outcome.Passes := by
  intro e failed
  rcases step with ⟨objects, state, rfl⟩ | rfl <;> cases failed
  rfl

/-- Only creating an object can end playback. -/
theorem apply_passes {record : Record} (idle : record.createdHandle? = none) :
    (c.apply record).Passes := by
  cases record
  case selectObject handle => exact (c.selectObject_looksUp handle).passes
  case selectPalette handle => exact (c.selectPalette_looksUp handle).passes
  case deleteObject handle => exact (c.deleteObject_looksUp handle).passes
  all_goals exact (c.apply_paints idle rfl).passes

end Context

end Metafile
