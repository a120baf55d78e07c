import Metafile.Proofs.Drawing
import Metafile.Proofs.TableCalls
import Metafile.Proofs.TransferLoop

/-! # Playback in place

A record changes one context step by step: an object is selected before it is looked up, the clip is
taken out of the state while it is combined, pixels are written one by one, and a text puts a clip in
the place of another one for a while. What a step has changed is there for the next one, and stays
when that one fails. -/
namespace Metafile

/-- The outcome of a step as that of a change in place. -/
def Context.Outcome.report (outcome : Outcome) : Except Error Unit × Context :=
  (match outcome.2 with
    | none => .ok ()
    | some e => .error e, outcome.1)

abbrev ContextUpdate := InPlace Context

namespace ContextUpdate

def ask {α : Type} (step : Context → Except Error α) : ContextUpdate α := do
  InPlace.check (step (← get))

def changeState (change : DrawState → DrawState) : ContextUpdate Unit :=
  modify fun c => { c with state := change c.state }

def changeMode {μ : Type} (mode? : Option μ) (change : μ → DrawState → DrawState) :
    ContextUpdate Unit :=
  match mode? with
  | some mode => changeState (change mode)
  | none => pure ()

def onObjects {α : Type} (update : TableUpdate α) : ContextUpdate α := do
  let c ← get
  let (result, objects) := update.outcome c.objects
  set { c with objects }
  InPlace.check result

def insertObject (handle : UInt32) (object : GraphicsObject) : ContextUpdate Unit :=
  onObjects (TableUpdate.insert handle object)

def selectStock (handle : UInt32) : ContextUpdate Unit :=
  match Pen.stock? handle, Brush.stock? handle with
  | some pen, _ => do
      changeState fun s => { s with pen }
      onObjects (TableUpdate.deselect .pen)
  | none, some brush => do
      changeState fun s => { s with brush }
      onObjects (TableUpdate.deselect .brush)
  | none, none => do
      if handle = Stock.defaultPalette then onObjects (TableUpdate.deselect .palette)
      else if handle ∈ Stock.fonts then
        changeState fun s => { s with font := .default }
        onObjects (TableUpdate.deselect .font)
      else throw (.unknownHandle handle)

def selectObject (handle : UInt32) : ContextUpdate Unit := do
  if Stock.isStock handle then selectStock handle
  else
    let _ ← onObjects (TableUpdate.select handle)
    let object ← ask fun c => c.objects.get handle
    changeState (·.drawWith object)

def selectPalette (handle : UInt32) : ContextUpdate Unit := do
  if handle = Stock.defaultPalette then return
  let _ ← onObjects (TableUpdate.select handle)

def deleteObject (handle : UInt32) : ContextUpdate Unit := do
  if Stock.isStock handle then return
  let _ ← onObjects (TableUpdate.delete handle)

def restore (index : Int32) : ContextUpdate Unit := do
  match (← get).saved.popTo? index with
  | some (state, saved) => modify fun c => { c with state, saved }
  | none => return

def takeClip : ContextUpdate Clip := modifyGet fun c => (c.state.clip, c.withClip none)

def putClip (clip : Clip) : ContextUpdate Unit := modify (·.withClip clip)

def combineClip (shape? : Option Shape) (op : ClipOp) : ContextUpdate Unit := do
  let area ← ask fun c => c.areaMask shape?
  putClip ((← takeClip).combine area op)

def clipRect (r : Rect) (op : ClipOp) : ContextUpdate Unit := do
  combineClip ((← get).rectShape? r) op

def selectClipRegion (mode : UInt32) (region? : Option Region) : ContextUpdate Unit := do
  match ClipOp.ofMode? mode, region? with
  | none, _ => throw (.drawing (.unknownRegionMode mode))
  | some .replace, none => putClip none
  | some _, none => return
  | some op, some region =>
      let area ← ask fun c => c.regionMask region
      putClip ((← takeClip).combine area op)

def stroke (shape? : Option Shape) : ContextUpdate Unit := modify (·.stroke shape?)

def fillShape (shape : Shape) : ContextUpdate Unit := do
  match ← ask Context.brushInk with
  | none => return
  | some ink =>
      modify fun c => { c with
        raster := c.plotter.fill c.raster shape ink c.state.fillMode.rule c.state.clip }

/-- The outline is drawn before it is said that a shape could not be filled. -/
def fillAndStroke (shape? : Option Shape) : ContextUpdate Unit := do
  match shape? with
  | none => return
  | some shape =>
      let filled ← (fillShape shape).settle
      stroke (some shape)
      InPlace.check filled

def blit (b : Blit) : ContextUpdate Nat := do
  match Rop.ofCode? b.rop with
  | none => throw (.drawing (.unknownRop b.rop))
  | some op =>
      if op.usesSource && b.source.isNone then throw (.invalidBitmap (.missingSource b.rop))
      modifyGet fun c =>
        let (written, raster) := b.visits op c.state.clip c.raster
        (written, { c with raster })

def transfer (t : Transfer) : ContextUpdate Unit := do
  let source ← InPlace.check (Context.transferSource t)
  let pattern ← ask fun c => Context.transferPattern c.state.brush t.rop
  let _ ← blit ((← get).transferBlit t source pattern)

def loadFont : ContextUpdate (Option Bytes) :=
  modifyGet fun c =>
    let (font?, fonts) := c.fonts.load c.state.font.face
    (font?, { c with fonts })

def drawText (font : Bytes) (text : TextRun) (reference : Point) : ContextUpdate Float32 := do
  match (← get).fonts.reader font with
  | .error reason => throw (.drawing (.badFont reason))
  | .ok face =>
      modifyGet fun c =>
        let (width, raster) :=
          c.plotter.drawRun c.raster face (c.deviceText text reference) c.state.clip
        (width, { c with raster })

def drawCharacters (text : TextRun) : ContextUpdate Unit := do
  if text.codeUnits.isEmpty then return
  let s := (← get).state
  let reference := if s.textAlign.updatesPosition then s.current else text.reference
  match ← loadFont with
  | none => return
  | some font =>
      let width ← drawText font text reference
      if s.textAlign.updatesPosition then
        let advance := (← get).textAdvance text width
        changeState fun s =>
          { s with current.x := Context.afterText s.textAlign reference.x advance }

/-- The clip is put back before it is said that the characters could not be drawn. -/
def drawTextOut (text : TextRun) : ContextUpdate Unit := do
  modify (·.backed text)
  if text.options.isClipped then
    let clip := (← get).state.clip
    clipRect text.rectangle .intersect
    let drawn ← (drawCharacters text).settle
    putClip clip
    InPlace.check drawn
  else drawCharacters text

def apply (record : Record) : ContextUpdate Unit :=
  match record with
  | .header _ | .eof _ | .skip _ _ => pure ()
  | .setMapMode mode => changeMode (MapMode.ofCode? mode) fun mapMode s => { s with mapMode }
  | .setWindowExtEx size => changeState fun s => { s with windowExt := some size }
  | .setWindowOrgEx point => changeState fun s => { s with windowOrg := point }
  | .setViewportExtEx size => changeState fun s => { s with viewportExt := some size }
  | .setViewportOrgEx point => changeState fun s => { s with viewportOrg := point }
  | .setWorldTransform transform => changeState fun s => { s with world := transform }
  | .modifyWorldTransform transform mode =>
      changeMode (TransformMode.ofCode? mode) fun mode s =>
        { s with world := mode.change s.world transform }
  | .setBkMode mode => changeMode (BackgroundMode.ofCode? mode) fun bkMode s => { s with bkMode }
  | .setPolyFillMode mode => changeMode (FillMode.ofCode? mode) fun fillMode s => { s with fillMode }
  | .setTextAlign align => changeState fun s => { s with textAlign := ⟨align⟩ }
  | .setTextColor color => changeState fun s => { s with textColor := color }
  | .setBkColor color => changeState fun s => { s with bkColor := color }
  | .moveToEx point => changeState fun s => { s with current := point }
  | .saveDc => modify fun c => { c with saved := c.saved.push c.state }
  | .restoreDc index => restore index
  | .intersectClipRect rect => clipRect rect .intersect
  | .excludeClipRect rect => clipRect rect .difference
  | .extSelectClipRgn mode region? => selectClipRegion mode region?
  | .createPen handle pen => insertObject handle (.pen pen)
  | .extCreatePen handle pen => insertObject handle (.extPen pen)
  | .createBrushIndirect handle brush => insertObject handle (.brush brush)
  | .createDibPatternBrushPt handle _ dib => insertObject handle (.bitmap dib)
  | .extCreateFontIndirectW handle font => insertObject handle (.font font)
  | .createPalette handle palette => insertObject handle (.palette palette)
  | .selectObject handle => selectObject handle
  | .selectPalette handle => selectPalette handle
  | .deleteObject handle => deleteObject handle
  | .setPixelV point color => modify fun c => (c.setPixel point color).1
  | .lineTo point => modify (·.lineTo point)
  | .polylineTo poly => modify (·.polylineTo poly)
  | .polyBezierTo poly => modify (·.polyBezierTo poly)
  | .polyline poly => do stroke ((← get).lineShape? poly.points false)
  | .polyBezier poly => do stroke ((← get).curveShape? poly.points)
  | .polyPolyline poly => do stroke ((← get).figuresShape? poly false)
  | .rectangle rect => do fillAndStroke ((← get).rectShape? rect)
  | .ellipse rect => do fillAndStroke ((← get).ellipseShape? rect)
  | .polygon poly => do fillAndStroke ((← get).lineShape? poly.points true)
  | .polyPolygon poly => do fillAndStroke ((← get).figuresShape? poly true)
  | .bitBlt t | .stretchBlt t | .stretchDiBits t => transfer t
  | .extTextOutA t | .extTextOutW t => drawTextOut t.text

variable (c : Context)

theorem outcome_ask {α : Type} {step : Context → Except Error α} {rest : α → ContextUpdate Unit}
    {next : α → Context.Outcome}
    (same : ∀ a, step c = .ok a → (rest a).outcome c = (next a).report) :
    (ask step >>= rest).outcome c = (c.proceed (step c) next).report := by
  rw [ask, bind_assoc, InPlace.outcome_get, InPlace.outcome_bind, InPlace.outcome_check]
  cases found : step c with
  | error e => rfl
  | ok a => exact same a found

theorem outcome_onObjects {α : Type} (update : TableUpdate α) :
    (onObjects update).outcome c =
      ((update.outcome c.objects).1, { c with objects := (update.outcome c.objects).2 }) := rfl

theorem outcome_insertObject (handle : UInt32) (object : GraphicsObject) :
    (insertObject handle object).outcome c = (c.insertObject handle object).report := by
  rw [insertObject, outcome_onObjects, TableUpdate.outcome_insert, Context.insertObject]
  cases c.objects.insert handle object <;> rfl

theorem outcome_selectStock (handle : UInt32) :
    (selectStock handle).outcome c = (c.selectStock handle).report := by
  unfold selectStock Context.selectStock
  cases Pen.stock? handle with
  | some pen => rfl
  | none =>
    cases Brush.stock? handle with
    | some brush => rfl
    | none =>
      dsimp only
      split
      · rfl
      split <;> rfl

/-- What has been selected is there when it is looked up. -/
theorem outcome_selectObject (handle : UInt32) :
    (selectObject handle).outcome c = (c.selectObject handle).report := by
  unfold selectObject Context.selectObject
  split
  · exact outcome_selectStock c handle
  · rw [InPlace.outcome_bind, outcome_onObjects, TableUpdate.outcome_select]
    cases c.objects.select handle with
    | error e => rfl
    | ok selected => exact outcome_ask _ fun _ _ => rfl

theorem outcome_selectPalette (handle : UInt32) :
    (selectPalette handle).outcome c = (c.selectPalette handle).report := by
  unfold selectPalette Context.selectPalette
  split
  · rfl
  · change InPlace.outcome (onObjects _ >>= _) c = _
    rw [InPlace.outcome_bind, outcome_onObjects, TableUpdate.outcome_select]
    cases c.objects.select handle <;> rfl

theorem outcome_deleteObject (handle : UInt32) :
    (deleteObject handle).outcome c = (c.deleteObject handle).report := by
  unfold deleteObject Context.deleteObject
  split
  · rfl
  · change InPlace.outcome (onObjects _ >>= _) c = _
    rw [InPlace.outcome_bind, outcome_onObjects, TableUpdate.outcome_delete]
    cases c.objects.delete handle <;> rfl

theorem outcome_restore (index : Int32) : (restore index).outcome c = (c.restore index).report := by
  rw [restore, InPlace.outcome_get, Context.restore]
  cases c.saved.popTo? index <;> rfl

theorem outcome_combineClip (shape? : Option Shape) (op : ClipOp) :
    (combineClip shape? op).outcome c = (c.combineClip shape? op).report := by
  exact outcome_ask c fun _ _ => rfl

theorem outcome_clipRect (rect : Rect) (op : ClipOp) :
    (clipRect rect op).outcome c = (c.clipRect rect op).report := by
  rw [clipRect, InPlace.outcome_get, outcome_combineClip, Context.clipRect]

theorem outcome_selectClipRegion (mode : UInt32) (region? : Option Region) :
    (selectClipRegion mode region?).outcome c = (c.selectClipRegion mode region?).report := by
  unfold selectClipRegion Context.selectClipRegion
  cases ClipOp.ofMode? mode with
  | none => rfl
  | some op =>
    cases region? with
    | none => cases op <;> rfl
    | some region => cases op <;> exact outcome_ask c fun _ _ => rfl

theorem outcome_fillShape (shape : Shape) :
    (fillShape shape).outcome c = (c.fillShape shape).report := by
  refine outcome_ask c fun ink? _ => ?_
  cases ink? <;> rfl

theorem outcome_fillAndStroke (shape? : Option Shape) :
    (fillAndStroke shape?).outcome c = (c.fillAndStroke shape?).report := by
  cases shape? with
  | none => rfl
  | some shape =>
    change InPlace.outcome ((fillShape shape).settle >>= _) c = _
    rw [InPlace.outcome_settle, outcome_fillShape]
    rfl

theorem outcome_blit (b : Blit) :
    (blit b).outcome c = match c.raster.blit b c.state.clip with
      | .ok (written, raster) => (.ok written, { c with raster })
      | .error e => (.error e, c) := by
  rw [blit, Blit.blit_eq]
  cases Rop.ofCode? b.rop with
  | none => rfl
  | some op =>
    dsimp only
    split <;> rfl

theorem outcome_transfer (t : Transfer) : (transfer t).outcome c = (c.transfer t).report := by
  rw [transfer, InPlace.outcome_bind, InPlace.outcome_check, Context.transfer]
  cases Context.transferSource t with
  | error e => rfl
  | ok source =>
    refine outcome_ask c fun pattern _ => ?_
    rw [InPlace.outcome_get, InPlace.outcome_bind, outcome_blit]
    cases c.raster.blit (c.transferBlit t source pattern) c.state.clip <;> rfl

theorem outcome_drawText (font : Bytes) (text : TextRun) (reference : Point) :
    (drawText font text reference).outcome c =
      match c.plotter.drawText c.raster c.fonts.reader font (c.deviceText text reference)
        c.state.clip with
      | .ok (width, raster) => (.ok width, { c with raster })
      | .error e => (.error e, c) := by
  rw [drawText, InPlace.outcome_get, Plotter.drawText]
  cases c.fonts.reader font <;> rfl

theorem outcome_drawCharacters (text : TextRun) :
    (drawCharacters text).outcome c = (c.drawCharacters text).report := by
  unfold drawCharacters Context.drawCharacters
  split
  · rfl
  rw [InPlace.outcome_get]
  dsimp only
  rw [loadFont, InPlace.outcome_modifyGet]
  dsimp only
  cases (c.fonts.load c.state.font.face).1 with
  | none => rfl
  | some font =>
    dsimp only
    rw [InPlace.outcome_bind, outcome_drawText]
    generalize Plotter.drawText _ _ _ _ _ _ = drawn
    cases drawn with
    | error e => rfl
    | ok drawn =>
      dsimp only [Context.proceed]
      split <;> rfl

theorem outcome_drawTextOut (text : TextRun) :
    (drawTextOut text).outcome c = (c.drawTextOut text).report := by
  rw [drawTextOut, InPlace.outcome_modify, Context.drawTextOut]
  split
  · rw [InPlace.outcome_get, InPlace.outcome_bind, outcome_clipRect, Context.drawNarrowed]
    cases (c.backed text).clipRect text.rectangle .intersect with
    | mk narrowed error? =>
      cases error? with
      | some e => rfl
      | none =>
        change InPlace.outcome ((drawCharacters text).settle >>= _) narrowed = _
        rw [InPlace.outcome_settle, outcome_drawCharacters]
        rfl
  · exact outcome_drawCharacters _ text

theorem outcome_changeMode {μ : Type} (mode? : Option μ) (change : μ → DrawState → DrawState)
    {state : DrawState} (same : (mode?.elim c.state fun mode => change mode c.state) = state) :
    (changeMode mode? change).outcome c = (c.setState state).report := by
  subst same
  cases mode? <;> rfl

/-- Made in place, a record comes to the same, also when one of its steps fails. -/
theorem outcome_apply (record : Record) : (apply record).outcome c = (c.apply record).report := by
  cases record
  case setMapMode mode => exact outcome_changeMode c _ _ (by cases MapMode.ofCode? mode <;> rfl)
  case modifyWorldTransform transform mode =>
    exact outcome_changeMode c _ _ (by cases TransformMode.ofCode? mode <;> rfl)
  case setBkMode mode => exact outcome_changeMode c _ _ (by cases BackgroundMode.ofCode? mode <;> rfl)
  case setPolyFillMode mode => exact outcome_changeMode c _ _ (by cases FillMode.ofCode? mode <;> rfl)
  case restoreDc index => exact outcome_restore c index
  case intersectClipRect rect | excludeClipRect rect => exact outcome_clipRect c rect _
  case extSelectClipRgn mode region? => exact outcome_selectClipRegion c mode region?
  case createPen | extCreatePen | createBrushIndirect | createDibPatternBrushPt
      | extCreateFontIndirectW | createPalette => exact outcome_insertObject c _ _
  case selectObject handle => exact outcome_selectObject c handle
  case selectPalette handle => exact outcome_selectPalette c handle
  case deleteObject handle => exact outcome_deleteObject c handle
  case rectangle | ellipse | polygon | polyPolygon =>
    rw [apply, InPlace.outcome_get, outcome_fillAndStroke]
    rfl
  case bitBlt t | stretchBlt t | stretchDiBits t => exact outcome_transfer c t
  case extTextOutA t | extTextOutW t => exact outcome_drawTextOut c t.text
  all_goals rfl

end ContextUpdate

end Metafile
