import Metafile.Proofs.RasterBounds

/-! # What the clip stands for

No step of playback tells two clips apart that show the same pixels: not a clip without a mask from
one that covers the whole raster, and not for the clips of saved states either. So two contexts that
differ in nothing else stay so, their rasters are the same all along, and the same steps fail. -/
namespace Metafile

/-- Each of the clips is absent or a mask of the raster's size, with no other bytes than 0 and 255,
and they show the same pixels. -/
structure Clip.Alike (width height : Nat) (a b : Clip) : Prop where
  left : a.Spans width height ∧ a.Sharp
  right : b.Spans width height ∧ b.Sharp
  agree : ∀ i < width * height, a.shows i = b.shows i

namespace Clip.Alike

variable {width height : Nat} {a b : Clip}

theorem refl (spans : a.Spans width height) (sharp : a.Sharp) : Clip.Alike width height a a :=
  ⟨⟨spans, sharp⟩, ⟨spans, sharp⟩, fun _ _ => rfl⟩

theorem symm (alike : Clip.Alike width height a b) : Clip.Alike width height b a :=
  ⟨alike.right, alike.left, fun i inside => (alike.agree i inside).symm⟩

theorem combine (alike : Clip.Alike width height a b) {area : Mask}
    (spans : area.Spans width height) (sharp : area.Sharp) (op : ClipOp) :
    Clip.Alike width height (a.combine area op) (b.combine area op) := by
  have left := combine_sharp alike.left.2 sharp op
  have right := combine_sharp alike.right.2 sharp op
  refine ⟨⟨combine_spans alike.left.1 spans op, left⟩,
    ⟨combine_spans alike.right.1 spans op, right⟩, fun i inside => ?_⟩
  rw [shows_combine alike.left.1 spans op inside, shows_combine alike.right.1 spans op inside,
    alike.agree i inside]

theorem full {mask : Mask} (alike : Clip.Alike width height (some mask) none) :
    ∀ v ∈ mask.values, v = 255 := by
  intro v member
  obtain ⟨i, inside, rfl⟩ := Array.mem_iff_getElem.mp member
  have found := Array.getElem?_eq_getElem inside
  rw [(alike.left.1 mask rfl).filled] at inside
  have shown : mask.covers i = true := alike.agree i inside
  rw [Mask.covers_eq found] at shown
  refine (alike.left.2 mask rfl _ member).resolve_left fun zero => ?_
  rw [zero] at shown
  cases shown

theorem eq_of_some {m n : Mask} (alike : Clip.Alike width height (some m) (some n)) : m = n := by
  have left := alike.left.1 m rfl
  have right := alike.right.1 n rfl
  have values : m.values = n.values := by
    refine Array.ext (left.filled.trans right.filled.symm) fun i inside inside' => ?_
    have sharp := alike.left.2 m rfl _ (Array.getElem_mem inside)
    have sharp' := alike.right.2 n rfl _ (Array.getElem_mem inside')
    have shown : m.covers i = n.covers i := alike.agree i (left.filled ▸ inside)
    rw [Mask.covers_eq (Array.getElem?_eq_getElem inside),
      Mask.covers_eq (Array.getElem?_eq_getElem inside')] at shown
    rcases sharp with zero | full <;> rcases sharp' with zero' | full' <;> simp_all
  obtain ⟨w, h, bytes, filled⟩ := m
  obtain ⟨w', h', bytes', filled'⟩ := n
  cases left.width_eq.trans right.width_eq.symm
  cases left.height_eq.trans right.height_eq.symm
  cases values
  rfl

/-- Whatever does not tell a full mask from none does not tell the clips apart. -/
theorem congr {α : Type} {draw : Clip → α} (alike : Clip.Alike width height a b)
    (ignores : ∀ mask : Mask, mask.Spans width height → (∀ v ∈ mask.values, v = 255) →
      draw (some mask) = draw none) : draw a = draw b := by
  cases a with
  | none =>
    cases b with
    | none => rfl
    | some mask => exact (ignores mask (alike.right.1 mask rfl) alike.symm.full).symm
  | some mask =>
    cases b with
    | none => exact ignores mask (alike.left.1 mask rfl) alike.full
    | some other => rw [alike.eq_of_some]

end Clip.Alike

section Drawing

variable {t : Plotter} {im next : Image} {a b : Clip}

namespace Image

theorem shows_of_alike (alike : Clip.Alike im.width im.height a b) {i : Nat} {old : Rgba}
    (there : im.pixels[i]? = some old) : a.shows i = b.shows i :=
  alike.agree i (im.filled ▸ (Array.getElem?_eq_some_iff.mp there).1)

theorem setPixel_alike (alike : Clip.Alike im.width im.height a b) (x y : Int) (color : ColorRef) :
    im.setPixel x y color a = im.setPixel x y color b := by
  unfold setPixel
  split
  · refine recolor_congr fun i old there => ?_
    rw [shows_of_alike alike there]
  · rfl

theorem write?_alike (alike : Clip.Alike im.width im.height a b) (t : Blit) (op : Rop) {i : Nat}
    {old : Rgba} (there : im.pixels[i]? = some old) (p : Rgba) :
    t.write? op im.width im.height a i p = t.write? op im.width im.height b i p := by
  unfold Blit.write?
  rw [shows_of_alike alike there]

theorem blit_alike (alike : Clip.Alike im.width im.height a b) (t : Blit) :
    im.blit t a = im.blit t b := by
  unfold blit
  cases Rop.ofCode? t.rop with
  | none => rfl
  | some op =>
    dsimp only
    split
    · rfl
    refine congrArg Except.ok (Prod.ext ?_ ?_)
    · refine List.countP_congr fun i member => ?_
      have there := Array.getElem?_eq_getElem (List.mem_range.mp member)
      rw [write?_alike alike t op there]
    · refine recolor_congr fun i old there => ?_
      exact write?_alike alike t op there old

end Image

theorem Clip.Alike.repainted (keeps : t.rasterizer.KeepsSize) {clip : Clip}
    (painted : t.Repaints clip im next) (alike : Clip.Alike im.width im.height a b) :
    Clip.Alike next.width next.height a b := by
  rw [painted.width keeps, painted.height keeps]
  exact alike

namespace Plotter

theorem fill_alike (ignores : t.rasterizer.IgnoresFullMask)
    (alike : Clip.Alike im.width im.height a b) (shape : Shape) (ink : Ink) (rule : FillRule) :
    t.fill im shape ink rule a = t.fill im shape ink rule b :=
  alike.congr fun _ spans full => ignores.fill spans full

theorem stroke_alike (ignores : t.rasterizer.IgnoresFullMask)
    (alike : Clip.Alike im.width im.height a b) (shape : Shape) (ink : Ink) (stroke : Stroke) :
    t.stroke im shape ink stroke a = t.stroke im shape ink stroke b :=
  alike.congr fun _ spans full => ignores.stroke spans full

theorem fillSolid_alike (ignores : t.rasterizer.IgnoresFullMask)
    (alike : Clip.Alike im.width im.height a b) (shape? : Option Shape) (color : ColorRef)
    (placement : Placement) :
    t.fillSolid im shape? color placement a = t.fillSolid im shape? color placement b := by
  cases shape? with
  | none => rfl
  | some shape => exact alike.congr fun _ spans full => ignores.fill spans full

section Text

variable (keeps : t.rasterizer.KeepsSize) (ignores : t.rasterizer.IgnoresFullMask)
include keeps ignores

theorem drawGlyphs_alike (alike : Clip.Alike im.width im.height a b) (face : Face)
    (text : DeviceText) (scale : Float32) (place : TextPlacement) (distance : Float32)
    (glyphs : List PlacedGlyph) :
    t.drawGlyphs face text scale place a im distance glyphs =
      t.drawGlyphs face text scale place b im distance glyphs := by
  induction glyphs generalizing im distance with
  | nil => rfl
  | cons glyph rest ih =>
    rw [drawGlyphs, drawGlyphs, ← fillSolid_alike ignores alike]
    exact ih (alike.repainted keeps (fillSolid_repaints _ _ _)) _

theorem foldl_fillSolid_alike {α : Type} (shape? : α → Option Shape) (color : ColorRef)
    (xs : List α) (alike : Clip.Alike im.width im.height a b) :
    xs.foldl (fun im x => t.fillSolid im (shape? x) color .unmoved a) im =
      xs.foldl (fun im x => t.fillSolid im (shape? x) color .unmoved b) im := by
  induction xs generalizing im with
  | nil => rfl
  | cons x rest ih =>
    rw [List.foldl_cons, List.foldl_cons, ← fillSolid_alike ignores alike]
    exact ih (alike.repainted keeps (fillSolid_repaints _ _ _))

omit keeps in
theorem fillCells_alike (alike : Clip.Alike im.width im.height a b)
    (background : Option ColorRef) (shape? : Option Shape) :
    (background.elim im fun color => t.fillSolid im shape? color .unmoved a) =
      background.elim im fun color => t.fillSolid im shape? color .unmoved b := by
  cases background with
  | none => rfl
  | some color => exact fillSolid_alike ignores alike shape? color .unmoved

theorem drawRun_alike (alike : Clip.Alike im.width im.height a b) (face : Face)
    (text : DeviceText) : t.drawRun im face text a = t.drawRun im face text b := by
  unfold drawRun
  refine Prod.ext rfl ?_
  refine (foldl_fillSolid_alike (b := b) keeps ignores _ text.color _ ?_).trans ?_
  · refine .repainted keeps (drawGlyphs_repaints _ _ _ _ _ _) ?_
    exact alike.repainted keeps (fillCells_repaints text.background _)
  · refine congrArg (fun drawn => List.foldl _ drawn _) ?_
    refine (drawGlyphs_alike (b := b) keeps ignores ?_ _ _ _ _ _ _).trans ?_
    · exact alike.repainted keeps (fillCells_repaints text.background _)
    · refine congrArg (fun cells => drawGlyphs t _ _ _ _ _ cells _ _) ?_
      exact fillCells_alike ignores alike text.background _

theorem drawText_alike (alike : Clip.Alike im.width im.height a b) (reader : FontReader)
    (font : Bytes) (text : DeviceText) :
    t.drawText im reader font text a = t.drawText im reader font text b := by
  unfold drawText
  cases reader font with
  | error fault => rfl
  | ok face => exact congrArg Except.ok (drawRun_alike keeps ignores alike face text)

end Text

end Plotter

end Drawing

/-- The records that work on the clip itself or on the stack of saved states. -/
def Record.reclips : Record → Bool
  | .saveDc | .restoreDc _ | .intersectClipRect _ | .excludeClipRect _
  | .extSelectClipRgn _ _ => true
  | _ => false

namespace Context

def under (c : Context) (clip : Clip) (saved : SaveStack DrawState) : Context :=
  { c.withClip clip with saved }

def Outcome.under (outcome : Outcome) (clip : Clip) (saved : SaveStack DrawState) : Outcome :=
  (outcome.1.under clip saved, outcome.2)

variable {c : Context} {clip : Clip} {saved : SaveStack DrawState}

theorem proceed_under {α : Type} {step : Except Error α} {next next' : α → Outcome}
    (same : ∀ a, step = .ok a → next' a = (next a).under clip saved) :
    (c.under clip saved).proceed step next' = Outcome.under (c.proceed step next) clip saved := by
  cases step with
  | error e => rfl
  | ok a => exact same a rfl

theorem insertObject_under (handle : UInt32) (object : GraphicsObject) :
    (c.under clip saved).insertObject handle object =
      (c.insertObject handle object).under clip saved :=
  proceed_under fun _ _ => rfl

theorem selectStock_under (handle : UInt32) :
    (c.under clip saved).selectStock handle = (c.selectStock handle).under clip saved := by
  unfold selectStock
  cases Pen.stock? handle with
  | some pen => rfl
  | none =>
    cases Brush.stock? handle with
    | some brush => rfl
    | none =>
      dsimp only
      split
      · rfl
      split <;> rfl

theorem selectObject_under (handle : UInt32) :
    (c.under clip saved).selectObject handle = (c.selectObject handle).under clip saved := by
  unfold selectObject
  split
  · exact selectStock_under handle
  · refine proceed_under fun ⟨kind, objects⟩ _ => ?_
    refine proceed_under (c := { c with objects }) fun object _ => ?_
    cases object <;> rfl

theorem selectPalette_under (handle : UInt32) :
    (c.under clip saved).selectPalette handle = (c.selectPalette handle).under clip saved := by
  unfold selectPalette
  split
  · rfl
  · exact proceed_under fun _ _ => rfl

theorem deleteObject_under (handle : UInt32) :
    (c.under clip saved).deleteObject handle = (c.deleteObject handle).under clip saved := by
  unfold deleteObject
  split
  · rfl
  · exact proceed_under fun _ _ => rfl

/-- The clip may stand for the one of the context. -/
def Matches (c : Context) (clip : Clip) : Prop :=
  Clip.Alike c.raster.width c.raster.height c.state.clip clip

theorem Matches.drawn {next : Context} (keeps : c.rasterizer.KeepsSize) (h : c.Matches clip)
    (drawn : c.Drawn next) : next.Matches clip := by
  unfold Matches
  rw [drawn.clip]
  exact h.repainted keeps drawn.raster

theorem setPixel_under (h : c.Matches clip) (p : Point) (color : ColorRef) :
    (c.under clip saved).setPixel p color = (c.setPixel p color).under clip saved :=
  congrArg (fun raster => ({ c with raster }.under clip saved, none))
    (Image.setPixel_alike h _ _ color).symm

theorem transfer_under (h : c.Matches clip) (t : Transfer) :
    (c.under clip saved).transfer t = (c.transfer t).under clip saved := by
  refine proceed_under fun source _ => ?_
  refine proceed_under fun pattern _ => ?_
  have same := Image.blit_alike h (c.transferBlit t source pattern)
  change (c.under clip saved).proceed (c.raster.blit (c.transferBlit t source pattern) clip) _ = _
  rw [← same]
  exact proceed_under fun _ _ => rfl

theorem drawCharacters_of_same
    (same : ∀ reader font text, c.plotter.drawText c.raster reader font text c.state.clip =
      c.plotter.drawText c.raster reader font text clip) (text : TextRun) :
    (c.under clip saved).drawCharacters text =
      Outcome.under (c.drawCharacters text) clip saved := by
  unfold drawCharacters
  split
  · rfl
  dsimp only [under, withClip]
  cases c.fonts.load c.state.font.face with
  | mk font? fonts =>
    cases font? with
    | none => rfl
    | some font =>
      refine (congrArg (proceed _ · _) (same fonts.reader font _).symm).trans ?_
      refine proceed_under (c := { c with fonts }) fun _ _ => ?_
      split <;> rfl

section Drawing

variable (ignores : c.rasterizer.IgnoresFullMask)
include ignores

theorem stroke_under (h : c.Matches clip) (shape? : Option Shape) :
    (c.under clip saved).stroke shape? = (c.stroke shape?).under clip saved := by
  cases shape? with
  | none => rfl
  | some shape =>
    unfold stroke
    change (if c.state.pen.isNull then _ else _) = _
    split
    · rfl
    · exact congrArg (fun raster => { c with raster }.under clip saved)
        (Plotter.stroke_alike ignores h shape _ _).symm

theorem fillShape_under (h : c.Matches clip) (shape : Shape) :
    (c.under clip saved).fillShape shape = Outcome.under (c.fillShape shape) clip saved := by
  refine proceed_under fun ink? _ => ?_
  cases ink? with
  | none => rfl
  | some ink =>
    exact congrArg (fun raster => ({ c with raster }.under clip saved, none))
      (Plotter.fill_alike ignores h shape ink _).symm

theorem backed_under (h : c.Matches clip) (text : TextRun) :
    (c.under clip saved).backed text = (c.backed text).under clip saved := by
  unfold backed
  split
  · exact congrArg (fun raster => { c with raster }.under clip saved)
      (Plotter.fillSolid_alike ignores h _ _ _).symm
  · rfl

theorem lineTo_under (h : c.Matches clip) (p : Point) :
    (c.under clip saved).lineTo p = (c.lineTo p).under clip saved :=
  stroke_under (c := c.moveTo p) ignores h _

theorem polylineTo_under (h : c.Matches clip) (poly : Poly) :
    (c.under clip saved).polylineTo poly = (c.polylineTo poly).under clip saved := by
  unfold polylineTo
  cases poly.points.getLast? with
  | none => rfl
  | some last => exact stroke_under (c := c.moveTo last) ignores h _

theorem polyBezierTo_under (h : c.Matches clip) (poly : Poly) :
    (c.under clip saved).polyBezierTo poly = (c.polyBezierTo poly).under clip saved := by
  unfold polyBezierTo
  cases poly.points.getLast? with
  | none => rfl
  | some last => exact stroke_under (c := c.moveTo last) ignores h _

variable (keeps : c.rasterizer.KeepsSize)
include keeps

theorem fillAndStroke_under (h : c.Matches clip) (shape? : Option Shape) :
    (c.under clip saved).fillAndStroke shape? =
      Outcome.under (c.fillAndStroke shape?) clip saved := by
  cases shape? with
  | none => rfl
  | some shape =>
    have drawn := c.fillShape_drawn shape
    have ignores' : (c.fillShape shape).1.rasterizer.IgnoresFullMask := by
      rw [rasterizer, drawn.plotter]
      exact ignores
    have stroked : ((c.fillShape shape).1.under clip saved).stroke (some shape) = _ :=
      stroke_under ignores' (h.drawn keeps drawn) (some shape)
    rw [fillAndStroke, fillShape_under ignores h]
    exact congrArg (fun next => (next, (c.fillShape shape).2)) stroked

theorem drawCharacters_under (h : c.Matches clip) (text : TextRun) :
    (c.under clip saved).drawCharacters text =
      Outcome.under (c.drawCharacters text) clip saved :=
  drawCharacters_of_same (fun _ _ _ => Plotter.drawText_alike keeps ignores h _ _ _) text

theorem drawInside_under {area : Mask} (narrowed : Clip.Alike c.raster.width c.raster.height
      (c.state.clip.combine area .intersect) (clip.combine area .intersect)) (text : TextRun) :
    (c.under clip saved).drawInside text area =
      Outcome.under (c.drawInside text area) clip saved := by
  have same : ((c.withClip (c.state.clip.combine area .intersect)).under
      (clip.combine area .intersect) saved).drawCharacters text = _ :=
    drawCharacters_under (c := c.withClip (c.state.clip.combine area .intersect)) ignores keeps
      narrowed text
  exact congrArg (fun drawn => (drawn.1.withClip clip, drawn.2)) same

variable (masks : c.rasterizer.MakesMasks) (sharply : c.rasterizer.MasksSharply)
include masks sharply

theorem drawTextOut_under (h : c.Matches clip) (text : TextRun) :
    (c.under clip saved).drawTextOut text = (c.drawTextOut text).under clip saved := by
  have drawn := c.backed_drawn text
  have same : (c.backed text).rasterizer = c.rasterizer := congrArg Plotter.rasterizer drawn.plotter
  have backed := h.drawn keeps drawn
  unfold drawTextOut
  rw [backed_under ignores h]
  rw [← same] at ignores keeps masks sharply
  dsimp only
  split
  · rw [drawNarrowed_eq, drawNarrowed_eq]
    refine proceed_under fun area made => ?_
    have added := (c.backed text).areaMask_area made
    have narrowed := backed.combine (added.spans masks) (added.sharp sharply) .intersect
    exact drawInside_under ignores keeps narrowed text
  · exact drawCharacters_under ignores keeps backed text

theorem apply_under (h : c.Matches clip) {record : Record} (still : record.reclips = false) :
    (c.under clip saved).apply record = (c.apply record).under clip saved := by
  cases record
  case setPixelV p color => exact setPixel_under h p color
  case lineTo p => exact congrArg done (lineTo_under ignores h p)
  case polylineTo poly => exact congrArg done (polylineTo_under ignores h poly)
  case polyBezierTo poly => exact congrArg done (polyBezierTo_under ignores h poly)
  case polyline | polyBezier | polyPolyline => exact congrArg done (stroke_under ignores h _)
  case rectangle | ellipse | polygon | polyPolygon => exact fillAndStroke_under ignores keeps h _
  case bitBlt t | stretchBlt t | stretchDiBits t => exact transfer_under h t
  case extTextOutA t | extTextOutW t =>
    exact drawTextOut_under ignores keeps masks sharply h t.text
  case createPen | extCreatePen | createBrushIndirect | createDibPatternBrushPt
      | extCreateFontIndirectW | createPalette => exact insertObject_under _ _
  case selectObject handle => exact selectObject_under handle
  case selectPalette handle => exact selectPalette_under handle
  case deleteObject handle => exact deleteObject_under handle
  all_goals first | (cases still; done) | rfl

/-- Such a record leaves the clip and the saved states alone, as it does so for any others. -/
theorem apply_still (h : c.Matches c.state.clip) {record : Record}
    (still : record.reclips = false) :
    (c.apply record).1.state.clip = c.state.clip ∧ (c.apply record).1.saved = c.saved := by
  have same : c.apply record = (c.apply record).under c.state.clip c.saved :=
    apply_under ignores keeps masks sharply h still
  rw [same]
  exact ⟨rfl, rfl⟩

end Drawing

end Context

def DrawState.Alike (width height : Nat) (s t : DrawState) : Prop :=
  t = { s with clip := t.clip } ∧ Clip.Alike width height s.clip t.clip

namespace Context

/-- The contexts are equal except for the clips, those of the saved states included, and
corresponding clips show the same pixels. -/
structure Alike (c d : Context) : Prop where
  raster : d.raster = c.raster
  plotter : d.plotter = c.plotter
  bounds : d.bounds = c.bounds
  objects : d.objects = c.objects
  fonts : d.fonts = c.fonts
  state : DrawState.Alike c.raster.width c.raster.height c.state d.state
  saved : List.Forall₂ (DrawState.Alike c.raster.width c.raster.height) c.saved.states
    d.saved.states

variable {c d : Context}

namespace Alike

theorem of_under {clip : Clip} {saved : SaveStack DrawState} (h : c.Matches clip)
    (older : List.Forall₂ (DrawState.Alike c.raster.width c.raster.height) c.saved.states
      saved.states) : c.Alike (c.under clip saved) :=
  ⟨rfl, rfl, rfl, rfl, rfl, ⟨rfl, h⟩, older⟩

theorem exists_under (h : c.Alike d) : ∃ clip saved, d = c.under clip saved ∧ c.Matches clip ∧
    List.Forall₂ (DrawState.Alike c.raster.width c.raster.height) c.saved.states saved.states := by
  refine ⟨d.state.clip, d.saved, ?_, h.state.2, h.saved⟩
  unfold under withClip
  rw [← h.state.1, ← h.raster, ← h.plotter, ← h.bounds, ← h.objects, ← h.fonts]

def Outcomes (x y : Outcome) : Prop := x.1.Alike y.1 ∧ x.2 = y.2

theorem restore (h : c.Alike d) (index : Int32) : Outcomes (c.restore index) (d.restore index) := by
  have popped := SaveStack.popTo?_alike h.saved index
  unfold Context.restore
  generalize c.saved.popTo? index = p, d.saved.popTo? index = q at popped ⊢
  cases popped with
  | none => exact ⟨h, rfl⟩
  | some older => exact ⟨⟨h.raster, h.plotter, h.bounds, h.objects, h.fonts, older.1, older.2⟩, rfl⟩

section Clips

variable {clip : Clip} {saved : SaveStack DrawState} (masks : c.rasterizer.MakesMasks)
  (sharply : c.rasterizer.MasksSharply) (h : c.Alike (c.under clip saved))
include masks sharply h

theorem combined {step : Except Error Mask} (made : ∀ area, step = .ok area → c.Area area)
    (op : ClipOp) :
    Outcomes
      (c.proceed step fun area => c.setState { c.state with clip := c.state.clip.combine area op })
      ((c.under clip saved).proceed step fun area => (c.under clip saved).setState
        { (c.under clip saved).state with clip := clip.combine area op }) := by
  cases step with
  | error e => exact ⟨h, rfl⟩
  | ok area =>
    have added := made area rfl
    have alike := h.state.2.combine (added.spans masks) (added.sharp sharply) op
    exact ⟨⟨rfl, rfl, rfl, rfl, rfl, ⟨rfl, alike⟩, h.saved⟩, rfl⟩

theorem combineClip (shape? : Option Shape) (op : ClipOp) :
    Outcomes (c.combineClip shape? op) ((c.under clip saved).combineClip shape? op) :=
  h.combined masks sharply (fun _ => c.areaMask_area) op

theorem selectClipRegion (mode : UInt32) (region? : Option Region) :
    Outcomes (c.selectClipRegion mode region?)
      ((c.under clip saved).selectClipRegion mode region?) := by
  unfold Context.selectClipRegion
  split
  · exact ⟨h, rfl⟩
  · have absent : Clip.Alike c.raster.width c.raster.height none none :=
      .refl (Clip.none_spans _ _) Clip.none_sharp
    exact ⟨⟨rfl, rfl, rfl, rfl, rfl, ⟨rfl, absent⟩, h.saved⟩, rfl⟩
  · exact ⟨h, rfl⟩
  · exact h.combined masks sharply (fun _ => c.regionMask_area) _

end Clips

theorem apply (ignores : c.rasterizer.IgnoresFullMask) (keeps : c.rasterizer.KeepsSize)
    (masks : c.rasterizer.MakesMasks) (sharply : c.rasterizer.MasksSharply) (h : c.Alike d)
    (record : Record) : Outcomes (c.apply record) (d.apply record) := by
  obtain ⟨clip, saved, rfl, matched, older⟩ := h.exists_under
  cases still : record.reclips with
  | false =>
    have own : c.Matches c.state.clip := .refl matched.left.1 matched.left.2
    obtain ⟨sameClip, sameSaved⟩ := apply_still ignores keeps masks sharply own still
    have painted := c.apply_repaints record
    rw [apply_under ignores keeps masks sharply matched still]
    refine ⟨.of_under ?_ ?_, rfl⟩
    · unfold Matches
      rw [sameClip]
      exact matched.repainted keeps painted
    · rw [painted.width keeps, painted.height keeps, sameSaved]
      exact older
  | true =>
    cases record
    case saveDc => exact ⟨⟨rfl, rfl, rfl, rfl, rfl, h.state, .cons h.state older⟩, rfl⟩
    case restoreDc index => exact h.restore index
    case intersectClipRect rect | excludeClipRect rect => exact h.combineClip masks sharply _ _
    case extSelectClipRgn mode region? => exact h.selectClipRegion masks sharply mode region?
    all_goals cases still

end Alike

def outcomes (c : Context) : List Record → List (Option Error)
  | [] => []
  | record :: rest => (c.apply record).2 :: outcomes (c.apply record).1 rest

/-- Contexts that are alike stay so, and the same records fail in them with the same errors. What is
drawn depends only on the pixels that the clips show. -/
theorem play_alike (ignores : c.rasterizer.IgnoresFullMask) (keeps : c.rasterizer.KeepsSize)
    (masks : c.rasterizer.MakesMasks) (sharply : c.rasterizer.MasksSharply) (h : c.Alike d)
    (records : List Record) :
    (c.play records).Alike (d.play records) ∧ c.outcomes records = d.outcomes records := by
  induction records generalizing c d with
  | nil => exact ⟨h, rfl⟩
  | cons record rest ih =>
    obtain ⟨next, same⟩ := h.apply ignores keeps masks sharply record
    have rasterizer : (c.apply record).1.rasterizer = c.rasterizer :=
      congrArg Plotter.rasterizer (c.apply_plotter record)
    rw [← rasterizer] at ignores keeps masks sharply
    obtain ⟨final, later⟩ := ih ignores keeps masks sharply next
    refine ⟨final, ?_⟩
    rw [outcomes, outcomes, same, later]

def reclipping : List Record :=
  [.saveDc, .extSelectClipRgn 2 (some ⟨⟨0, 0, 0, 0⟩, []⟩), .restoreDc 2,
    .excludeClipRect ⟨0, 0, 1, 1⟩, .setPixelV ⟨1, 1⟩ .black, .restoreDc 1]

/-- A mask that covers all of a small raster does for no mask at all. -/
theorem play_fullMask :
    square.Alike (square.under (some ⟨2, 2, #[255, 255, 255, 255], rfl⟩) .empty) ∧
    (square.play reclipping).Alike
      ((square.under (some ⟨2, 2, #[255, 255, 255, 255], rfl⟩) .empty).play reclipping) ∧
    square.outcomes reclipping =
      (square.under (some ⟨2, 2, #[255, 255, 255, 255], rfl⟩) .empty).outcomes reclipping := by
  have spans : Clip.Spans (some ⟨2, 2, #[255, 255, 255, 255], rfl⟩) 2 2 := by
    rintro mask ⟨⟩
    exact ⟨rfl, rfl⟩
  have sharp : Clip.Sharp (some ⟨2, 2, #[255, 255, 255, 255], rfl⟩) := by
    rintro mask ⟨⟩ v member
    simpa using Or.inr member
  have agree : ∀ i < 4, Clip.shows none i =
      Clip.shows (some ⟨2, 2, #[255, 255, 255, 255], rfl⟩) i := by
    decide +kernel
  have alike : square.Alike (square.under (some ⟨2, 2, #[255, 255, 255, 255], rfl⟩) .empty) :=
    ⟨rfl, rfl, rfl, rfl, rfl,
      ⟨rfl, ⟨Clip.none_spans 2 2, Clip.none_sharp⟩, ⟨spans, sharp⟩, agree⟩, .nil⟩
  exact ⟨alike, play_alike Rasterizer.sampling_ignoresFullMask Rasterizer.sampling_keepsSize
    Rasterizer.sampling_makesMasks Rasterizer.sampling_masksSharply alike reclipping⟩

end Context

end Metafile
