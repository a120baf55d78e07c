import Mathlib.Data.List.Induction
import Metafile.Proofs.Container
import Metafile.Proofs.Drawing
import Metafile.Proofs.NewContext

/-! # Selected objects and what is drawn with

A selection is kept twice, as a handle in the table and in the drawing state as the pen, the brush
or the font itself. Of all records only a restore, which brings back a drawing state but no
selection, and the selection of a palette, which does not care what object it finds, can part the
two. -/
namespace Metafile

namespace DrawState

/-- The state draws with the object; palettes are not drawn with. -/
def Realizes (s : DrawState) : GraphicsObject → Prop
  | .pen d => s.pen = .ofDescription d
  | .extPen d => s.pen = .ofExtDescription d
  | .brush d => s.brush = .ofDescription d
  | .bitmap dib => s.brush = .pattern dib
  | .font d => s.font = d
  | .palette _ => True

structure SameTools (s t : DrawState) : Prop where
  pen : s.pen = t.pen
  brush : s.brush = t.brush
  font : s.font = t.font

theorem SameTools.refl (s : DrawState) : s.SameTools s := ⟨rfl, rfl, rfl⟩

theorem SameTools.realizes {s t : DrawState} (same : s.SameTools t) {object : GraphicsObject}
    (realized : t.Realizes object) : s.Realizes object := by
  cases object
  case pen | extPen => exact same.pen.trans realized
  case brush | bitmap => exact same.brush.trans realized
  case font => exact same.font.trans realized
  case palette => trivial

theorem drawWith_realizes (s : DrawState) (object : GraphicsObject) :
    (s.drawWith object).Realizes object := by
  cases object <;> first | rfl | trivial

def AgreeBut (kind : ObjectKind) (s t : DrawState) : Prop :=
  ∀ object : GraphicsObject, object.kind ≠ kind → t.Realizes object → s.Realizes object

theorem agreeBut_refl (kind : ObjectKind) (s : DrawState) : AgreeBut kind s s :=
  fun _ _ realized => realized

theorem agreeBut_pen (s : DrawState) (pen : Pen) : AgreeBut .pen { s with pen } s := by
  intro object apart realized
  cases object <;> first | exact realized | exact absurd rfl apart

theorem agreeBut_brush (s : DrawState) (brush : Brush) : AgreeBut .brush { s with brush } s := by
  intro object apart realized
  cases object <;> first | exact realized | exact absurd rfl apart

theorem agreeBut_font (s : DrawState) (font : FontDescription) :
    AgreeBut .font { s with font } s := by
  intro object apart realized
  cases object <;> first | exact realized | exact absurd rfl apart

theorem drawWith_agreeBut (s : DrawState) (object : GraphicsObject) :
    AgreeBut object.kind (s.drawWith object) s := by
  cases object
  case pen | extPen => exact s.agreeBut_pen _
  case brush | bitmap => exact s.agreeBut_brush _
  case font => exact s.agreeBut_font _
  case palette => exact agreeBut_refl _ s

end DrawState

namespace ObjectTable

/-- A handle that is selected is in the table, with an object of the kind it is selected for. -/
def Sound (t : ObjectTable) : Prop :=
  ∀ kind handle, t.selection kind = some handle →
    ∃ object, t.get? handle = some object ∧ object.kind = kind

variable {t : ObjectTable} {handle : UInt32} {object : GraphicsObject}

theorem sound_empty : empty.Sound := by
  intro kind handle chosen
  cases chosen

theorem Sound.kind (sound : t.Sound) {kind : ObjectKind} (chosen : t.selected? kind = some object) :
    object.kind = kind := by
  obtain ⟨handle, selected, found⟩ := Option.bind_eq_some_iff.mp chosen
  obtain ⟨other, stored, same⟩ := sound kind handle selected
  rw [found] at stored
  cases stored
  exact same

theorem Sound.ne_of_absent (sound : t.Sound) (absent : handle ∉ t.handles) {kind : ObjectKind}
    {other : UInt32} (chosen : t.selection kind = some other) : other ≠ handle := by
  rintro rfl
  obtain ⟨object, found, -⟩ := sound kind other chosen
  rw [get?_eq_none_iff.mpr absent] at found
  cases found

theorem Sound.add (sound : t.Sound) (absent : handle ∉ t.handles) :
    (t.add handle object).Sound := by
  intro kind other chosen
  rw [get?_add (sound.ne_of_absent absent chosen)]
  exact sound kind other chosen

theorem Sound.selected?_add (sound : t.Sound) (absent : handle ∉ t.handles) (kind : ObjectKind) :
    (t.add handle object).selected? kind = t.selected? kind := by
  change (t.selection kind).bind (t.add handle object).get? = (t.selection kind).bind t.get?
  cases chosen : t.selection kind with
  | none => rfl
  | some other => exact get?_add (sound.ne_of_absent absent chosen)

theorem Sound.choose (sound : t.Sound) (found : t.get? handle = some object) :
    (t.choose object.kind handle).Sound := by
  intro kind other chosen
  change (if kind = object.kind then some handle else t.selection kind) = some other at chosen
  split at chosen
  · rename_i same
    cases chosen
    exact ⟨object, found, same.symm⟩
  · exact sound kind other chosen

theorem selected?_choose {other : GraphicsObject} {kind : ObjectKind}
    (found : t.get? handle = some object)
    (chosen : (t.choose object.kind handle).selected? kind = some other) :
    other = object ∨ kind ≠ object.kind ∧ t.selected? kind = some other := by
  change (if kind = object.kind then some handle else t.selection kind).bind t.get? = _ at chosen
  split at chosen
  · refine Or.inl (Option.some.inj ?_)
    rw [← chosen, ← found]
    rfl
  · rename_i apart
    exact Or.inr ⟨apart, chosen⟩

theorem Sound.deselect (sound : t.Sound) (kind : ObjectKind) : (t.deselect kind).Sound := by
  intro other handle chosen
  change (if other = kind then none else t.selection other) = some handle at chosen
  split at chosen
  · cases chosen
  · exact sound other handle chosen

theorem selected?_deselect {kind other : ObjectKind}
    (chosen : (t.deselect kind).selected? other = some object) :
    other ≠ kind ∧ t.selected? other = some object := by
  change (if other = kind then none else t.selection other).bind t.get? = _ at chosen
  split at chosen
  · cases chosen
  · rename_i apart
    exact ⟨apart, chosen⟩

theorem selection_remove {kind : ObjectKind} {other : UInt32}
    (chosen : (t.remove handle).selection kind = some other) :
    t.selection kind = some other ∧ other ≠ handle := by
  obtain ⟨selected, kept⟩ := Option.filter_eq_some_iff.mp chosen
  exact ⟨selected, bne_iff_ne.mp kept⟩

theorem Sound.remove (sound : t.Sound) : (t.remove handle).Sound := by
  intro kind other chosen
  obtain ⟨selected, apart⟩ := selection_remove chosen
  rw [get?_remove apart]
  exact sound kind other selected

theorem selected?_remove {kind : ObjectKind}
    (chosen : (t.remove handle).selected? kind = some object) : t.selected? kind = some object := by
  obtain ⟨other, selected, found⟩ := Option.bind_eq_some_iff.mp chosen
  obtain ⟨selected, apart⟩ := selection_remove selected
  rw [get?_remove apart] at found
  exact Option.bind_eq_some_iff.mpr ⟨other, selected, found⟩

end ObjectTable

namespace Context

inductive Retools (c : Context) : Record → ObjectTable → DrawState → Prop where
  | kept {record state} (same : state.SameTools c.state) : c.Retools record c.objects state
  | created {record handle} (object) (absent : handle ∉ c.objects.handles) :
      c.Retools record (c.objects.add handle object) c.state
  | selected {record handle object} (found : c.objects.get? handle = some object) :
      c.Retools record (c.objects.choose object.kind handle) (c.state.drawWith object)
  | deselected {record state kind} (agree : state.AgreeBut kind c.state) :
      c.Retools record (c.objects.deselect kind) state
  | deleted {record} (handle) : c.Retools record (c.objects.remove handle) c.state
  | chosen {handle object} (other : handle ≠ Stock.defaultPalette)
      (found : c.objects.get? handle = some object) :
      c.Retools (.selectPalette handle) (c.objects.choose object.kind handle) c.state
  | restored {index state saved} (popped : c.saved.popTo? index = some (state, saved)) :
      c.Retools (.restoreDc index) c.objects state

variable (c : Context)

theorem insertObject_retools (record : Record) (handle : UInt32) (object : GraphicsObject) :
    c.Retools record (c.insertObject handle object).1.objects
      (c.insertObject handle object).1.state := by
  rw [insertObject_eq]
  split
  · exact .kept (.refl _)
  split
  · exact .kept (.refl _)
  · rename_i absent
    exact .created object fun member => absent (ObjectTable.contains_iff.mpr member)

theorem selectStock_retools (record : Record) (handle : UInt32) :
    c.Retools record (c.selectStock handle).1.objects (c.selectStock handle).1.state := by
  unfold selectStock
  split
  · exact .deselected (c.state.agreeBut_pen _)
  · exact .deselected (c.state.agreeBut_brush _)
  split
  · exact .deselected (DrawState.agreeBut_refl _ c.state)
  split
  · exact .deselected (c.state.agreeBut_font _)
  · exact .kept (.refl _)

theorem selectObject_retools (record : Record) (handle : UInt32) :
    c.Retools record (c.selectObject handle).1.objects (c.selectObject handle).1.state := by
  cases stock : Stock.isStock handle with
  | true =>
    rw [selectObject, stock]
    exact c.selectStock_retools record handle
  | false =>
    rw [c.selectObject_eq handle stock]
    split
    · rename_i found
      exact .selected found
    · exact .kept (.refl _)

theorem selectPalette_retools (handle : UInt32) :
    c.Retools (.selectPalette handle) (c.selectPalette handle).1.objects
      (c.selectPalette handle).1.state := by
  by_cases default : handle = Stock.defaultPalette
  · rw [selectPalette, if_pos default]
    exact .kept (.refl _)
  · rw [c.selectPalette_eq handle default]
    split
    · rename_i found
      exact .chosen default found
    · exact .kept (.refl _)

theorem deleteObject_retools (record : Record) (handle : UInt32) :
    c.Retools record (c.deleteObject handle).1.objects (c.deleteObject handle).1.state := by
  cases stock : Stock.isStock handle with
  | true =>
    rw [deleteObject, stock]
    exact .kept (.refl _)
  | false =>
    rw [c.deleteObject_eq handle stock]
    split
    · exact .deleted handle
    · exact .kept (.refl _)

theorem restore_retools (index : Int32) :
    c.Retools (.restoreDc index) (c.restore index).1.objects (c.restore index).1.state := by
  unfold restore
  split
  · rename_i popped
    exact .restored popped
  · exact .kept (.refl _)

theorem proceed_retools {record : Record} {α : Type} {step : Except Error α} {next : α → Outcome}
    (retools : ∀ a, c.Retools record (next a).1.objects (next a).1.state) :
    c.Retools record (c.proceed step next).1.objects (c.proceed step next).1.state := by
  cases step with
  | error e => exact .kept (.refl _)
  | ok a => exact retools a

theorem selectClipRegion_retools (record : Record) (mode : UInt32) (region? : Option Region) :
    c.Retools record (c.selectClipRegion mode region?).1.objects
      (c.selectClipRegion mode region?).1.state := by
  unfold selectClipRegion
  split
  case h_4 => exact c.proceed_retools fun _ => .kept ⟨rfl, rfl, rfl⟩
  all_goals exact .kept ⟨rfl, rfl, rfl⟩

theorem apply_retools (record : Record) :
    c.Retools record (c.apply record).1.objects (c.apply record).1.state := by
  cases draws : record.draws with
  | true =>
    have drawn := c.apply_drawn draws
    obtain ⟨current, moved⟩ := drawn.state
    rw [drawn.objects, moved]
    exact .kept ⟨rfl, rfl, rfl⟩
  | false =>
    cases record
    case createPen | extCreatePen | createBrushIndirect | createDibPatternBrushPt
        | extCreateFontIndirectW | createPalette => exact c.insertObject_retools _ _ _
    case selectObject handle => exact c.selectObject_retools _ handle
    case selectPalette handle => exact c.selectPalette_retools handle
    case deleteObject handle => exact c.deleteObject_retools _ handle
    case restoreDc index => exact c.restore_retools index
    case extSelectClipRgn mode region? => exact c.selectClipRegion_retools _ mode region?
    case intersectClipRect | excludeClipRect =>
      exact c.proceed_retools fun _ => .kept ⟨rfl, rfl, rfl⟩
    all_goals first | (cases draws; done) | exact .kept ⟨rfl, rfl, rfl⟩

def InStep (c : Context) : Prop :=
  ∀ kind object, c.objects.selected? kind = some object → c.state.Realizes object

/-- The record restores a state that does not draw with a selected object, or selects as a palette
an object that is to be drawn with and is not. -/
def Unsettles (c : Context) : Record → Prop
  | .restoreDc index => ∃ state saved kind object, c.saved.popTo? index = some (state, saved) ∧
      c.objects.selected? kind = some object ∧ ¬ state.Realizes object
  | .selectPalette handle => handle ≠ Stock.defaultPalette ∧
      ∃ object, c.objects.get? handle = some object ∧ ¬ c.state.Realizes object
  | _ => False

variable {c}

theorem apply_sound (sound : c.objects.Sound) (record : Record) :
    (c.apply record).1.objects.Sound := by
  have step := c.apply_retools record
  generalize (c.apply record).1.objects = objects, (c.apply record).1.state = state at step ⊢
  cases step with
  | kept | restored => exact sound
  | created object absent => exact sound.add absent
  | selected found | chosen _ found => exact sound.choose found
  | deselected => exact sound.deselect _
  | deleted => exact sound.remove

theorem apply_inStep (sound : c.objects.Sound) (inStep : c.InStep) {record : Record}
    (settled : ¬ c.Unsettles record) : (c.apply record).1.InStep := by
  have step := c.apply_retools record
  unfold InStep
  generalize (c.apply record).1.objects = objects, (c.apply record).1.state = state at step ⊢
  intro kind object chosen
  cases step with
  | kept same => exact same.realizes (inStep kind object chosen)
  | created other absent =>
    rw [sound.selected?_add absent] at chosen
    exact inStep kind object chosen
  | selected found =>
    rcases ObjectTable.selected?_choose found chosen with rfl | ⟨apart, before⟩
    · exact DrawState.drawWith_realizes _ object
    · rw [← sound.kind before] at apart
      exact DrawState.drawWith_agreeBut _ _ object apart (inStep kind object before)
  | deselected agree =>
    obtain ⟨apart, before⟩ := ObjectTable.selected?_deselect chosen
    rw [← sound.kind before] at apart
    exact agree object apart (inStep kind object before)
  | deleted handle => exact inStep kind object (ObjectTable.selected?_remove chosen)
  | chosen other found =>
    rcases ObjectTable.selected?_choose found chosen with rfl | ⟨-, before⟩
    · exact by_contra fun apart => settled ⟨other, object, found, apart⟩
    · exact inStep kind object before
  | restored popped =>
    exact by_contra fun apart => settled ⟨_, _, kind, object, popped, chosen, apart⟩

theorem Unsettles.not_inStep {record : Record} (unsettled : c.Unsettles record) :
    ¬ (c.apply record).1.InStep := by
  intro inStep
  cases record
  case restoreDc index =>
    obtain ⟨state, saved, kind, object, popped, chosen, apart⟩ := unsettled
    change (c.restore index).1.InStep at inStep
    rw [restore, popped] at inStep
    exact apart (inStep kind object chosen)
  case selectPalette handle =>
    obtain ⟨other, object, found, apart⟩ := unsettled
    change (c.selectPalette handle).1.InStep at inStep
    rw [c.selectPalette_eq handle other, found] at inStep
    refine apart (inStep object.kind object ?_)
    change (if object.kind = object.kind then some handle else _).bind c.objects.get? = _
    rw [if_pos rfl]
    exact found
  all_goals exact unsettled

theorem play_concat (c : Context) (records : List Record) (record : Record) :
    c.play (records ++ [record]) = ((c.play records).apply record).1 := List.foldl_append

theorem play_sound (sound : c.objects.Sound) (records : List Record) :
    (c.play records).objects.Sound := by
  induction records using List.reverseRecOn with
  | nil => exact sound
  | append_singleton records record ih =>
    rw [play_concat]
    exact apply_sound ih record

/-- In all of a run the selected objects are the ones drawn with, just when no record of it parts
them: no restore of a state that draws with other ones, and no such object taken for a palette. -/
theorem play_inStep_iff {header : Header} {options : RenderOptions} {fonts : FontLibrary}
    {rasterizer : Rasterizer} (made : Context.new header options fonts rasterizer = .ok c)
    (records : List Record) :
    (∀ before after, records = before ++ after → (c.play before).InStep) ↔
      ∀ before record after, records = before ++ record :: after →
        ¬ (c.play before).Unsettles record := by
  obtain ⟨width, height, raster, -, -, rfl⟩ := new_ok made
  constructor
  · intro inStep before record after split unsettled
    have parted := unsettled.not_inStep
    rw [← play_concat] at parted
    exact parted (inStep (before ++ [record]) after (by rw [split, List.append_cons]))
  · intro settled before
    induction before using List.reverseRecOn with
    | nil =>
      intro after split kind object chosen
      cases chosen
    | append_singleton before record ih =>
      intro after split
      rw [List.append_assoc, List.singleton_append] at split
      rw [play_concat]
      exact apply_inStep (play_sound ObjectTable.sound_empty before) (ih _ split)
        (settled before record after split)

def restoredPen : List Record :=
  [.saveDc, .createPen 1 ⟨0, 1, ⟨255⟩⟩, .selectObject 1, .restoreDc (-1)]

theorem play_inStep_restoredPen :
    Context.new Container.penFile.header .default .bare .sampling = .ok square ∧
    ∀ before after, restoredPen.take 3 = before ++ after → (square.play before).InStep := by
  have made : Context.new Container.penFile.header .default .bare .sampling = .ok square := rfl
  refine ⟨made, (play_inStep_iff made _).mpr ?_⟩
  intro before record after split unsettled
  have member : record ∈ restoredPen.take 3 := by simp [split]
  simp only [restoredPen, List.take_succ_cons, List.take_zero, List.mem_cons, List.not_mem_nil,
    or_false] at member
  rcases member with rfl | rfl | rfl <;> exact unsettled

/-- The selection outlives the restore, but the pen drawn with is again the one from before. -/
theorem not_inStep_restoredPen :
    ¬ ∀ (header : Header) (options : RenderOptions) (fonts : FontLibrary)
      (rasterizer : Rasterizer) (c : Context) (records : List Record),
      Context.new header options fonts rasterizer = .ok c → (c.play records).InStep := by
  intro always
  have inStep := always Container.penFile.header .default .bare .sampling square restoredPen rfl
  have realized := inStep .pen (.pen ⟨0, 1, ⟨255⟩⟩) rfl
  exact absurd (congrArg Pen.color realized) (by decide)

end Context

end Metafile
