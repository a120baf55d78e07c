import Mathlib.Logic.Equiv.Basic
import Metafile.Proofs.ClipIndependence
import Metafile.Proofs.ObjectLife

/-! # Handles as names

Created objects can be given other handles. As long as different objects keep different handles,
playback draws the same, selects the same objects and refuses the same records. -/
namespace Metafile

/-- A change of handles: different handles stay different, and zero and the stock objects keep
theirs. -/
structure Relabels (f : UInt32 → UInt32) : Prop where
  injective : Function.Injective f
  zero : f 0 = 0
  stock : ∀ handle, Stock.isStock handle = true → f handle = handle
  created : ∀ handle, Stock.isStock handle = false → Stock.isStock (f handle) = false

namespace Relabels

variable {f : UInt32 → UInt32} (relabels : Relabels f) (handle : UInt32)
include relabels

theorem eq_zero_iff : f handle = 0 ↔ handle = 0 := by
  have same : f handle = f 0 ↔ handle = 0 := relabels.injective.eq_iff
  rwa [relabels.zero] at same

theorem isStock : Stock.isStock (f handle) = Stock.isStock handle := by
  cases stock : Stock.isStock handle with
  | true => rw [relabels.stock handle stock, stock]
  | false => exact relabels.created handle stock

theorem eq_defaultPalette_iff : f handle = Stock.defaultPalette ↔ handle = Stock.defaultPalette := by
  have same : f handle = f Stock.defaultPalette ↔ handle = Stock.defaultPalette :=
    relabels.injective.eq_iff
  rwa [relabels.stock Stock.defaultPalette rfl] at same

end Relabels

namespace ObjectTable

variable {f : UInt32 → UInt32}

def rename (f : UInt32 → UInt32) (t : ObjectTable) : ObjectTable where
  entries := t.entries.map fun entry => (f entry.1, entry.2)
  selection := fun kind => (t.selection kind).map f

theorem rename_handles (t : ObjectTable) : (t.rename f).handles = t.handles.map f := by
  simp only [handles, rename, List.map_map, Function.comp_def]

theorem rename_deselect (t : ObjectTable) (kind : ObjectKind) :
    (t.deselect kind).rename f = (t.rename f).deselect kind := by
  refine congrArg (ObjectTable.mk _) (funext fun other => ?_)
  change (if other = kind then none else t.selection other).map f = if other = kind then _ else _
  split <;> rfl

theorem rename_choose (t : ObjectTable) (kind : ObjectKind) (handle : UInt32) :
    (t.choose kind handle).rename f = (t.rename f).choose kind (f handle) := by
  refine congrArg (ObjectTable.mk _) (funext fun other => ?_)
  change (if other = kind then some handle else t.selection other).map f =
    if other = kind then _ else _
  split <;> rfl

variable (injective : Function.Injective f)
include injective

theorem rename_get? (t : ObjectTable) (handle : UInt32) :
    (t.rename f).get? (f handle) = t.get? handle := by
  change (t.entries.map _).lookup (f handle) = t.entries.lookup handle
  induction t.entries with
  | nil => rfl
  | cons entry entries ih =>
    have found : (f handle == f entry.1) = (handle == entry.1) := by
      rw [Bool.eq_iff_iff, beq_iff_eq, beq_iff_eq, injective.eq_iff]
    rw [List.map_cons, List.lookup_cons, List.lookup_cons, found, ih]

theorem rename_contains (t : ObjectTable) (handle : UInt32) :
    (t.rename f).contains (f handle) = t.contains handle := by
  rw [Bool.eq_iff_iff, contains_iff, contains_iff, rename_handles,
    List.mem_map_of_injective injective]

theorem rename_remove (t : ObjectTable) (handle : UInt32) :
    (t.remove handle).rename f = (t.rename f).remove (f handle) := by
  have kept (other : UInt32) : (f other != f handle) = (other != handle) := by
    rw [Bool.eq_iff_iff, bne_iff_ne, bne_iff_ne, injective.ne_iff]
  refine congrArg₂ ObjectTable.mk ?_ (funext fun kind => ?_)
  · simp only [rename, remove, List.filter_map, Function.comp_def, kept]
  · change ((t.selection kind).filter _).map f = ((t.selection kind).map f).filter _
    cases t.selection kind with
    | none => rfl
    | some other =>
      simp only [Option.filter, Option.map_some, kept]
      split <;> rfl

theorem rename_selected? (t : ObjectTable) (kind : ObjectKind) :
    (t.rename f).selected? kind = t.selected? kind := by
  change ((t.selection kind).map f).bind (t.rename f).get? = (t.selection kind).bind t.get?
  cases t.selection kind with
  | none => rfl
  | some handle => exact rename_get? injective t handle

end ObjectTable

def Record.rename (f : UInt32 → UInt32) : Record → Record
  | .createPen handle pen => .createPen (f handle) pen
  | .extCreatePen handle pen => .extCreatePen (f handle) pen
  | .createBrushIndirect handle brush => .createBrushIndirect (f handle) brush
  | .createDibPatternBrushPt handle usage dib => .createDibPatternBrushPt (f handle) usage dib
  | .extCreateFontIndirectW handle font => .extCreateFontIndirectW (f handle) font
  | .createPalette handle palette => .createPalette (f handle) palette
  | .selectObject handle => .selectObject (f handle)
  | .selectPalette handle => .selectPalette (f handle)
  | .deleteObject handle => .deleteObject (f handle)
  | record => record

def Error.rename (f : UInt32 → UInt32) : Error → Error
  | .duplicateHandle handle offset => .duplicateHandle (f handle) offset
  | .unknownHandle handle => .unknownHandle (f handle)
  | e => e

theorem Error.rename_of_isPainting (f : UInt32 → UInt32) {e : Error} (painting : e.isPainting = true) :
    e.rename f = e := by
  cases e <;> first | rfl | cases painting

namespace Context

def withObjects (c : Context) (objects : ObjectTable) : Context := { c with objects }

def Outcome.withObjects (outcome : Outcome) (objects : ObjectTable) : Outcome :=
  (outcome.1.withObjects objects, outcome.2)

section WithObjects

/-! What records without a handle do is the same for all objects. -/

variable (c : Context) (objects : ObjectTable)

theorem proceed_withObjects {α : Type} (step : Except Error α) {next next' : α → Outcome}
    (same : ∀ a, next' a = (next a).withObjects objects) :
    (c.withObjects objects).proceed step next' =
      Outcome.withObjects (c.proceed step next) objects := by
  cases step with
  | error e => rfl
  | ok a => exact same a

theorem stroke_withObjects (shape? : Option Shape) :
    (c.withObjects objects).stroke shape? = (c.stroke shape?).withObjects objects := by
  cases shape? with
  | none => rfl
  | some shape =>
    unfold stroke
    change (if c.state.pen.isNull then _ else _) = _
    split <;> rfl

theorem fillShape_withObjects (shape : Shape) :
    (c.withObjects objects).fillShape shape =
      Outcome.withObjects (c.fillShape shape) objects := by
  refine c.proceed_withObjects objects c.brushInk fun ink? => ?_
  cases ink? <;> rfl

theorem fillAndStroke_withObjects (shape? : Option Shape) :
    (c.withObjects objects).fillAndStroke shape? =
      Outcome.withObjects (c.fillAndStroke shape?) objects := by
  cases shape? with
  | none => rfl
  | some shape =>
    rw [fillAndStroke, fillShape_withObjects]
    exact congrArg (·, (c.fillShape shape).2) (stroke_withObjects _ objects (some shape))

theorem polylineTo_withObjects (poly : Poly) :
    (c.withObjects objects).polylineTo poly = (c.polylineTo poly).withObjects objects := by
  unfold polylineTo
  cases poly.points.getLast? with
  | none => rfl
  | some last => exact (c.moveTo last).stroke_withObjects objects _

theorem polyBezierTo_withObjects (poly : Poly) :
    (c.withObjects objects).polyBezierTo poly = (c.polyBezierTo poly).withObjects objects := by
  unfold polyBezierTo
  cases poly.points.getLast? with
  | none => rfl
  | some last => exact (c.moveTo last).stroke_withObjects objects _

theorem transfer_withObjects (t : Transfer) :
    (c.withObjects objects).transfer t = (c.transfer t).withObjects objects := by
  refine c.proceed_withObjects objects _ fun source => ?_
  refine c.proceed_withObjects objects _ fun pattern => ?_
  exact c.proceed_withObjects objects _ fun _ => rfl

theorem drawCharacters_withObjects (text : TextRun) :
    (c.withObjects objects).drawCharacters text =
      Outcome.withObjects (c.drawCharacters text) objects := by
  unfold drawCharacters
  split
  · rfl
  dsimp only [withObjects]
  cases c.fonts.load c.state.font.face with
  | mk font? fonts =>
    cases font? with
    | none => rfl
    | some font =>
      refine proceed_withObjects { c with fonts } objects _ fun _ => ?_
      split <;> rfl

theorem backed_withObjects (text : TextRun) :
    (c.withObjects objects).backed text = (c.backed text).withObjects objects := by
  unfold backed
  split <;> rfl

theorem drawTextOut_withObjects (text : TextRun) :
    (c.withObjects objects).drawTextOut text =
      Outcome.withObjects (c.drawTextOut text) objects := by
  unfold drawTextOut
  rw [backed_withObjects]
  dsimp only
  split
  · rw [drawNarrowed_eq, drawNarrowed_eq]
    refine (c.backed text).proceed_withObjects objects _ fun area => ?_
    have same := drawCharacters_withObjects ((c.backed text).withClip
      ((c.backed text).state.clip.combine area .intersect)) objects text
    exact congrArg (fun drawn => (drawn.1.withClip (c.backed text).state.clip, drawn.2)) same
  · exact drawCharacters_withObjects _ objects text

theorem selectClipRegion_withObjects (mode : UInt32) (region? : Option Region) :
    (c.withObjects objects).selectClipRegion mode region? =
      (c.selectClipRegion mode region?).withObjects objects := by
  unfold selectClipRegion
  split
  · rfl
  · rfl
  · rfl
  · exact c.proceed_withObjects objects _ fun _ => rfl

theorem restore_withObjects (index : Int32) :
    (c.withObjects objects).restore index = (c.restore index).withObjects objects := by
  have same : (c.withObjects objects).saved = c.saved := rfl
  rw [restore, same, restore]
  cases c.saved.popTo? index <;> rfl

theorem apply_withObjects {record : Record} (idle : record.createdHandle? = none)
    (unnamed : record.namedHandle? = none) :
    (c.withObjects objects).apply record = (c.apply record).withObjects objects := by
  cases record
  case lineTo p => exact congrArg done ((c.moveTo p).stroke_withObjects objects _)
  case polylineTo poly => exact congrArg done (c.polylineTo_withObjects objects poly)
  case polyBezierTo poly => exact congrArg done (c.polyBezierTo_withObjects objects poly)
  case polyline | polyBezier | polyPolyline =>
    exact congrArg done (c.stroke_withObjects objects _)
  case rectangle | ellipse | polygon | polyPolygon => exact c.fillAndStroke_withObjects objects _
  case bitBlt t | stretchBlt t | stretchDiBits t => exact c.transfer_withObjects objects t
  case extTextOutA t | extTextOutW t => exact c.drawTextOut_withObjects objects t.text
  case intersectClipRect | excludeClipRect =>
    exact c.proceed_withObjects objects _ fun _ => rfl
  case extSelectClipRgn mode region? => exact c.selectClipRegion_withObjects objects mode region?
  case restoreDc index => exact c.restore_withObjects objects index
  all_goals first | (cases idle; done) | (cases unnamed; done) | rfl

end WithObjects

def rename (f : UInt32 → UInt32) (c : Context) : Context := c.withObjects (c.objects.rename f)

def Outcome.rename (f : UInt32 → UInt32) (outcome : Outcome) : Outcome :=
  (outcome.1.rename f, outcome.2.map (Error.rename f))

variable {f : UInt32 → UInt32} (relabels : Relabels f) (c : Context) (handle : UInt32)
include relabels

theorem get?_rename : (c.rename f).objects.get? (f handle) = c.objects.get? handle :=
  ObjectTable.rename_get? relabels.injective c.objects handle

theorem insertObject_rename (object : GraphicsObject) :
    (c.rename f).insertObject (f handle) object = (c.insertObject handle object).rename f := by
  have contains : (c.rename f).objects.contains (f handle) = c.objects.contains handle :=
    ObjectTable.rename_contains relabels.injective c.objects handle
  rw [insertObject_eq, insertObject_eq, contains]
  by_cases zero : handle = 0
  · rw [if_pos zero, if_pos ((relabels.eq_zero_iff handle).mpr zero)]
    change _ = (c.rename f, some (Error.unknownHandle (f 0)))
    rw [relabels.zero]
  rw [if_neg zero, if_neg fun h => zero ((relabels.eq_zero_iff handle).mp h)]
  split <;> rfl

theorem selectStock_rename (stock : Stock.isStock handle = true) :
    (c.rename f).selectStock handle = (c.selectStock handle).rename f := by
  have ends (kind : ObjectKind) (state : DrawState) :
      Outcome.rename f ({ c with objects := c.objects.deselect kind, state }, none) =
        ({ c.rename f with objects := (c.rename f).objects.deselect kind, state }, none) :=
    congrArg (fun objects => ({ c with objects, state }, none))
      (ObjectTable.rename_deselect c.objects kind)
  unfold selectStock
  cases Pen.stock? handle with
  | some pen => exact (ends .pen { c.state with pen }).symm
  | none =>
    cases Brush.stock? handle with
    | some brush => exact (ends .brush { c.state with brush }).symm
    | none =>
      dsimp only
      split
      · exact (ends .palette c.state).symm
      split
      · exact (ends .font { c.state with font := .default }).symm
      · change _ = (c.rename f, some (Error.unknownHandle (f handle)))
        rw [relabels.stock handle stock]

theorem selectObject_rename :
    (c.rename f).selectObject (f handle) = (c.selectObject handle).rename f := by
  cases stock : Stock.isStock handle with
  | true =>
    rw [relabels.stock handle stock, selectObject, selectObject, stock]
    exact selectStock_rename relabels c handle stock
  | false =>
    rw [selectObject_eq _ _ stock, selectObject_eq _ _ (relabels.created handle stock),
      get?_rename relabels c handle]
    cases c.objects.get? handle with
    | none => rfl
    | some object =>
      exact congrArg (fun objects => ({ c with objects, state := c.state.drawWith object }, none))
        (ObjectTable.rename_choose c.objects object.kind handle).symm

theorem selectPalette_rename :
    (c.rename f).selectPalette (f handle) = (c.selectPalette handle).rename f := by
  by_cases default : handle = Stock.defaultPalette
  · rw [selectPalette, selectPalette, if_pos default,
      if_pos ((relabels.eq_defaultPalette_iff handle).mpr default)]
    rfl
  · have other := mt (relabels.eq_defaultPalette_iff handle).mp default
    rw [selectPalette_eq _ _ default, selectPalette_eq _ _ other,
      get?_rename relabels c handle]
    cases c.objects.get? handle with
    | none => rfl
    | some object =>
      exact congrArg (fun objects => ({ c with objects }, none))
        (ObjectTable.rename_choose c.objects object.kind handle).symm

theorem deleteObject_rename :
    (c.rename f).deleteObject (f handle) = (c.deleteObject handle).rename f := by
  cases stock : Stock.isStock handle with
  | true =>
    rw [deleteObject, deleteObject, relabels.isStock, stock]
    rfl
  | false =>
    rw [deleteObject_eq _ _ stock, deleteObject_eq _ _ (relabels.created handle stock),
      get?_rename relabels c handle]
    cases c.objects.get? handle with
    | none => rfl
    | some object =>
      exact congrArg (fun objects => ({ c with objects }, none))
        (ObjectTable.rename_remove relabels.injective c.objects handle).symm

omit relabels in
/-- A record without a handle does not see the change. -/
theorem apply_rename_of_unnamed {record : Record} (idle : record.createdHandle? = none)
    (unnamed : record.namedHandle? = none) (objects : (c.apply record).1.objects = c.objects) :
    (c.rename f).apply record = (c.apply record).rename f := by
  have same := c.apply_withObjects (c.objects.rename f) idle unnamed
  have reported : (c.apply record).2.map (Error.rename f) = (c.apply record).2 := by
    cases failed : (c.apply record).2 with
    | none => rfl
    | some e =>
      exact congrArg some (e.rename_of_isPainting f (c.apply_paints idle unnamed e failed))
  rw [rename, same, Outcome.rename, rename, objects, reported]
  rfl

theorem apply_rename (record : Record) :
    (c.rename f).apply (record.rename f) = (c.apply record).rename f := by
  cases record
  case createPen | extCreatePen | createBrushIndirect | createDibPatternBrushPt
      | extCreateFontIndirectW | createPalette => exact insertObject_rename relabels c _ _
  case selectObject handle => exact selectObject_rename relabels c handle
  case selectPalette handle => exact selectPalette_rename relabels c handle
  case deleteObject handle => exact deleteObject_rename relabels c handle
  case extSelectClipRgn mode region? =>
    exact c.apply_rename_of_unnamed rfl rfl (c.selectClipRegion_objects mode region?)
  case restoreDc index => exact c.apply_rename_of_unnamed rfl rfl (c.restore_objects index)
  case intersectClipRect | excludeClipRect =>
    exact c.apply_rename_of_unnamed rfl rfl (c.combineClip_objects _ _)
  all_goals first
    | exact c.apply_rename_of_unnamed rfl rfl (c.apply_drawn rfl).objects
    | exact c.apply_rename_of_unnamed rfl rfl rfl

theorem play_rename (records : List Record) :
    (c.rename f).play (records.map (Record.rename f)) = (c.play records).rename f ∧
    (c.rename f).outcomes (records.map (Record.rename f)) =
      (c.outcomes records).map (Option.map (Error.rename f)) := by
  induction records generalizing c with
  | nil => exact ⟨rfl, rfl⟩
  | cons record rest ih =>
    have step := apply_rename relabels c record
    obtain ⟨final, later⟩ := ih (c.apply record).1
    constructor
    · change ((c.rename f).apply (record.rename f)).1.play _ = _
      rw [step]
      exact final
    · rw [List.map_cons, outcomes, outcomes, step]
      exact congrArg (_ :: ·) later

end Context

abbrev ObjectHandle := { handle : UInt32 // 1 ≤ handle.toNat ∧ handle.toNat ≤ 0x7FFFFFFF }

def relabel (ρ : ObjectHandle → ObjectHandle) (handle : UInt32) : UInt32 :=
  if range : 1 ≤ handle.toNat ∧ handle.toNat ≤ 0x7FFFFFFF then (ρ ⟨handle, range⟩).1 else handle

theorem relabels_relabel {ρ : ObjectHandle → ObjectHandle} (injective : Function.Injective ρ) :
    Relabels (relabel ρ) := by
  constructor
  · intro handle other same
    unfold relabel at same
    split at same <;> split at same
    · exact congrArg Subtype.val (injective (Subtype.ext same))
    · rename_i outside
      exact absurd (same ▸ (ρ _).2) outside
    · rename_i outside _
      exact absurd (same ▸ (ρ _).2) outside
    · exact same
  · rfl
  · intro handle stock
    refine dif_neg fun range => ?_
    have created : Stock.isStock handle = false := Stock.isStock_eq_false_iff.mpr (by omega)
    rw [stock] at created
    cases created
  · intro handle created
    unfold relabel
    split
    · rename_i range
      have below := (ρ ⟨handle, range⟩).2.2
      exact Stock.isStock_eq_false_iff.mpr (by omega)
    · exact created

namespace Context

/-- From a new context on, other handles for the objects are not seen in what is drawn, in the
drawing state or in what is selected, and a record fails as before, up to the handle reported. -/
theorem play_relabeled {ρ : ObjectHandle → ObjectHandle} (injective : Function.Injective ρ)
    {header : Header} {options : RenderOptions} {fonts : FontLibrary} {rasterizer : Rasterizer}
    {c : Context} (made : Context.new header options fonts rasterizer = .ok c)
    (records : List Record) (n : Nat) :
    let before := records.take n
    let relabeled := (records.map (Record.rename (relabel ρ))).take n
    (c.play relabeled).raster = (c.play before).raster ∧
    (c.play relabeled).state = (c.play before).state ∧
    (c.play relabeled).saved = (c.play before).saved ∧
    (∀ kind, (c.play relabeled).objects.selected? kind = (c.play before).objects.selected? kind) ∧
    c.outcomes relabeled = (c.outcomes before).map (Option.map (Error.rename (relabel ρ))) := by
  have relabels := relabels_relabel injective
  have fresh : c.rename (relabel ρ) = c := by
    obtain ⟨width, height, raster, -, -, rfl⟩ := new_ok made
    rfl
  obtain ⟨final, reported⟩ := play_rename relabels c (records.take n)
  rw [fresh, List.map_take] at final reported
  dsimp only
  rw [final]
  exact ⟨rfl, rfl, rfl, ObjectTable.rename_selected? relabels.injective _, reported⟩

def exchange : ObjectHandle → ObjectHandle :=
  Equiv.swap ⟨1, by decide⟩ ⟨2, by decide⟩

/-- A pen that is selected, deleted, looked for and created once more, and a brush created twice. -/
def penAndBrush : List Record :=
  [.createPen 1 ⟨0, 1, ⟨255⟩⟩, .createBrushIndirect 2 ⟨0, ⟨255⟩, 0⟩, .selectObject 1,
    .deleteObject 1, .selectObject 1, .createPen 1 ⟨0, 1, ⟨0⟩⟩, .createBrushIndirect 2 ⟨0, ⟨0⟩, 0⟩]

theorem play_relabeled_penAndBrush :
    Function.Injective exchange ∧
    Context.new Container.penFile.header .default .bare .sampling = .ok square ∧
    (penAndBrush.map (Record.rename (relabel exchange))).take 3 =
      [.createPen 2 ⟨0, 1, ⟨255⟩⟩, .createBrushIndirect 1 ⟨0, ⟨255⟩, 0⟩, .selectObject 2] ∧
    (square.play ((penAndBrush.map (Record.rename (relabel exchange))).take 3)).state =
      (square.play (penAndBrush.take 3)).state ∧
    square.outcomes ((penAndBrush.map (Record.rename (relabel exchange))).take 7) =
      [none, none, none, none, some (.unknownHandle 2), none, some (.duplicateHandle 1 0)] := by
  have injective : Function.Injective exchange := Equiv.injective _
  have made : Context.new Container.penFile.header .default .bare .sampling = .ok square := rfl
  have drawn := play_relabeled injective made penAndBrush 3
  have reported := play_relabeled injective made penAndBrush 7
  exact ⟨injective, made, rfl, drawn.2.1, reported.2.2.2.2⟩

end Context

end Metafile
