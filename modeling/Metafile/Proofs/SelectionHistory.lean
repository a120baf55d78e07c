import Metafile.Proofs.Realization

/-! # Selections as history

What is selected of a kind is what was last selected of it, unless it has been deleted or a stock
object has taken its place since. The default palette, selected as a palette, takes no place. -/
namespace Metafile

namespace Stock

def ofKind : ObjectKind → List UInt32
  | .pen => [whitePen, blackPen, nullPen, dcPen]
  | .brush => [whiteBrush, lightGrayBrush, grayBrush, darkGrayBrush, blackBrush, nullBrush, dcBrush]
  | .font => fonts
  | .palette => [defaultPalette]

theorem isStock_of_mem_ofKind {kind : ObjectKind} {handle : UInt32}
    (listed : handle ∈ ofKind kind) : isStock handle = true := by
  have all : (ofKind kind).all isStock = true := by
    cases kind <;> decide
  exact List.all_eq_true.mp all handle listed

theorem ofKind_inj {kind other : ObjectKind} {handle : UInt32} (listed : handle ∈ ofKind kind)
    (again : handle ∈ ofKind other) : kind = other := by
  by_contra apart
  have disjoint : (ofKind kind).all (fun handle => !(ofKind other).contains handle) = true := by
    cases kind <;> cases other <;> first | exact absurd rfl apart | decide
  have absent := List.all_eq_true.mp disjoint handle listed
  rw [List.contains_iff_mem.mpr again] at absent
  cases absent

end Stock

theorem Pen.isSome_stock? (handle : UInt32) :
    (stock? handle).isSome = true ↔ handle ∈ Stock.ofKind .pen := by
  unfold stock?
  simp only [Stock.ofKind, List.mem_cons, List.not_mem_nil, or_false]
  grind

theorem Brush.isSome_stock? (handle : UInt32) :
    (stock? handle).isSome = true ↔ handle ∈ Stock.ofKind .brush := by
  unfold stock?
  simp only [Stock.ofKind, List.mem_cons, List.not_mem_nil, or_false]
  grind

namespace Record

def SelectsStockObject (record : Record) (kind : ObjectKind) : Prop :=
  ∃ handle ∈ Stock.ofKind kind, record = .selectObject handle

/-- A stock object of a kind is selected, be it as an object or as a palette. -/
def SelectsStock (record : Record) (kind : ObjectKind) : Prop :=
  record.SelectsStockObject kind ∨ record = .selectPalette Stock.defaultPalette ∧ kind = .palette

theorem selectsStock_iff {record : Record} {kind : ObjectKind}
    (spared : kind = .palette → record ≠ .selectPalette Stock.defaultPalette) :
    record.SelectsStockObject kind ↔ record.SelectsStock kind :=
  (or_iff_left fun defaulted => spared defaulted.2 defaulted.1).symm

end Record

namespace ObjectTable

def Holds (t : ObjectTable) (handle : UInt32) (object : GraphicsObject) : Prop :=
  t.selection object.kind = some handle ∧ t.get? handle = some object

variable {t : ObjectTable} {handle other : UInt32} {object next : GraphicsObject}

theorem Sound.selected?_eq_some_iff (sound : t.Sound) {kind : ObjectKind} :
    t.selected? kind = some object ↔ object.kind = kind ∧ ∃ handle, t.Holds handle object := by
  constructor
  · intro chosen
    have same := sound.kind chosen
    obtain ⟨handle, selected, stored⟩ := Option.bind_eq_some_iff.mp chosen
    exact ⟨same, handle, same ▸ selected, stored⟩
  · rintro ⟨rfl, handle, selected, stored⟩
    exact Option.bind_eq_some_iff.mpr ⟨handle, selected, stored⟩

theorem Sound.holds_add (sound : t.Sound) (absent : other ∉ t.handles) :
    (t.add other next).Holds handle object ↔ t.Holds handle object := by
  refine and_congr_right fun selected => ?_
  rw [get?_add (sound.ne_of_absent absent selected)]

theorem holds_choose (stored : t.get? other = some next) :
    (t.choose next.kind other).Holds handle object ↔
      handle = other ∧ object = next ∨ t.Holds handle object ∧ next.kind ≠ object.kind := by
  change (if object.kind = next.kind then some other else t.selection object.kind) = some handle ∧
    t.get? handle = some object ↔ _
  by_cases same : object.kind = next.kind
  · rw [if_pos same]
    constructor
    · rintro ⟨⟨⟩, found⟩
      rw [stored] at found
      exact Or.inl ⟨rfl, (Option.some.inj found).symm⟩
    · rintro (⟨rfl, rfl⟩ | ⟨-, apart⟩)
      · exact ⟨rfl, stored⟩
      · exact absurd same.symm apart
  · rw [if_neg same]
    constructor
    · exact fun holds => Or.inr ⟨holds, Ne.symm same⟩
    · rintro (⟨-, rfl⟩ | ⟨holds, -⟩)
      · exact absurd rfl same
      · exact holds

theorem holds_deselect {kind : ObjectKind} :
    (t.deselect kind).Holds handle object ↔ t.Holds handle object ∧ object.kind ≠ kind := by
  change (if object.kind = kind then none else t.selection object.kind) = some handle ∧
    t.get? handle = some object ↔ _
  by_cases same : object.kind = kind <;> simp [same, Holds]

theorem holds_remove :
    (t.remove other).Holds handle object ↔ t.Holds handle object ∧ handle ≠ other := by
  constructor
  · rintro ⟨chosen, stored⟩
    obtain ⟨selected, apart⟩ := selection_remove chosen
    rw [get?_remove apart] at stored
    exact ⟨⟨selected, stored⟩, apart⟩
  · rintro ⟨⟨selected, stored⟩, apart⟩
    refine ⟨?_, (get?_remove apart).trans stored⟩
    change (t.selection object.kind).filter _ = _
    rw [selected, Option.filter_some, if_pos (bne_iff_ne.mpr apart)]

end ObjectTable

namespace Context

structure Picks (c : Context) (record : Record) (handle : UInt32) (object : GraphicsObject) :
    Prop where
  names : record = .selectObject handle ∧ Stock.isStock handle = false ∨
    record = .selectPalette handle ∧ handle ≠ Stock.defaultPalette
  stored : c.objects.get? handle = some object
  succeeds : (c.apply record).2 = none

/-- The record ends the selection of an object: another one of its kind is selected, it is deleted,
or a stock object takes its place. -/
inductive Ends (c : Context) (stock : Record → ObjectKind → Prop) (handle : UInt32)
    (object : GraphicsObject) : Record → Prop where
  | replaced {record : Record} {other : UInt32} {next : GraphicsObject}
      (picks : c.Picks record other next) (same : next.kind = object.kind) :
      c.Ends stock handle object record
  | deleted (created : Stock.isStock handle = false) :
      c.Ends stock handle object (.deleteObject handle)
  | displaced {record : Record} (takes : stock record object.kind) :
      c.Ends stock handle object record

/-- The object has been selected under a handle, and nothing has ended that since. -/
def Stands (c : Context) (stock : Record → ObjectKind → Prop) (records : List Record)
    (handle : UInt32) (object : GraphicsObject) : Prop :=
  ∃ before record after, records = before ++ record :: after ∧
    (c.play before).Picks record handle object ∧
    ∀ between later rest, after = between ++ later :: rest →
      ¬ (c.play (before ++ record :: between)).Ends stock handle object later

variable {c : Context} {record : Record} {handle other : UInt32} {object next : GraphicsObject}

theorem picks_selectObject (created : Stock.isStock other = false) :
    c.Picks (.selectObject other) handle object ↔
      handle = other ∧ c.objects.get? other = some object := by
  constructor
  · rintro ⟨⟨⟨⟩, -⟩ | ⟨⟨⟩, -⟩, stored, -⟩
    exact ⟨rfl, stored⟩
  · rintro ⟨rfl, stored⟩
    refine ⟨Or.inl ⟨rfl, created⟩, stored, ?_⟩
    change (c.selectObject handle).2 = none
    rw [c.selectObject_eq handle created, stored]

theorem picks_selectPalette (apart : other ≠ Stock.defaultPalette) :
    c.Picks (.selectPalette other) handle object ↔
      handle = other ∧ c.objects.get? other = some object := by
  constructor
  · rintro ⟨⟨⟨⟩, -⟩ | ⟨⟨⟩, -⟩, stored, -⟩
    exact ⟨rfl, stored⟩
  · rintro ⟨rfl, stored⟩
    refine ⟨Or.inr ⟨rfl, apart⟩, stored, ?_⟩
    change (c.selectPalette handle).2 = none
    rw [c.selectPalette_eq handle apart, stored]

theorem Picks.named (picks : c.Picks record handle object) : record.namedHandle? = some handle := by
  rcases picks.names with ⟨rfl, -⟩ | ⟨rfl, -⟩ <;> rfl

theorem not_ends_of_unnamed (unnamed : record.namedHandle? = none) :
    ¬ c.Ends Record.SelectsStockObject handle object record := by
  rintro (⟨picks, -⟩ | - | ⟨stock, -, rfl⟩)
  · rw [picks.named] at unnamed
    cases unnamed
  · cases unnamed
  · cases unnamed

theorem apply_unnamed (c : Context) (unnamed : record.namedHandle? = none) :
    (c.apply record).1.objects = c.objects ∨ ∃ handle object, handle ∉ c.objects.handles ∧
      (c.apply record).1.objects = c.objects.add handle object := by
  cases draws : record.draws with
  | true => exact Or.inl (c.apply_drawn draws).objects
  | false =>
    cases record
    case createPen | extCreatePen | createBrushIndirect | createDibPatternBrushPt
        | extCreateFontIndirectW | createPalette =>
      change (c.insertObject _ _).1.objects = _ ∨ ∃ handle object, _ ∧
        (c.insertObject _ _).1.objects = _
      rw [insertObject_eq]
      split
      · exact Or.inl rfl
      split
      · exact Or.inl rfl
      · rename_i absent
        rw [ObjectTable.contains_iff] at absent
        exact Or.inr ⟨_, _, absent, rfl⟩
    case restoreDc index => exact Or.inl (c.restore_objects index)
    case intersectClipRect | excludeClipRect => exact Or.inl (c.combineClip_objects _ _)
    case extSelectClipRgn mode region? => exact Or.inl (c.selectClipRegion_objects mode region?)
    all_goals first | (cases draws; done) | (cases unnamed; done) | exact Or.inl rfl

theorem selectStock_objects (c : Context) (handle : UInt32) :
    (∃ kind, handle ∈ Stock.ofKind kind ∧
      (c.selectStock handle).1.objects = c.objects.deselect kind) ∨
    (∀ kind, handle ∉ Stock.ofKind kind) ∧ (c.selectStock handle).1.objects = c.objects := by
  unfold selectStock
  split
  · rename_i pen
    exact Or.inl ⟨.pen, (Pen.isSome_stock? handle).mp (by rw [pen]; rfl), rfl⟩
  · rename_i brush
    exact Or.inl ⟨.brush, (Brush.isSome_stock? handle).mp (by rw [brush]; rfl), rfl⟩
  rename_i noPen noBrush
  split
  · rename_i palette
    exact Or.inl ⟨.palette, List.mem_singleton.mpr palette, rfl⟩
  split
  · rename_i font
    exact Or.inl ⟨.font, font, rfl⟩
  · rename_i noPalette noFont
    refine Or.inr ⟨fun kind listed => ?_, rfl⟩
    cases kind with
    | pen =>
      rw [← Pen.isSome_stock?, noPen] at listed
      cases listed
    | brush =>
      rw [← Brush.isSome_stock?, noBrush] at listed
      cases listed
    | font => exact noFont listed
    | palette => exact noPalette (List.mem_singleton.mp listed)

def SelectsBy (c : Context) (record : Record) : Prop :=
  ∀ handle object, (c.apply record).1.objects.Holds handle object ↔ c.Picks record handle object ∨
    c.objects.Holds handle object ∧ ¬ c.Ends Record.SelectsStockObject handle object record

theorem selectsBy_of_picks
    (picks : ∀ handle object, c.Picks record handle object ↔
      handle = other ∧ c.objects.get? other = some object)
    (keeps : record.deletedHandle? = none)
    (spares : ∀ kind, ¬ record.SelectsStockObject kind)
    (found : ∀ next, c.objects.get? other = some next →
      (c.apply record).1.objects = c.objects.choose next.kind other)
    (missed : c.objects.get? other = none → (c.apply record).1.objects = c.objects) :
    c.SelectsBy record := by
  intro handle object
  have ends : c.Ends Record.SelectsStockObject handle object record ↔
      ∃ next, c.objects.get? other = some next ∧ next.kind = object.kind := by
    constructor
    · rintro (⟨picked, same⟩ | - | takes)
      · exact ⟨_, ((picks _ _).mp picked).2, same⟩
      · cases keeps
      · exact absurd takes (spares _)
    · rintro ⟨next, stored, same⟩
      exact .replaced ((picks other next).mpr ⟨rfl, stored⟩) same
  rw [picks, ends]
  cases stored : c.objects.get? other with
  | none =>
    rw [missed stored]
    simp
  | some next =>
    rw [found next stored, ObjectTable.holds_choose stored]
    simp [eq_comm]

theorem selectsBy_of_unpicked (unpicked : ∀ handle object, ¬ c.Picks record handle object)
    (kept : ∀ handle object, (c.apply record).1.objects.Holds handle object ↔
      c.objects.Holds handle object ∧ ¬ c.Ends Record.SelectsStockObject handle object record) :
    c.SelectsBy record := by
  intro handle object
  rw [kept, or_iff_right (unpicked handle object)]

theorem selectObject_selectsBy (created : Stock.isStock other = false) :
    c.SelectsBy (.selectObject other) := by
  refine selectsBy_of_picks (fun _ _ => picks_selectObject created) rfl ?_ ?_ ?_
  · rintro kind ⟨_, listed, ⟨⟩⟩
    rw [Stock.isStock_of_mem_ofKind listed] at created
    cases created
  · intro next stored
    change (c.selectObject other).1.objects = _
    rw [c.selectObject_eq other created, stored]
  · intro absent
    change (c.selectObject other).1.objects = _
    rw [c.selectObject_eq other created, absent]

theorem selectStock_selectsBy (stock : Stock.isStock other = true) :
    c.SelectsBy (.selectObject other) := by
  have unpicked : ∀ handle object, ¬ c.Picks (.selectObject other) handle object := by
    rintro handle object ⟨⟨⟨⟩, created⟩ | ⟨⟨⟩, -⟩, -, -⟩
    rw [stock] at created
    cases created
  refine selectsBy_of_unpicked unpicked fun handle object => ?_
  have ends : c.Ends Record.SelectsStockObject handle object (.selectObject other) ↔
      other ∈ Stock.ofKind object.kind := by
    constructor
    · rintro (⟨picked, -⟩ | - | ⟨stock, listed, ⟨⟩⟩)
      · exact absurd picked (unpicked _ _)
      · exact listed
    · exact fun listed => .displaced ⟨other, listed, rfl⟩
  have step : (c.apply (.selectObject other)).1 = (c.selectStock other).1 := by
    change (c.selectObject other).1 = _
    rw [selectObject, stock]
    rfl
  rw [step, ends]
  rcases c.selectStock_objects other with ⟨kind, listed, objects⟩ | ⟨unlisted, objects⟩
  · have same : other ∈ Stock.ofKind object.kind ↔ object.kind = kind :=
      ⟨fun again => Stock.ofKind_inj again listed, fun same => same ▸ listed⟩
    rw [objects, ObjectTable.holds_deselect, same]
  · rw [objects]
    exact (and_iff_left (unlisted _)).symm

theorem selectPalette_selectsBy (apart : other ≠ Stock.defaultPalette) :
    c.SelectsBy (.selectPalette other) := by
  refine selectsBy_of_picks (fun _ _ => picks_selectPalette apart) rfl ?_ ?_ ?_
  · rintro kind ⟨-, -, ⟨⟩⟩
  · intro next stored
    change (c.selectPalette other).1.objects = _
    rw [c.selectPalette_eq other apart, stored]
  · intro absent
    change (c.selectPalette other).1.objects = _
    rw [c.selectPalette_eq other apart, absent]

theorem selectDefaultPalette_selectsBy : c.SelectsBy (.selectPalette Stock.defaultPalette) := by
  have unpicked : ∀ handle object,
      ¬ c.Picks (.selectPalette Stock.defaultPalette) handle object := by
    rintro handle object ⟨⟨⟨⟩, -⟩ | ⟨⟨⟩, apart⟩, -, -⟩
    exact apart rfl
  refine selectsBy_of_unpicked unpicked fun handle object => (and_iff_left ?_).symm
  rintro (⟨picked, -⟩ | - | ⟨-, -, ⟨⟩⟩)
  exact unpicked _ _ picked

theorem deleteObject_selectsBy : c.SelectsBy (.deleteObject other) := by
  have unpicked : ∀ handle object, ¬ c.Picks (.deleteObject other) handle object := by
    rintro handle object ⟨⟨⟨⟩, -⟩ | ⟨⟨⟩, -⟩, -, -⟩
  refine selectsBy_of_unpicked unpicked fun handle object => ?_
  have ends : c.Ends Record.SelectsStockObject handle object (.deleteObject other) ↔
      handle = other ∧ Stock.isStock other = false := by
    constructor
    · rintro (⟨picked, -⟩ | created | ⟨-, -, ⟨⟩⟩)
      · exact absurd picked (unpicked _ _)
      · exact ⟨rfl, created⟩
    · rintro ⟨rfl, created⟩
      exact .deleted created
  rw [ends]
  change (c.deleteObject other).1.objects.Holds handle object ↔ _
  cases stock : Stock.isStock other with
  | true =>
    rw [deleteObject, stock]
    simp [done]
  | false =>
    rw [c.deleteObject_eq other stock]
    cases stored : c.objects.get? other with
    | some next => simpa using ObjectTable.holds_remove
    | none =>
      have apart : c.objects.Holds handle object → handle ≠ other := by
        rintro ⟨-, found⟩ rfl
        rw [stored] at found
        cases found
      simpa using apart

theorem unnamed_selectsBy (sound : c.objects.Sound) (unnamed : record.namedHandle? = none) :
    c.SelectsBy record := by
  have unpicked : ∀ handle object, ¬ c.Picks record handle object := by
    intro handle object picked
    rw [picked.named] at unnamed
    cases unnamed
  refine selectsBy_of_unpicked unpicked fun handle object => ?_
  rw [and_iff_left (not_ends_of_unnamed unnamed)]
  rcases c.apply_unnamed unnamed with objects | ⟨other, next, absent, objects⟩
  · rw [objects]
  · rw [objects, sound.holds_add absent]

theorem apply_selectsBy (sound : c.objects.Sound) (record : Record) : c.SelectsBy record := by
  cases named : record.namedHandle? with
  | none => exact unnamed_selectsBy sound named
  | some other =>
    cases record
    case selectObject handle =>
      cases stock : Stock.isStock handle with
      | true => exact selectStock_selectsBy stock
      | false => exact selectObject_selectsBy stock
    case selectPalette handle =>
      by_cases default : handle = Stock.defaultPalette
      · rw [default]
        exact selectDefaultPalette_selectsBy
      · exact selectPalette_selectsBy default
    case deleteObject => exact deleteObject_selectsBy
    all_goals cases named

variable {stock : Record → ObjectKind → Prop}

theorem not_stands_nil : ¬ c.Stands stock [] handle object := by
  rintro ⟨before, record, after, split, -, -⟩
  simp at split

theorem stands_concat (records : List Record) (record : Record) :
    c.Stands stock (records ++ [record]) handle object ↔
      (c.play records).Picks record handle object ∨ c.Stands stock records handle object ∧
        ¬ (c.play records).Ends stock handle object record := by
  constructor
  · rintro ⟨before, picking, after, split, picks, lasts⟩
    rcases List.eq_nil_or_concat after with rfl | ⟨after, last, rfl⟩
    · obtain ⟨rfl, same⟩ := List.append_inj' split rfl
      rw [List.cons.inj same |>.1]
      exact Or.inl picks
    · rw [List.concat_eq_append] at split lasts
      rw [← List.cons_append, ← List.append_assoc] at split
      obtain ⟨rfl, same⟩ := List.append_inj' split rfl
      rw [List.cons.inj same |>.1]
      refine Or.inr ⟨⟨before, picking, after, rfl, picks, ?_⟩, lasts after last [] rfl⟩
      rintro between later rest rfl
      exact lasts between later (rest ++ [last]) (by simp)
  · rintro (picks | ⟨⟨before, picking, after, rfl, picks, lasts⟩, stays⟩)
    · exact ⟨records, record, [], rfl, picks, by simp⟩
    · refine ⟨before, picking, after ++ [record], by simp, picks, ?_⟩
      intro between later rest split
      rcases List.eq_nil_or_concat rest with rfl | ⟨rest, last, rfl⟩
      · obtain ⟨rfl, same⟩ := List.append_inj' split rfl
        rw [← (List.cons.inj same).1]
        exact stays
      · rw [List.concat_eq_append, ← List.cons_append, ← List.append_assoc] at split
        exact lasts between later rest (List.append_inj' split rfl).1

/-- Selections stand alike for two readings of what takes a place, where these tell no record of
the run apart. -/
theorem stands_congr {other : Record → ObjectKind → Prop} {records : List Record}
    (same : ∀ record ∈ records, stock record object.kind ↔ other record object.kind) :
    c.Stands stock records handle object ↔ c.Stands other records handle object := by
  induction records using List.reverseRecOn with
  | nil => exact iff_of_false not_stands_nil not_stands_nil
  | append_singleton records record ih =>
    have last := same record (by simp)
    have ends : (c.play records).Ends stock handle object record ↔
        (c.play records).Ends other handle object record := by
      constructor
      · rintro (⟨picks, alike⟩ | created | takes)
        exacts [.replaced picks alike, .deleted created, .displaced (last.mp takes)]
      · rintro (⟨picks, alike⟩ | created | takes)
        exacts [.replaced picks alike, .deleted created, .displaced (last.mpr takes)]
    have earlier := ih fun earlier member => same earlier (List.mem_append_left _ member)
    rw [stands_concat, stands_concat, earlier, ends]

theorem play_holds (unused : c.objects = .empty) (records : List Record) :
    (c.play records).objects.Holds handle object ↔
      c.Stands Record.SelectsStockObject records handle object := by
  induction records using List.reverseRecOn with
  | nil =>
    refine iff_of_false ?_ not_stands_nil
    rintro ⟨chosen, -⟩
    rw [play, List.foldl_nil, unused] at chosen
    cases chosen
  | append_singleton records record ih =>
    have step := apply_selectsBy (play_sound (unused ▸ ObjectTable.sound_empty) records) record
    rw [play_concat, step, stands_concat, ih]

theorem play_selected?_iff_stands (unused : c.objects = .empty) (records : List Record)
    (kind : ObjectKind) (object : GraphicsObject) :
    (c.play records).objects.selected? kind = some object ↔ object.kind = kind ∧
      ∃ handle, c.Stands Record.SelectsStockObject records handle object := by
  rw [(play_sound (unused ▸ ObjectTable.sound_empty) records).selected?_eq_some_iff]
  simp only [play_holds unused]

/-- After any run, the selected object of a kind is the one of that kind whose selection stands.
Only the default palette, when it is selected as a palette, does not end the selection of another
one. -/
theorem play_selected?_iff {header : Header} {options : RenderOptions} {fonts : FontLibrary}
    {rasterizer : Rasterizer} (made : Context.new header options fonts rasterizer = .ok c)
    (records : List Record) (kind : ObjectKind) (object : GraphicsObject) :
    ((c.play records).objects.selected? kind = some object ↔ object.kind = kind ∧
      ∃ handle, c.Stands Record.SelectsStockObject records handle object) ∧
    ((kind = .palette → .selectPalette Stock.defaultPalette ∉ records) →
      ((c.play records).objects.selected? kind = some object ↔ object.kind = kind ∧
        ∃ handle, c.Stands Record.SelectsStock records handle object)) := by
  have unused : c.objects = .empty := by
    obtain ⟨width, height, raster, -, -, rfl⟩ := new_ok made
    rfl
  have objectwise := play_selected?_iff_stands unused records kind object
  refine ⟨objectwise, fun spared => objectwise.trans (and_congr_right ?_)⟩
  rintro rfl
  refine exists_congr fun handle => stands_congr fun record member => ?_
  refine Record.selectsStock_iff fun palette selected => spared palette ?_
  rw [← selected]
  exact member

/-- A palette that is selected, behind it a handle that is not there, another one that is deleted,
and a stock object of another kind. -/
def chosenPalette : List Record :=
  [.createPalette 1 [], .selectPalette 1, .selectPalette 7, .deleteObject 2,
    .selectObject Stock.blackPen]

theorem stands_chosenPalette :
    Context.new Container.penFile.header .default .bare .sampling = .ok square ∧
    (ObjectKind.palette = .palette → .selectPalette Stock.defaultPalette ∉ chosenPalette) ∧
    ∃ handle, square.Stands Record.SelectsStock chosenPalette handle (.palette []) := by
  have made : Context.new Container.penFile.header .default .bare .sampling = .ok square := rfl
  have spared : ObjectKind.palette = .palette →
      .selectPalette Stock.defaultPalette ∉ chosenPalette := by
    simp [chosenPalette, Stock.defaultPalette]
  have selected : (square.play chosenPalette).objects.selected? .palette = some (.palette []) := rfl
  have stands := ((play_selected?_iff made chosenPalette .palette _).2 spared).mp selected
  exact ⟨made, spared, stands.2⟩

def defaultedPalette : List Record :=
  [.createPalette 1 [], .selectPalette 1, .selectPalette Stock.defaultPalette]

/-- The default palette, selected as a palette, leaves the other one selected. -/
theorem not_stands_defaultedPalette :
    ¬ ∀ (header : Header) (options : RenderOptions) (fonts : FontLibrary)
      (rasterizer : Rasterizer) (c : Context) (records : List Record) (kind : ObjectKind)
      (object : GraphicsObject),
        Context.new header options fonts rasterizer = .ok c → (∀ index, .restoreDc index ∉ records) →
        ((c.play records).objects.selected? kind = some object ↔ object.kind = kind ∧
          ∃ handle, c.Stands Record.SelectsStock records handle object) := by
  intro always
  have chosen := always Container.penFile.header .default .bare .sampling square
    defaultedPalette .palette (.palette []) rfl (by simp [defaultedPalette])
  obtain ⟨-, handle, stands⟩ := chosen.mp rfl
  rcases (stands_concat [.createPalette 1 [], .selectPalette 1] _).mp stands with picks | ⟨-, stays⟩
  · rcases picks.names with ⟨⟨⟩, -⟩ | ⟨⟨⟩, apart⟩
    exact apart rfl
  · exact stays (.displaced (Or.inr ⟨rfl, rfl⟩))

end Context

end Metafile
