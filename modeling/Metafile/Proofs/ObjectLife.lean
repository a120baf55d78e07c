import Metafile.Proofs.Container
import Metafile.Proofs.CreatedHandle
import Metafile.Proofs.Faults
import Metafile.Proofs.NewContext

/-! # Lives of objects

Playback stores objects under the very handles that the reader has counted as live. An object can
therefore always be created, and a handle is unknown just when the records say so. -/
namespace Metafile

def Record.GivesValidHandle (record : Record) : Prop :=
  ∀ handle, record.createdHandle? = some handle → Record.checkHandle handle = .ok ()

namespace Document

theorem createdHandle?_inBody (record : Record) (size : Nat) :
    (inBody record size).createdHandle? = record.createdHandle? := by
  cases record <;> rfl

structure Lawful (d : Document) : Prop where
  fresh : FreshHandles d.records
  valid : ∀ record ∈ d.records, record.GivesValidHandle

theorem afterAll?_inBody (live : LiveHandles) (body : List WholeRecord) :
    live.afterAll? (body.map WholeRecord.inBody) = live.afterAll? (body.map (·.record)) := by
  induction body generalizing live with
  | nil => rfl
  | cons w body ih =>
    simp only [LiveHandles.afterAll?, List.map_cons, List.foldlM_cons]
    rw [WholeRecord.inBody, after?_inBody]
    cases live.after? w.record with
    | none => rfl
    | some next => exact ih next

theorem lawful_of_parse {data : Bytes} {d : Document} (parsed : parse data = .ok d) :
    d.Lawful := by
  obtain ⟨c, rest, -, rfl⟩ := exists_container parsed
  constructor
  · obtain ⟨final, run⟩ := (LiveHandles.afterAll?_iff_fresh _).mpr c.fresh
    refine (LiveHandles.afterAll?_iff_fresh _).mp ⟨final, ?_⟩
    exact (afterAll?_inBody [] c.body).trans run
  · intro record member handle creates
    obtain ⟨w, -, rfl⟩ := List.mem_map.mp member
    rw [WholeRecord.inBody, createdHandle?_inBody] at creates
    exact Record.decode_checked _ _ w.record handle w.decodes creates

end Document

namespace Context

/-- Playback of some records has left objects under just the live handles. -/
structure Tracks (c : Context) (done : List Record) : Prop where
  mem_iff : ∀ handle, handle ∈ c.objects.handles ↔ Live done handle
  valid : ∀ handle ∈ c.objects.handles, Record.checkHandle handle = .ok ()

theorem tracks_start (raster : Image) (plotter : Plotter) (bounds : Rect) (fonts : FontLibrary) :
    (start raster plotter bounds fonts).Tracks [] := by
  constructor
  · intro handle
    simp [start, ObjectTable.empty, ObjectTable.handles, not_live_nil]
  · intro handle member
    cases member

theorem apply_handles (c : Context) (record : Record) :
    (∃ handle object, record.createdHandle? = some handle ∧
      c.apply record = c.insertObject handle object) ∨
    (∃ handle, record = .deleteObject handle) ∨
    (record.createdHandle? = none ∧ record.deletedHandle? = none ∧
      (c.apply record).1.objects.handles = c.objects.handles) := by
  cases draws : record.draws with
  | true =>
    have kept := congrArg ObjectTable.handles (c.apply_drawn draws).objects
    cases record
    all_goals first | (cases draws; done) | exact Or.inr (Or.inr ⟨rfl, rfl, kept⟩)
  | false =>
    cases record
    case createPen | extCreatePen | createBrushIndirect | createDibPatternBrushPt
        | extCreateFontIndirectW | createPalette => exact Or.inl ⟨_, _, rfl, rfl⟩
    case deleteObject handle => exact Or.inr (Or.inl ⟨handle, rfl⟩)
    case selectObject handle => exact Or.inr (Or.inr ⟨rfl, rfl, c.selectObject_handles handle⟩)
    case selectPalette handle => exact Or.inr (Or.inr ⟨rfl, rfl, c.selectPalette_handles handle⟩)
    case extSelectClipRgn mode region? =>
      refine Or.inr (Or.inr ⟨rfl, rfl, congrArg ObjectTable.handles ?_⟩)
      exact c.selectClipRegion_objects mode region?
    case intersectClipRect | excludeClipRect =>
      refine Or.inr (Or.inr ⟨rfl, rfl, congrArg ObjectTable.handles ?_⟩)
      exact c.combineClip_objects _ _
    case restoreDc index =>
      exact Or.inr (Or.inr ⟨rfl, rfl, congrArg ObjectTable.handles (c.restore_objects index)⟩)
    all_goals first | (cases draws; done) | exact Or.inr (Or.inr ⟨rfl, rfl, rfl⟩)

variable {c : Context} {done : List Record}

theorem Tracks.created (tracks : c.Tracks done) :
    ∀ handle ∈ c.objects.handles, Stock.isStock handle = false :=
  fun handle member => (Record.checkHandle_ok (tracks.valid handle member)).2

theorem Tracks.next (tracks : c.Tracks done) {record : Record} (valid : record.GivesValidHandle) :
    (c.apply record).1.Tracks (done ++ [record]) := by
  rcases c.apply_handles record with ⟨handle, object, creates, step⟩ | ⟨handle, rfl⟩ |
    ⟨idle, spares, kept⟩
  · have nonzero := (Record.checkHandle_ok (valid handle creates)).1
    have spares : ∀ other, record ≠ .deleteObject other := by
      rintro other rfl
      cases creates
    have members := c.mem_handles_insertObject handle object nonzero
    constructor
    · intro other
      rw [step, members, live_concat, tracks.mem_iff, creates]
      simp [spares, eq_comm]
    · intro other member
      rw [step, members] at member
      rcases member with rfl | member
      · exact valid other creates
      · exact tracks.valid other member
  · have members : ∀ other, other ∈ (c.deleteObject handle).1.objects.handles ↔
        other ∈ c.objects.handles ∧ other ≠ handle := 
      c.mem_handles_deleteObject handle tracks.created
    constructor
    · intro other
      change other ∈ (c.deleteObject handle).1.objects.handles ↔ _
      rw [members, live_concat, tracks.mem_iff]
      simp [Record.createdHandle?, eq_comm]
    · intro other member
      exact tracks.valid other ((members other).mp member).1
  · constructor
    · intro handle
      rw [kept, live_concat, tracks.mem_iff]
      simp [idle, Record.ne_deleteObject spares]
    · intro handle member
      rw [kept] at member
      exact tracks.valid handle member

theorem Tracks.play (tracks : c.Tracks done) {records : List Record}
    (valid : ∀ record ∈ records, record.GivesValidHandle) :
    (c.play records).Tracks (done ++ records) := by
  induction records generalizing c done with
  | nil =>
    rw [List.append_nil]
    exact tracks
  | cons record rest ih =>
    rw [List.append_cons]
    exact ih (tracks.next (valid record List.mem_cons_self))
      fun later member => valid later (List.mem_cons_of_mem _ member)

/-- An object can be created under any valid handle that is not live. -/
theorem Tracks.apply_creates (tracks : c.Tracks done) {record : Record} {handle : UInt32}
    (valid : record.GivesValidHandle) (creates : record.createdHandle? = some handle)
    (fresh : ¬ Live done handle) : (c.apply record).2 = none := by
  rcases c.apply_handles record with ⟨other, object, named, step⟩ | ⟨deleted, rfl⟩ | ⟨idle, -, -⟩
  · rw [creates] at named
    cases named
    have nonzero := (Record.checkHandle_ok (valid handle creates)).1
    have unused : ¬ c.objects.contains handle = true := by
      rw [ObjectTable.contains_iff, tracks.mem_iff]
      exact fresh
    rw [step, insertObject_eq, if_neg nonzero, if_neg unused]
  · cases creates
  · rw [idle] at creates
    cases creates

theorem apply_named_eq {record : Record} {handle : UInt32}
    (named : record.namedHandle? = some handle) (created : Stock.isStock handle = false) :
    ∃ next : GraphicsObject → Context, c.apply record =
      match c.objects.get? handle with
      | some object => (next object, none)
      | none => (c, some (.unknownHandle handle)) := by
  have other : handle ≠ Stock.defaultPalette := by
    rintro rfl
    cases created
  cases record
  case selectObject =>
    cases named
    exact ⟨_, c.selectObject_eq handle created⟩
  case selectPalette =>
    cases named
    exact ⟨_, c.selectPalette_eq handle other⟩
  case deleteObject =>
    cases named
    exact ⟨fun _ => _, c.deleteObject_eq handle created⟩
  all_goals cases named

theorem apply_named {record : Record} {handle : UInt32} (named : record.namedHandle? = some handle)
    (created : Stock.isStock handle = false) :
    (c.apply record).2 =
      if handle ∈ c.objects.handles then none else some (.unknownHandle handle) := by
  obtain ⟨next, step⟩ := apply_named_eq (c := c) named created
  rw [step]
  cases found : c.objects.get? handle with
  | none => rw [if_neg (ObjectTable.get?_eq_none_iff.mp found)]
  | some object =>
    have member : handle ∈ c.objects.handles := by
      refine Decidable.byContradiction fun absent => ?_
      rw [ObjectTable.get?_eq_none_iff.mpr absent] at found
      cases found
    rw [if_pos member]

end Context

namespace Document.Lawful

variable {d : Document} {header : Header} {options : RenderOptions} {fonts : FontLibrary}
  {rasterizer : Rasterizer} {c : Context} {before rest : List Record} {record : Record}

theorem tracks (lawful : d.Lawful)
    (made : Context.new header options fonts rasterizer = .ok c)
    (split : d.records = before ++ rest) : (c.play before).Tracks before := by
  obtain ⟨width, height, raster, -, -, rfl⟩ := Context.new_ok made
  have initial := Context.tracks_start raster ⟨rasterizer, options.antiAlias⟩ header.bounds fonts
  refine initial.play fun record member => lawful.valid record ?_
  rw [split]
  exact List.mem_append_left rest member

theorem apply_creates (lawful : d.Lawful)
    (made : Context.new header options fonts rasterizer = .ok c)
    (split : d.records = before ++ record :: rest) (creates : record.createdHandle? ≠ none) :
    ((c.play before).apply record).2 = none := by
  obtain ⟨handle, creates⟩ := Option.ne_none_iff_exists'.mp creates
  have valid : record.GivesValidHandle := lawful.valid record (by simp [split])
  exact (lawful.tracks made split).apply_creates valid creates
    (lawful.fresh before record rest handle split creates)

theorem apply_passes (lawful : d.Lawful)
    (made : Context.new header options fonts rasterizer = .ok c)
    (split : d.records = before ++ record :: rest) : ((c.play before).apply record).Passes := by
  by_cases idle : record.createdHandle? = none
  · exact (c.play before).apply_passes idle
  · exact (Context.Outcome.Paints.of_none (lawful.apply_creates made split idle)).passes

end Document.Lawful

/-- Reader and playback agree on the objects at a place between the records of a document. -/
structure Context.LifetimesAgree (c : Context) (before after : List Record) : Prop where
  /-- The list that the reader keeps at the same place. -/
  reader : ∃ live, LiveHandles.afterAll? [] before = some live ∧
    ∀ handle, handle ∈ live ↔ handle ∈ c.objects.handles
  live : ∀ handle, handle ∈ c.objects.handles ↔ Live before handle
  range : ∀ handle ∈ c.objects.handles, 1 ≤ handle.toNat ∧ handle.toNat ≤ 0x7FFFFFFF
  creates : ∀ record rest, after = record :: rest → record.createdHandle? ≠ none →
    (c.apply record).2 = none
  never_duplicate : ∀ record rest, after = record :: rest → ∀ handle offset,
    (c.apply record).2 ≠ some (.duplicateHandle handle offset)
  unknown : ∀ record handle, record.namedHandle? = some handle → Stock.isStock handle = false →
    ((c.apply record).2 = some (.unknownHandle handle) ↔ ¬ Live before handle) ∧
    ((c.apply record).2 = none ↔ Live before handle)

/-- At every place of a document the table holds just the objects that the records before it have
created and not deleted, and it is over these alone that a record can fail to find its object. -/
theorem Document.play_lifetimesAgree {data : Bytes} {d : Document} {header : Header}
    {options : RenderOptions} {fonts : FontLibrary} {rasterizer : Rasterizer} {c : Context}
    {before after : List Record} (parsed : parse data = .ok d)
    (made : Context.new header options fonts rasterizer = .ok c)
    (split : d.records = before ++ after) : (c.play before).LifetimesAgree before after := by
  have lawful := lawful_of_parse parsed
  have tracks := lawful.tracks made split
  constructor
  · have fresh := lawful.fresh
    rw [split] at fresh
    obtain ⟨live, run⟩ := (LiveHandles.afterAll?_iff_fresh before).mpr fresh.of_append
    refine ⟨live, run, fun handle => ?_⟩
    rw [LiveHandles.exact_nil.run run handle, tracks.mem_iff handle, List.nil_append]
  · exact tracks.mem_iff
  · exact fun handle member => Record.checkHandle_range (tracks.valid handle member)
  · rintro record rest rfl creates
    exact lawful.apply_creates made split creates
  · rintro record rest rfl handle offset failed
    cases lawful.apply_passes made split _ failed
  · intro record handle named created
    rw [Context.apply_named named created, ← tracks.mem_iff handle]
    by_cases member : handle ∈ (c.play before).objects.handles <;> simp [member]

theorem Document.play_penFile :
    ∃ c, parse (Container.penFile.bytes ++ #[0xFF]) = .ok Container.penFile.document ∧
      Context.new Container.penFile.header .default .bare .sampling = .ok c ∧
      Container.penFile.document.records =
        [.createPen 1 ⟨0, 1, ⟨255⟩⟩] ++ [.selectObject 1, .lineTo ⟨1, 1⟩, .deleteObject 1] ∧
      (c.play [.createPen 1 ⟨0, 1, ⟨255⟩⟩]).LifetimesAgree [.createPen 1 ⟨0, 1, ⟨255⟩⟩]
        [.selectObject 1, .lineTo ⟨1, 1⟩, .deleteObject 1] := by
  have parsed := Container.penFile.parse #[0xFF]
  have made : Context.new Container.penFile.header .default .bare .sampling = .ok .square := rfl
  exact ⟨_, parsed, made, rfl, play_lifetimesAgree parsed made rfl⟩

end Metafile
