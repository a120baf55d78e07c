import Metafile.Proofs.ClipSafety
import Metafile.Proofs.ObjectLife
import Metafile.Render

/-! # Rendering

Once a file has been read, only the size of the raster can keep it from being rendered. The picture
then has the size that the header asks for, and every pixel of it is opaque. -/
namespace Metafile

def Header.Renderable (h : Header) (options : RenderOptions) (rasterizer : Rasterizer) : Prop :=
  0 < h.width ∧ h.width < UInt32.size ∧ 0 < h.height ∧ h.height < UInt32.size ∧
    ∃ raster, options.Allows rasterizer h.width.toNat h.height.toNat raster

theorem Header.rasterSize_eq_ok_iff {h : Header} {width height : Nat} :
    h.rasterSize = .ok (width, height) ↔
      0 < h.width ∧ h.width < UInt32.size ∧ 0 < h.height ∧ h.height < UInt32.size ∧
        width = h.width.toNat ∧ height = h.height.toNat := by
  unfold rasterSize
  by_cases sides : 0 < h.width ∧ h.width < UInt32.size ∧ 0 < h.height ∧ h.height < UInt32.size
  · rw [if_pos sides, Except.ok.injEq, Prod.mk.injEq]
    tauto
  · rw [if_neg sides]
    constructor
    · intro sized
      cases sized
    · rintro ⟨wide, narrow, high, low, -, -⟩
      exact absurd ⟨wide, narrow, high, low⟩ sides

namespace Context

variable {header : Header} {options : RenderOptions} {fonts : FontLibrary} {rasterizer : Rasterizer}

theorem exists_new_iff : (∃ c, Context.new header options fonts rasterizer = .ok c) ↔
    header.Renderable options rasterizer := by
  constructor
  · rintro ⟨c, made⟩
    obtain ⟨width, height, raster, sized, allowed, -⟩ := new_ok made
    obtain ⟨wide, narrow, high, low, rfl, rfl⟩ := Header.rasterSize_eq_ok_iff.mp sized
    exact ⟨wide, narrow, high, low, raster, allowed⟩
  · rintro ⟨wide, narrow, high, low, raster, allowed⟩
    have sized := Header.rasterSize_eq_ok_iff.mpr ⟨wide, narrow, high, low, rfl, rfl⟩
    exact ⟨_, new_eq_ok_iff.mpr ⟨_, _, raster, sized, allowed, rfl⟩⟩

theorem new_error {e : Error} (failed : Context.new header options fonts rasterizer = .error e) :
    e = .invalidRasterSize header.width header.height := by
  unfold Context.new at failed
  cases sized : header.rasterSize with
  | error other =>
    rw [sized] at failed
    cases failed
    unfold Header.rasterSize at sized
    split at sized
    · cases sized
    · cases sized
      rfl
  | ok size =>
    obtain ⟨width, height⟩ := size
    obtain ⟨wide, -, high, -, rfl, rfl⟩ := Header.rasterSize_eq_ok_iff.mp sized
    have width : (header.width.toNat : Int) = header.width := Int.toNat_of_nonneg (by omega)
    have height : (header.height.toNat : Int) = header.height := Int.toNat_of_nonneg (by omega)
    rw [sized] at failed
    change (if _ then _ else _) = _ at failed
    rw [width, height] at failed
    split at failed
    · cases failed
      rfl
    · split at failed
      · cases failed
        rfl
      · cases failed

theorem new_eq_error_iff {e : Error} :
    Context.new header options fonts rasterizer = .error e ↔
      e = .invalidRasterSize header.width header.height ∧
        ¬ header.Renderable options rasterizer := by
  rw [← @exists_new_iff header options fonts rasterizer]
  constructor
  · intro failed
    refine ⟨new_error failed, ?_⟩
    rintro ⟨c, made⟩
    rw [failed] at made
    cases made
  · rintro ⟨rfl, refused⟩
    cases made : Context.new header options fonts rasterizer with
    | error e => rw [new_error made]
    | ok c => exact absurd ⟨c, made⟩ refused

variable {c : Context}

theorem play_size (keeps : c.rasterizer.KeepsSize) (records : List Record) :
    (c.play records).raster.width = c.raster.width ∧
      (c.play records).raster.height = c.raster.height := by
  refine play_induction (P := fun d => d.raster.width = c.raster.width ∧
    d.raster.height = c.raster.height) records ⟨rfl, rfl⟩ fun d record same size => ?_
  have painted := d.apply_repaints record
  rw [same] at painted
  exact ⟨(painted.width keeps).trans size.1, (painted.height keeps).trans size.2⟩

theorem play_isOpaque (paints : c.rasterizer.PaintsOpaquely) (sharp : c.plotter.antiAlias = false)
    (solid : c.raster.Opaque) (records : List Record) : (c.play records).raster.Opaque := by
  refine play_induction (P := fun d => d.raster.Opaque) records solid fun d record same solid => ?_
  have painted := d.apply_repaints record
  rw [same] at painted
  exact painted.isOpaque paints sharp solid

theorem finish_eq (reads : c.rasterizer.ReadsBack) (solid : c.raster.Opaque) :
    c.finish = .ok c.raster := by
  have plain : c.raster.map c.rasterizer.demultiply = c.raster := by
    refine Image.ext_pixels rfl rfl fun i => ?_
    refine Array.getElem?_map.trans ?_
    cases found : c.raster.pixels[i]? with
    | none => rfl
    | some p =>
      rw [Option.map_some, reads.demultiply (solid p (Array.mem_of_getElem? found))]
  unfold finish
  dsimp only
  rw [plain, reads.picture]

end Context

namespace Document

/-- Playback that meets no fatal error is the same as playback that passes all errors over. -/
theorem playAll_eq {c : Context} {records : List Record}
    (passes : ∀ before record rest, records = before ++ record :: rest →
      ((c.play before).apply record).Passes) : playAll c records = .ok (c.play records) := by
  induction records generalizing c with
  | nil => rfl
  | cons record rest ih =>
    have later : playAll (c.apply record).1 rest = .ok (c.play (record :: rest)) :=
      ih fun before next after split => passes (record :: before) next after (by rw [split]; rfl)
    have now : (c.apply record).Passes := passes [] record rest rfl
    unfold playAll
    split
    · rename_i next step
      rw [step] at later
      exact later
    · rename_i next e step
      have passed : e.isFatal = false := now e (by rw [step])
      rw [step] at later
      rw [passed]
      exact later

variable {d : Document} {options : RenderOptions} {fonts : FontLibrary} {rasterizer : Rasterizer}

theorem Lawful.render_eq (lawful : d.Lawful) :
    d.render options fonts rasterizer =
      (Context.new d.header options fonts rasterizer).bind fun c => (c.play d.records).finish := by
  unfold render
  cases made : Context.new d.header options fonts rasterizer with
  | error e => rfl
  | ok c =>
    have played : playAll c d.records = .ok (c.play d.records) :=
      playAll_eq fun before record rest split => lawful.apply_passes made split
    change Except.bind (playAll c d.records) _ = _
    rw [played]
    rfl

theorem Lawful.render_of_new (lawful : d.Lawful) (rasters : rasterizer.MakesRasters)
    (paints : rasterizer.PaintsOpaquely) (reads : rasterizer.ReadsBack)
    (sharp : options.antiAlias = false) {c : Context}
    (made : Context.new d.header options fonts rasterizer = .ok c) :
    (c.play d.records).raster.Opaque ∧
      d.render options fonts rasterizer = .ok (c.play d.records).raster := by
  rw [lawful.render_eq, made]
  obtain ⟨width, height, raster, -, allowed, rfl⟩ := Context.new_ok made
  have blank := rasters allowed.made
  have initial : raster.Opaque := fun p member => by rw [blank.plain p member]; rfl
  have solid := Context.play_isOpaque
    (c := .start raster ⟨rasterizer, options.antiAlias⟩ d.header.bounds fonts) paints sharp initial
    d.records
  refine ⟨solid, Context.finish_eq ?_ solid⟩
  rw [Context.rasterizer, Context.play_plotter]
  exact reads

/-- A document that has been read is rendered whenever its size is accepted, if edges are sharp. No
record can keep it from that, and the picture is opaque and of the size that the header asks for. -/
theorem render_of_parse {data : Bytes} (parsed : parse data = .ok d) (options : RenderOptions)
    (fonts : FontLibrary) (rasters : rasterizer.MakesRasters)
    (keeps : rasterizer.KeepsSize) (paints : rasterizer.PaintsOpaquely)
    (reads : rasterizer.ReadsBack) (sharp : options.antiAlias = false) :
    (∀ e, d.render options fonts rasterizer = .error e ↔
      Context.new d.header options fonts rasterizer = .error e) ∧
    (∀ e, Context.new d.header options fonts rasterizer = .error e ↔
      e = .invalidRasterSize d.header.width d.header.height ∧
        ¬ d.header.Renderable options rasterizer) ∧
    (∀ c before record rest e, Context.new d.header options fonts rasterizer = .ok c →
      d.records = before ++ record :: rest → ((c.play before).apply record).2 = some e →
      e.isFatal = false) ∧
    (∀ image, d.render options fonts rasterizer = .ok image →
      d.header.rasterSize = .ok (image.width, image.height) ∧ image.Opaque) := by
  have lawful := lawful_of_parse parsed
  refine ⟨fun e => ?_, fun e => Context.new_eq_error_iff, ?_, fun image rendered => ?_⟩
  · cases made : Context.new d.header options fonts rasterizer with
    | error other =>
      rw [lawful.render_eq, made]
      change Except.error other = _ ↔ _
      rw [Except.error.injEq, Except.error.injEq]
    | ok c =>
      rw [(lawful.render_of_new rasters paints reads sharp made).2]
      constructor <;> intro failed <;> cases failed
  · intro c before record rest e made split
    exact lawful.apply_passes made split e
  · cases made : Context.new d.header options fonts rasterizer with
    | error e =>
      rw [lawful.render_eq, made] at rendered
      cases rendered
    | ok c =>
      obtain ⟨solid, drawn⟩ := lawful.render_of_new rasters paints reads sharp made
      cases drawn.symm.trans rendered
      obtain ⟨width, height, raster, size, allowed, rfl⟩ := Context.new_ok made
      have blank := rasters allowed.made
      obtain ⟨wide, high⟩ := Context.play_size
        (c := .start raster ⟨rasterizer, options.antiAlias⟩ d.header.bounds fonts) keeps d.records
      rw [wide, high]
      refine ⟨?_, solid⟩
      change d.header.rasterSize = .ok (raster.width, raster.height)
      rw [blank.width_eq, blank.height_eq, size]

/-- The file with a pen is accepted, so it is rendered. -/
theorem render_penFile :
    parse (Container.penFile.bytes ++ #[0xFF]) = .ok Container.penFile.document ∧
    ∃ image, Container.penFile.document.render { RenderOptions.default with antiAlias := false }
        .bare .sampling = .ok image ∧
      image.width = 2 ∧ image.height = 2 ∧ image.Opaque := by
  have parsed := Container.penFile.parse #[0xFF]
  have renderable : Container.penFile.header.Renderable
      { RenderOptions.default with antiAlias := false } .sampling := by
    refine ⟨by decide, by decide, by decide, by decide, _, ⟨by decide, by decide, rfl⟩⟩
  obtain ⟨fails, refused, -, solid⟩ := render_of_parse parsed
    { RenderOptions.default with antiAlias := false } .bare Rasterizer.sampling_makesRasters
    Rasterizer.sampling_keepsSize Rasterizer.sampling_paintsOpaquely Rasterizer.sampling_readsBack
    rfl
  refine ⟨parsed, ?_⟩
  cases rendered : Container.penFile.document.render
      { RenderOptions.default with antiAlias := false } .bare .sampling with
  | error e => exact absurd renderable ((refused e).mp ((fails e).mp rendered)).2
  | ok image =>
    obtain ⟨size, solid⟩ := solid image rendered
    have square : Container.penFile.header.rasterSize = .ok (2, 2) := rfl
    obtain ⟨width, height⟩ := Prod.mk.inj (Except.ok.inj (size.symm.trans square))
    exact ⟨image, rfl, width, height, solid⟩

end Document

end Metafile
