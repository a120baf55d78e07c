import Metafile.Proofs.RasterLaws
import Metafile.Proofs.Success
import Metafile.Raster.Blit
import Metafile.Text.Draw

/-! # Repainting

Whatever is drawn on a raster comes to a number of shapes, drawn by the rasterizer in the ink of a
pen or a brush, and of single pixels that the clip shows and that get an opaque colour. So a law of
the rasterizer for one shape carries over to all that is drawn. -/
namespace Metafile

namespace Dib

theorem toImage_of_toTile {dib : Dib} {tile : Tile} (read : dib.toTile = .ok tile) :
    dib.toImage = .ok tile.image := by
  unfold toTile at read
  split at read
  · rename_i image found
    cases read
    exact found
  · cases read

theorem toImage_isOpaque {dib : Dib} {image : Image} (h : dib.toImage = .ok image) :
    image.Opaque := by
  unfold toImage at h
  dsimp only at h
  split at h
  · cases h
  split at h
  · split at h
    · cases h
    obtain ⟨_, -, h⟩ := of_bind_ok h
    cases h
    exact Image.generate_isOpaque _ _ fun _ _ => rfl
  · cases h

end Dib

inductive Rasterizer.Inks (r : Rasterizer) : Ink → Prop where
  | solid (color : ColorRef) : r.Inks (.solid color)
  | tiled {dib : Dib} {tile : Tile} (made : r.pattern dib = .ok tile) : r.Inks (.tiled tile)

theorem Rasterizer.Inks.isOpaque {r : Rasterizer} (laws : r.PaintsOpaquely) {ink : Ink}
    (h : r.Inks ink) : ink.Opaque := by
  cases h with
  | solid color => exact Ink.solid_isOpaque color
  | tiled made =>
    obtain ⟨source, read, made⟩ := of_bind_ok made
    split at made
    · rename_i tile painted
      cases made
      have solid := Dib.toImage_isOpaque (Dib.toImage_of_toTile read)
      exact Ink.tiled_isOpaque (laws.tile painted solid)
    · cases made

namespace Plotter

/-- What drawing under a clip may make of a raster. The clip may be narrowed for a while. -/
inductive Repaints (t : Plotter) : Clip → Image → Image → Prop where
  | refl (clip : Clip) (im : Image) : t.Repaints clip im im
  | trans {clip : Clip} {im next last : Image} :
      t.Repaints clip im next → t.Repaints clip next last → t.Repaints clip im last
  | draws {clip : Clip} {ink : Ink} {im next : Image} (inks : t.rasterizer.Inks ink)
      (drawn : t.rasterizer.Draws (t.paint ink) clip im next) : t.Repaints clip im next
  | recolors {clip : Clip} {im : Image} (color : Nat → Rgba → Option Rgba)
      (painted : ∀ i old new, color i old = some new → clip.shows i = true ∧ new.alpha = 255) :
      t.Repaints clip im (im.recolor color)
  | narrowed {clip : Clip} {area : Mask} {im next : Image}
      (made : t.rasterizer.Area im.width im.height area) :
      t.Repaints (clip.combine area .intersect) im next → t.Repaints clip im next

variable {t : Plotter} {clip : Clip} {im next : Image}

namespace Repaints

theorem width (laws : t.rasterizer.KeepsSize) (h : t.Repaints clip im next) :
    next.width = im.width := by
  induction h with
  | refl | recolors => rfl
  | trans _ _ first second => exact second.trans first
  | draws _ drawn => exact laws.width drawn
  | narrowed _ _ ih => exact ih

theorem height (laws : t.rasterizer.KeepsSize) (h : t.Repaints clip im next) :
    next.height = im.height := by
  induction h with
  | refl | recolors => rfl
  | trans _ _ first second => exact second.trans first
  | draws _ drawn => exact laws.height drawn
  | narrowed _ _ ih => exact ih

theorem isOpaque (laws : t.rasterizer.PaintsOpaquely) (sharp : t.antiAlias = false)
    (h : t.Repaints clip im next) (solid : im.Opaque) : next.Opaque := by
  induction h with
  | refl => exact solid
  | trans _ _ first second => exact second (first solid)
  | draws inks drawn => exact laws.draws sharp (inks.isOpaque laws) drawn solid
  | recolors color painted => exact solid.recolor fun i old new h => (painted i old new h).2
  | narrowed _ _ ih => exact ih solid

theorem hidden (keeps : t.rasterizer.KeepsSize) (spares : t.rasterizer.SparesHidden)
    (masks : t.rasterizer.MakesMasks) (h : t.Repaints clip im next)
    (spans : clip.Spans im.width im.height) {i : Nat} (inside : i < im.width * im.height)
    (invisible : clip.shows i = false) : next.pixels[i]? = im.pixels[i]? := by
  induction h with
  | refl => rfl
  | trans first _ before after =>
    have wide := first.width keeps
    have high := first.height keeps
    refine (after ?_ ?_ invisible).trans (before spans inside invisible)
    · rw [wide, high]
      exact spans
    · rw [wide, high]
      exact inside
  | draws _ drawn => exact spares.of_invisible spans drawn inside invisible
  | @recolors clip im color painted =>
    refine Image.getElem?_recolor_of_kept fun old => Option.eq_none_iff_forall_ne_some.mpr ?_
    intro new painting
    have shown := (painted _ old new painting).1
    rw [invisible] at shown
    cases shown
  | @narrowed clip area im _ made _ ih =>
    have added := made.spans masks
    refine ih (Clip.combine_spans spans added _) inside ?_
    rw [Clip.shows_combine spans added _ inside, invisible]
    rfl

end Repaints

theorem fill_repaints {ink : Ink} (inks : t.rasterizer.Inks ink) (shape : Shape) (rule : FillRule) :
    t.Repaints clip im (t.fill im shape ink rule clip) := .draws inks (.fill shape rule .unmoved)

theorem stroke_repaints (shape : Shape) (color : ColorRef) (stroke : Stroke) :
    t.Repaints clip im (t.stroke im shape (.solid color) stroke clip) :=
  .draws (.solid color) (.stroke shape stroke)

theorem fillSolid_repaints (shape? : Option Shape) (color : ColorRef) (placement : Placement) :
    t.Repaints clip im (t.fillSolid im shape? color placement clip) := by
  cases shape? with
  | none => exact .refl clip im
  | some shape => exact .draws (.solid color) (.fill shape .winding placement)

theorem setPixel_repaints (x y : Int) (color : ColorRef) :
    t.Repaints clip im (im.setPixel x y color clip) := by
  unfold Image.setPixel
  split
  · refine .recolors _ fun i old new painted => ?_
    obtain ⟨reached, ⟨⟩⟩ := Option.ite_none_right_eq_some.mp painted
    exact ⟨(Bool.and_eq_true_iff.mp reached).2, rfl⟩
  · exact .refl clip im

theorem blit_repaints {b : Blit} {count : Nat} (h : im.blit b clip = .ok (count, next)) :
    t.Repaints clip im next := by
  unfold Image.blit at h
  split at h
  · cases h
  split at h
  · cases h
  cases h
  refine .recolors _ fun i old new painted => ?_
  obtain ⟨reached, mixed⟩ := Option.ite_none_right_eq_some.mp painted
  obtain ⟨s, -, rfl⟩ := Option.map_eq_some_iff.mp mixed
  exact ⟨(Bool.and_eq_true_iff.mp reached).2, rfl⟩

theorem foldl_repaints {α : Type} {step : Image → α → Image}
    (one : ∀ im x, t.Repaints clip im (step im x)) {xs : List α} :
    t.Repaints clip im (xs.foldl step im) := by
  induction xs generalizing im with
  | nil => exact .refl clip im
  | cons x rest ih => exact .trans (one im x) ih

theorem drawGlyphs_repaints (face : Face) (text : DeviceText) (scale : Float32)
    (place : TextPlacement) (distance : Float32) (glyphs : List PlacedGlyph) :
    t.Repaints clip im (t.drawGlyphs face text scale place clip im distance glyphs) := by
  induction glyphs generalizing im distance with
  | nil => exact .refl clip im
  | cons glyph rest ih => exact .trans (fillSolid_repaints _ _ _) (ih _)

theorem fillCells_repaints (background : Option ColorRef) (shape? : Option Shape) :
    t.Repaints clip im
      (background.elim im fun color => t.fillSolid im shape? color .unmoved clip) := by
  cases background with
  | none => exact .refl clip im
  | some color => exact fillSolid_repaints shape? color .unmoved

theorem drawRun_repaints (face : Face) (text : DeviceText) :
    t.Repaints clip im (t.drawRun im face text clip).2 := by
  unfold drawRun
  refine .trans ?_ (foldl_repaints fun _ _ => fillSolid_repaints _ _ _)
  exact .trans (fillCells_repaints text.background _) (drawGlyphs_repaints _ _ _ _ _ _)

theorem drawText_repaints {reader : FontReader} {font : Bytes} {text : DeviceText} {width : Float32}
    (h : t.drawText im reader font text clip = .ok (width, next)) : t.Repaints clip im next := by
  unfold drawText at h
  split at h
  · cases h
  · rename_i face _
    cases h
    exact drawRun_repaints face text

end Plotter

end Metafile
