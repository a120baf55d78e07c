import Metafile.Proofs.Container
import Metafile.Proofs.Drawing
import Metafile.Proofs.NewContext

/-! # Nothing is drawn through the clip

Every clip of a context, the saved ones included, is a mask of the size of the raster. So a pixel of
the raster has a place in the mask, and where the mask is zero no record changes the pixel, if the
rasterizer does not either. -/
namespace Metafile

/-- The place is one of the mask, and its byte is zero. -/
def Mask.Hides (mask : Mask) (x y : Nat) : Prop :=
  x < mask.width ∧ y < mask.height ∧ mask.values[y * mask.width + x]? = some 0

namespace Context

structure Fitted (c : Context) : Prop where
  clip : c.state.clip.Spans c.raster.width c.raster.height
  saved : ∀ state ∈ c.saved.states, state.clip.Spans c.raster.width c.raster.height

theorem start_fitted (raster : Image) (plotter : Plotter) (bounds : Rect) (fonts : FontLibrary) :
    (start raster plotter bounds fonts).Fitted := by
  refine ⟨Clip.none_spans _ _, ?_⟩
  intro state member
  cases member

variable {c : Context}

namespace Fitted

theorem reclips {clip : Clip} (masks : c.rasterizer.MakesMasks) (fitted : c.Fitted)
    (h : c.Reclips clip) : clip.Spans c.raster.width c.raster.height := by
  rcases h with rfl | rfl | ⟨area, op, made, rfl⟩
  · exact fitted.clip
  · exact Clip.none_spans _ _
  · exact Clip.combine_spans fitted.clip (made.spans masks) op

theorem drawn {next : Context} (keeps : c.rasterizer.KeepsSize) (fitted : c.Fitted)
    (h : c.Drawn next) : next.Fitted := by
  have width := h.raster.width keeps
  have height := h.raster.height keeps
  constructor
  · rw [h.clip, width, height]
    exact fitted.clip
  · rw [h.saved, width, height]
    exact fitted.saved

theorem settled {outcome : Outcome} (masks : c.rasterizer.MakesMasks) (fitted : c.Fitted)
    (h : c.Settles outcome) : outcome.1.Fitted := by
  cases h with
  | refused e => exact fitted
  | changed objects state clip =>
    have spans := fitted.reclips masks clip
    exact ⟨spans, fitted.saved⟩
  | saved =>
    refine ⟨fitted.clip, ?_⟩
    intro state member
    rcases List.mem_cons.mp member with rfl | older
    · exact fitted.clip
    · exact fitted.saved state older
  | restored popped =>
    have below := SaveStack.popTo?_suffix popped
    refine ⟨fitted.saved _ (below.subset List.mem_cons_self), ?_⟩
    intro state member
    exact fitted.saved state (below.subset (List.mem_cons_of_mem _ member))

theorem apply (keeps : c.rasterizer.KeepsSize) (masks : c.rasterizer.MakesMasks)
    (fitted : c.Fitted) (record : Record) : (c.apply record).1.Fitted := by
  cases draws : record.draws with
  | true => exact fitted.drawn keeps (c.apply_drawn draws)
  | false => exact fitted.settled masks (c.apply_settles draws)

theorem play (keeps : c.rasterizer.KeepsSize) (masks : c.rasterizer.MakesMasks)
    (fitted : c.Fitted) (records : List Record) : (c.play records).Fitted := by
  refine play_induction records fitted fun d record same fitted => ?_
  have rasterizer : d.rasterizer = c.rasterizer := congrArg Plotter.rasterizer same
  exact fitted.apply (rasterizer ▸ keeps) (rasterizer ▸ masks) record

theorem hides {mask : Mask} (keeps : c.rasterizer.KeepsSize) (masks : c.rasterizer.MakesMasks)
    (spares : c.rasterizer.SparesHidden) (fitted : c.Fitted) (clipped : c.state.clip = some mask)
    {x y : Nat} (hidden : mask.Hides x y) (record : Record) :
    ∃ p, c.raster.pixel? x y = some p ∧ (c.apply record).1.raster.pixel? x y = some p := by
  obtain ⟨column, row, zero⟩ := hidden
  have spans := fitted.clip mask clipped
  rw [spans.width_eq] at column zero
  rw [spans.height_eq] at row
  have invisible : c.state.clip.shows (y * c.raster.width + x) = false := by
    rw [clipped]
    exact Mask.covers_eq zero
  have inside := Image.index_lt column row
  have there := Array.getElem?_eq_getElem (c.raster.filled ▸ inside)
  have painted := c.apply_repaints record
  have width := painted.width keeps
  have height := painted.height keeps
  have kept := painted.hidden keeps spares masks fitted.clip inside invisible
  refine ⟨_, (Image.pixel?_eq column row).trans there, ?_⟩
  rw [Image.pixel?_eq (width.symm ▸ column) (height.symm ▸ row), width, kept]
  exact there

end Fitted

variable {header : Header} {options : RenderOptions} {fonts : FontLibrary} {rasterizer : Rasterizer}

theorem new_fitted (made : Context.new header options fonts rasterizer = .ok c) : c.Fitted := by
  obtain ⟨width, height, raster, -, -, rfl⟩ := new_ok made
  exact start_fitted _ _ _ _

theorem new_rasterizer (made : Context.new header options fonts rasterizer = .ok c) :
    c.rasterizer = rasterizer := by
  obtain ⟨width, height, raster, -, -, rfl⟩ := new_ok made
  rfl

/-- At any time of playback, the next record leaves the pixels alone that the mask hides. -/
theorem apply_hides {records : List Record} {mask : Mask} (keeps : rasterizer.KeepsSize)
    (masks : rasterizer.MakesMasks) (spares : rasterizer.SparesHidden)
    (made : Context.new header options fonts rasterizer = .ok c)
    (clipped : (c.play records).state.clip = some mask) (record : Record) :
    mask.Spans (c.play records).raster.width (c.play records).raster.height ∧
    ∀ x y, mask.Hides x y → ∃ p, (c.play records).raster.pixel? x y = some p ∧
      ((c.play records).apply record).1.raster.pixel? x y = some p := by
  obtain rfl := new_rasterizer made
  have fitted := (new_fitted made).play keeps masks records
  have same : (c.play records).rasterizer = c.rasterizer :=
    congrArg Plotter.rasterizer (c.play_plotter records)
  constructor
  · exact fitted.clip mask clipped
  · intro x y hidden
    rw [← same] at keeps masks spares
    exact fitted.hides keeps masks spares clipped hidden record

/-- An empty region as the clip hides the whole raster. -/
theorem setPixelV_of_emptyRegion :
    Context.new Container.penFile.header .default .bare .sampling = .ok square ∧
    (square.play [.extSelectClipRgn 5 (some ⟨⟨0, 0, 0, 0⟩, []⟩)]).state.clip =
      some (Mask.blank 2 2) ∧
    (Mask.blank 2 2).Hides 1 1 ∧
    ((square.play [.extSelectClipRgn 5 (some ⟨⟨0, 0, 0, 0⟩, []⟩)]).apply
      (.setPixelV ⟨1, 1⟩ .black)).1.raster.pixel? 1 1 = some ColorRef.white.toRgba := by
  have made : Context.new Container.penFile.header .default .bare .sampling = .ok square := rfl
  have clipped : (square.play [.extSelectClipRgn 5 (some ⟨⟨0, 0, 0, 0⟩, []⟩)]).state.clip =
      some (Mask.blank 2 2) := rfl
  have hidden : (Mask.blank 2 2).Hides 1 1 := by
    unfold Mask.Hides
    decide
  obtain ⟨p, before, after⟩ := (apply_hides Rasterizer.sampling_keepsSize
    Rasterizer.sampling_makesMasks Rasterizer.sampling_sparesHidden made clipped
    (.setPixelV ⟨1, 1⟩ .black)).2 1 1 hidden
  have white : some p = some ColorRef.white.toRgba := before.symm.trans rfl
  exact ⟨made, clipped, hidden, after.trans white⟩

end Context

end Metafile
