import Metafile.Proofs.Rendering
import Metafile.Proofs.TransferLoop

/-! # The raster and its masks

All along playback the raster keeps its size, and every clip, the saved ones included, is a mask of
that size with no other bytes than 0 and 255, or none at all. So a pixel that is set or transferred
always has its bytes in the raster and in the mask. -/
namespace Metafile

namespace Context

structure Sharp (c : Context) : Prop where
  clip : c.state.clip.Sharp
  saved : ∀ state ∈ c.saved.states, state.clip.Sharp

variable {c : Context}

theorem start_sharp (raster : Image) (plotter : Plotter) (bounds : Rect) (fonts : FontLibrary) :
    (start raster plotter bounds fonts).Sharp := by
  refine ⟨Clip.none_sharp, ?_⟩
  intro state member
  cases member

namespace Sharp

theorem reclips {clip : Clip} (masks : c.rasterizer.MasksSharply) (sharp : c.Sharp)
    (h : c.Reclips clip) : clip.Sharp := by
  rcases h with rfl | rfl | ⟨area, op, made, rfl⟩
  · exact sharp.clip
  · exact Clip.none_sharp
  · exact Clip.combine_sharp sharp.clip (made.sharp masks) op

theorem drawn {next : Context} (sharp : c.Sharp) (h : c.Drawn next) : next.Sharp := by
  constructor
  · rw [h.clip]
    exact sharp.clip
  · rw [h.saved]
    exact sharp.saved

theorem settled {outcome : Outcome} (masks : c.rasterizer.MasksSharply) (sharp : c.Sharp)
    (h : c.Settles outcome) : outcome.1.Sharp := by
  cases h with
  | refused e => exact sharp
  | changed objects state clip => exact ⟨sharp.reclips masks clip, sharp.saved⟩
  | saved =>
    refine ⟨sharp.clip, ?_⟩
    intro state member
    rcases List.mem_cons.mp member with rfl | older
    · exact sharp.clip
    · exact sharp.saved state older
  | restored popped =>
    have below := SaveStack.popTo?_suffix popped
    refine ⟨sharp.saved _ (below.subset List.mem_cons_self), ?_⟩
    intro state member
    exact sharp.saved state (below.subset (List.mem_cons_of_mem _ member))

theorem apply (masks : c.rasterizer.MasksSharply) (sharp : c.Sharp) (record : Record) :
    (c.apply record).1.Sharp := by
  cases draws : record.draws with
  | true => exact sharp.drawn (c.apply_drawn draws)
  | false => exact sharp.settled masks (c.apply_settles draws)

theorem play (masks : c.rasterizer.MasksSharply) (sharp : c.Sharp) (records : List Record) :
    (c.play records).Sharp := by
  refine play_induction records sharp fun d record same sharp => ?_
  have rasterizer : d.rasterizer = c.rasterizer := congrArg Plotter.rasterizer same
  exact sharp.apply (rasterizer ▸ masks) record

end Sharp

structure LaidOut (c : Context) (width height : Nat) : Prop where
  width_eq : c.raster.width = width
  height_eq : c.raster.height = height
  bytes : c.raster.bytes.size = 4 * width * height
  clip : c.state.clip.Spans width height ∧ c.state.clip.Sharp
  saved : ∀ state ∈ c.saved.states, state.clip.Spans width height ∧ state.clip.Sharp

theorem Fitted.laidOut (fitted : c.Fitted) (sharp : c.Sharp) :
    c.LaidOut c.raster.width c.raster.height := by
  refine ⟨rfl, rfl, ?_, ⟨fitted.clip, sharp.clip⟩, fun state member =>
    ⟨fitted.saved state member, sharp.saved state member⟩⟩
  rw [Image.size_bytes, c.raster.filled, Nat.mul_assoc]

/-- Indices into a raster that can be made are machine words. -/
theorem bytes_small {header : Header} {width height : Nat}
    (sized : header.rasterSize = .ok (width, height)) (short : 4 * width ≤ Image.maxRowBytes) :
    4 * width * height < UInt64.size := by
  obtain ⟨-, -, -, low, -, rfl⟩ := Header.rasterSize_eq_ok_iff.mp sized
  have limit : Image.maxRowBytes < UInt32.size := by decide
  calc 4 * width * header.height.toNat
      < UInt32.size * UInt32.size := Nat.mul_lt_mul'' (by omega) (by omega)
    _ = UInt64.size := by decide

/-- At any time of playback the raster and all masks have the size that the header asks for, so no
pixel that is set and no transfer asks for a byte that they do not have. -/
theorem play_inBounds {header : Header} {options : RenderOptions} {fonts : FontLibrary}
    {rasterizer : Rasterizer} (rasters : rasterizer.MakesRasters) (keeps : rasterizer.KeepsSize)
    (masks : rasterizer.MakesMasks) (sharply : rasterizer.MasksSharply)
    (made : Context.new header options fonts rasterizer = .ok c) (records : List Record) :
    ∃ width height, header.rasterSize = .ok (width, height) ∧ 4 * width * height < UInt64.size ∧
      (c.play records).LaidOut width height ∧
      (∀ x y color, Image.setPixelInPlace? width height x y color (c.play records).state.clip
          (c.play records).raster.bytes =
        some ((c.play records).raster.setPixel x y color (c.play records).state.clip).bytes) ∧
      ∀ b : Blit, b.inPlace? (c.play records).state.clip width height
          (c.play records).raster.bytes =
        some ((c.play records).raster.blitBytes b (c.play records).state.clip) := by
  obtain rfl := new_rasterizer made
  obtain ⟨width, height, raster, sized, allowed, initial⟩ := new_ok made
  have blank := rasters allowed.made
  have fitted := (new_fitted made).play keeps masks records
  have sharp : (c.play records).Sharp := by
    refine Sharp.play sharply ?_ records
    rw [initial]
    exact start_sharp _ _ _ _
  have laidOut := fitted.laidOut sharp
  have same : c.raster = raster := by rw [initial]; rfl
  obtain ⟨wide, high⟩ := play_size keeps records
  rw [same, blank.width_eq] at wide
  rw [same, blank.height_eq] at high
  rw [wide, high] at laidOut
  refine ⟨width, height, sized, bytes_small sized blank.short, laidOut, fun x y color => ?_,
    fun b => ?_⟩
  · have set := Image.setPixelInPlace?_eq fitted.clip x y color
    rwa [wide, high] at set
  · have transferred := b.inPlace?_eq fitted.clip
    rwa [wide, high] at transferred

/-- Two regions without rectangles leave nothing visible, then everything; the failing selection
changes neither, and the context that was saved in between keeps its mask. -/
theorem play_emptyRegions :
    Context.new Container.penFile.header .default .bare .sampling = .ok square ∧
    (square.play [.extSelectClipRgn 5 (some ⟨⟨0, 0, 0, 0⟩, []⟩), .saveDc, .selectObject 7,
      .extSelectClipRgn 3 (some ⟨⟨0, 0, 0, 0⟩, []⟩)]).LaidOut 2 2 := by
  have made : Context.new Container.penFile.header .default .bare .sampling = .ok square := rfl
  obtain ⟨width, height, size, -, laidOut, -⟩ := play_inBounds
    Rasterizer.sampling_makesRasters Rasterizer.sampling_keepsSize Rasterizer.sampling_makesMasks
    Rasterizer.sampling_masksSharply made
    [.extSelectClipRgn 5 (some ⟨⟨0, 0, 0, 0⟩, []⟩), .saveDc, .selectObject 7,
      .extSelectClipRgn 3 (some ⟨⟨0, 0, 0, 0⟩, []⟩)]
  have sides : Container.penFile.header.rasterSize = .ok (2, 2) := rfl
  cases sides.symm.trans size
  exact ⟨made, laidOut⟩

end Context

end Metafile
