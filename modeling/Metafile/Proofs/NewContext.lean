import Metafile.Font.TrueType
import Metafile.Playback.Context
import Metafile.Proofs.Success
import Metafile.Raster.Sampling

/-! # New contexts

A context can be made for a header just when both sides of the picture are positive 32-bit numbers,
no longer than the options allow, and the rasterizer has a raster of that size. -/
namespace Metafile

/-- The options let a raster of some size be made, and the rasterizer makes it. -/
structure RenderOptions.Allows (options : RenderOptions) (rasterizer : Rasterizer)
    (width height : Nat) (raster : Image) : Prop where
  wide : width ≤ options.maxDimension
  high : height ≤ options.maxDimension
  made : rasterizer.raster? width height options.backgroundColor = some raster

def FontLibrary.bare : FontLibrary := .new none id TrueType.reader

namespace Context

def start (raster : Image) (plotter : Plotter) (bounds : Rect) (fonts : FontLibrary) : Context where
  raster := raster
  plotter := plotter
  bounds := bounds
  objects := .empty
  state := .initial
  saved := .empty
  fonts := fonts

/-- A white raster of two by two pixels, and no fonts. -/
def square : Context :=
  start (.generate 2 2 fun _ _ => ColorRef.white.toRgba) ⟨.sampling, true⟩ ⟨0, 0, 1, 1⟩ .bare

variable {header : Header} {options : RenderOptions} {fonts : FontLibrary} {rasterizer : Rasterizer}

theorem new_eq_ok_iff {c : Context} :
    Context.new header options fonts rasterizer = .ok c ↔
      ∃ width height raster, header.rasterSize = .ok (width, height) ∧
        options.Allows rasterizer width height raster ∧
        c = start raster ⟨rasterizer, options.antiAlias⟩ header.bounds fonts := by
  constructor
  · intro made
    obtain ⟨⟨width, height⟩, sized, made⟩ := of_bind_ok made
    dsimp only at made
    split at made
    · cases made
    rename_i short
    dsimp only [bind, Except.bind, pure, Except.pure] at made
    split at made
    · cases made
    · rename_i raster there
      cases made
      exact ⟨width, height, raster, sized, ⟨by omega, by omega, there⟩, rfl⟩
  · rintro ⟨width, height, raster, sized, allowed, rfl⟩
    have short : ¬ (options.maxDimension < width ∨ options.maxDimension < height) :=
      not_or.mpr ⟨Nat.not_lt.mpr allowed.wide, Nat.not_lt.mpr allowed.high⟩
    unfold Context.new
    rw [sized]
    dsimp only [bind, Except.bind]
    rw [if_neg short, allowed.made]
    rfl

theorem new_ok {c : Context} (made : Context.new header options fonts rasterizer = .ok c) :
    ∃ width height raster, header.rasterSize = .ok (width, height) ∧
      options.Allows rasterizer width height raster ∧
      c = start raster ⟨rasterizer, options.antiAlias⟩ header.bounds fonts :=
  new_eq_ok_iff.mp made

end Context

end Metafile
