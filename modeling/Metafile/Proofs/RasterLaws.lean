import Metafile.Proofs.RasterBytes
import Metafile.Raster.Sampling

/-! # Laws of rasterizers

What is relied on of a rasterizer, each thing by itself. The sampling rasterizer obeys all of
it. -/
namespace Metafile

namespace Image

variable {im : Image}

theorem mem_of_pixel? {x y : Int} {p : Rgba} (h : im.pixel? x y = some p) : p ∈ im.pixels := by
  unfold pixel? at h
  split at h
  · exact Array.mem_of_getElem? h
  · cases h

theorem Opaque.recolor (solid : im.Opaque) {color : Nat → Rgba → Option Rgba}
    (painted : ∀ i old new, color i old = some new → new.alpha = 255) :
    (im.recolor color).Opaque := by
  intro p member
  obtain ⟨i, found⟩ := Array.mem_iff_getElem?.mp member
  rw [getElem?_recolor] at found
  obtain ⟨old, before, rfl⟩ := Option.map_eq_some_iff.mp found
  cases new : color i old with
  | none => exact solid old (Array.mem_of_getElem? before)
  | some p => exact painted i old p new

end Image

structure Image.IsBlank (im : Image) (width height : Nat) (color : ColorRef) : Prop where
  width_eq : im.width = width
  height_eq : im.height = height
  short : 4 * width ≤ Image.maxRowBytes
  plain : ∀ p ∈ im.pixels, p = color.toRgba

def Ink.Opaque (ink : Ink) : Prop := ∀ x y, (ink.colorAt x y).alpha = 255

theorem Ink.solid_isOpaque (color : ColorRef) : (Ink.solid color).Opaque := fun _ _ => rfl

theorem Ink.tiled_isOpaque {tile : Tile} (solid : tile.image.Opaque) : (Ink.tiled tile).Opaque := by
  intro x y
  rw [colorAt]
  cases found : tile.image.pixel? (x % tile.image.width) (y % tile.image.height) with
  | none => rfl
  | some p => exact solid p (Image.mem_of_pixel? found)

namespace Rasterizer

variable (r : Rasterizer)

inductive Draws (paint : Paint) (clip : Clip) (im : Image) : Image → Prop where
  | fill (shape : Shape) (rule : FillRule) (placement : Placement) :
      Draws paint clip im (r.fill im shape paint rule placement clip)
  | stroke (shape : Shape) (stroke : Stroke) :
      Draws paint clip im (r.stroke im shape paint stroke clip)

/-- Rasters are of the size and the colour that was asked for, and their rows are short. -/
def MakesRasters : Prop :=
  ∀ {width height : Nat} {color : ColorRef} {im : Image},
    r.raster? width height color = some im → im.IsBlank width height color

structure KeepsSize : Prop where
  width {paint : Paint} {clip : Clip} {im next : Image} :
    r.Draws paint clip im next → next.width = im.width
  height {paint : Paint} {clip : Clip} {im next : Image} :
    r.Draws paint clip im next → next.height = im.height

/-- Drawing changes no pixel where the mask, being of the raster's size, is zero. -/
def SparesHidden : Prop :=
  ∀ {paint : Paint} {mask : Mask} {im next : Image}, mask.Spans im.width im.height →
    r.Draws paint (some mask) im next →
    ∀ i : Nat, mask.values[i]? = some 0 → next.pixels[i]? = im.pixels[i]?

/-- What is opaque stays so when it is drawn on with an opaque paint and sharp edges. -/
structure PaintsOpaquely : Prop where
  tile {tile painted : Tile} : r.tile? tile = some painted → tile.image.Opaque →
    painted.image.Opaque
  draws {paint : Paint} {clip : Clip} {im next : Image} : paint.antiAlias = false →
    paint.ink.Opaque → r.Draws paint clip im next → im.Opaque → next.Opaque

/-- A mask that lets everything through does for none. -/
structure IgnoresFullMask : Prop where
  fill {mask : Mask} {im : Image} {shape : Shape} {paint : Paint} {rule : FillRule}
    {placement : Placement} : mask.Spans im.width im.height → (∀ v ∈ mask.values, v = 255) →
    r.fill im shape paint rule placement (some mask) = r.fill im shape paint rule placement none
  stroke {mask : Mask} {im : Image} {shape : Shape} {paint : Paint} {stroke : Stroke} :
    mask.Spans im.width im.height → (∀ v ∈ mask.values, v = 255) →
    r.stroke im shape paint stroke (some mask) = r.stroke im shape paint stroke none

/-- A mask has the size that was asked for, also when a shape is covered in it. -/
structure MakesMasks : Prop where
  blank {width height : Nat} {mask : Mask} :
    r.mask? width height = some mask → mask.Spans width height
  cover (mask : Mask) (shape : Shape) : (r.cover mask shape).Spans mask.width mask.height

/-- A pixel of a mask is covered as a whole or not at all. -/
structure MasksSharply : Prop where
  blank {width height : Nat} {mask : Mask} :
    r.mask? width height = some mask → ∀ v ∈ mask.values, v = 0
  cover {mask : Mask} (shape : Shape) : mask.Sharp → (r.cover mask shape).Sharp

/-- The bytes of an opaque raster are those of a picture. -/
structure ReadsBack : Prop where
  demultiply {p : Rgba} : p.alpha = 255 → r.demultiply p = p
  picture (im : Image) : r.picture? im.width im.height im.bytes = some im

/-- A mask of some size, with the inside of a shape or with nothing covered. -/
def Area (width height : Nat) (mask : Mask) : Prop :=
  ∃ blank, r.mask? width height = some blank ∧ (mask = blank ∨ ∃ shape, mask = r.cover blank shape)

variable {r} {width height : Nat} {mask : Mask}

theorem SparesHidden.of_invisible (spares : r.SparesHidden) {paint : Paint} {clip : Clip}
    {im next : Image} (spans : clip.Spans im.width im.height)
    (drawn : r.Draws paint clip im next) {i : Nat} (inside : i < im.width * im.height)
    (invisible : clip.shows i = false) : next.pixels[i]? = im.pixels[i]? := by
  cases clip with
  | none => cases invisible
  | some mask =>
    obtain ⟨v, found⟩ := (spans mask rfl).exists_byte inside
    have covered : mask.covers i = false := invisible
    rw [Mask.covers_eq found] at covered
    have zero : v = 0 := by simpa using covered
    exact spares (spans mask rfl) drawn i (zero ▸ found)

theorem Area.spans (laws : r.MakesMasks) (area : r.Area width height mask) :
    mask.Spans width height := by
  obtain ⟨blank, made, rfl | ⟨shape, rfl⟩⟩ := area
  · exact laws.blank made
  · have spans := laws.blank made
    have covered := laws.cover blank shape
    exact ⟨covered.width_eq.trans spans.width_eq, covered.height_eq.trans spans.height_eq⟩

theorem Area.sharp (laws : r.MasksSharply) (area : r.Area width height mask) : mask.Sharp := by
  obtain ⟨blank, made, covered⟩ := area
  have sharp : blank.Sharp := fun v member => Or.inl (laws.blank made v member)
  rcases covered with rfl | ⟨shape, rfl⟩
  · exact sharp
  · exact laws.cover shape sharp

end Rasterizer

namespace Image

theorem byteAt_bytes {im : Image} {i k : Nat} {p : Rgba} (small : k < 4)
    (found : im.pixels[i]? = some p) : im.bytes.byteAt (4 * i + k) = p.byte k := by
  unfold Bytes.byteAt
  rw [getElem?_bytes im i small, found]
  rfl

theorem ofBytes_bytes (im : Image) : ofBytes im.width im.height im.bytes = im := by
  refine ext_pixels rfl rfl fun i => ?_
  by_cases inside : i < im.width * im.height
  · have there := Array.getElem?_eq_getElem (im.filled ▸ inside)
    refine (getElem?_generate inside).trans ?_
    have place : i / im.width * im.width + i % im.width = i := Nat.div_add_mod' i im.width
    have first := byteAt_bytes (k := 0) (by decide) there
    rw [Nat.add_zero] at first
    simp only [place]
    rw [there, first, byteAt_bytes (by decide) there, byteAt_bytes (by decide) there,
      byteAt_bytes (by decide) there]
    rfl
  · have outside : (ofBytes im.width im.height im.bytes).pixels.size ≤ i := by
      rw [(ofBytes im.width im.height im.bytes).filled]
      exact Nat.le_of_not_lt inside
    rw [Array.getElem?_eq_none outside, Array.getElem?_eq_none]
    rw [im.filled]
    exact Nat.le_of_not_lt inside

end Image

namespace Rasterizer

variable {paint : Paint} {clip : Clip} {im next : Image}

theorem fill_sampling (shape : Shape) (rule : FillRule) (placement : Placement) :
    sampling.fill im shape paint rule placement clip =
      ((shape.place? placement).map fun placed =>
        im.paint (placed.fillMask im.width im.height rule) paint.ink clip).getD im := by
  cases placed : shape.place? placement <;> simp [sampling, placed]

theorem Draws.sampling (h : sampling.Draws paint clip im next) :
    next = im ∨ ∃ area, next = im.paint area paint.ink clip := by
  cases h with
  | fill shape rule placement =>
    rw [fill_sampling]
    cases shape.place? placement with
    | none => exact Or.inl rfl
    | some placed => exact Or.inr ⟨_, rfl⟩
  | stroke shape stroke => exact Or.inr ⟨_, rfl⟩

theorem sampling_makesRasters : sampling.MakesRasters := by
  intro width height color im made
  obtain ⟨⟨-, -, short⟩, ⟨⟩⟩ := Option.ite_none_right_eq_some.mp made
  refine ⟨rfl, rfl, by omega, fun p member => ?_⟩
  obtain ⟨x, y, same⟩ := Image.exists_of_mem_generate p member
  exact same

theorem sampling_keepsSize : sampling.KeepsSize where
  width drawn := by rcases drawn.sampling with rfl | ⟨area, rfl⟩ <;> rfl
  height drawn := by rcases drawn.sampling with rfl | ⟨area, rfl⟩ <;> rfl

theorem sampling_sparesHidden : sampling.SparesHidden := by
  intro paint mask im next spans drawn i hidden
  rcases drawn.sampling with rfl | ⟨area, rfl⟩
  · rfl
  have invisible : Clip.shows (some mask) i = false := Mask.covers_eq hidden
  refine Image.getElem?_recolor_of_kept fun old => ?_
  rw [invisible, Bool.and_false]
  rfl

theorem sampling_paintsOpaquely : sampling.PaintsOpaquely where
  tile made solid := by
    obtain ⟨-, ⟨⟩⟩ := Option.ite_none_right_eq_some.mp made
    exact solid
  draws _ ink drawn solid := by
    rcases drawn.sampling with rfl | ⟨area, rfl⟩
    · exact solid
    · refine solid.recolor fun i old new painted => ?_
      obtain ⟨-, ⟨⟩⟩ := Option.ite_none_right_eq_some.mp painted
      exact ink _ _

theorem paint_full {mask : Mask} (spans : mask.Spans im.width im.height)
    (full : ∀ v ∈ mask.values, v = 255) (area : Mask) (ink : Ink) :
    im.paint area ink (some mask) = im.paint area ink none := by
  refine Image.recolor_congr fun i old there => ?_
  have inside : i < im.width * im.height := by
    rw [← im.filled]
    exact (Array.getElem?_eq_some_iff.mp there).1
  obtain ⟨v, found⟩ := spans.exists_byte inside
  have shown : Clip.shows (some mask) i = true := by
    refine (Mask.covers_eq found).trans ?_
    rw [full v (Array.mem_of_getElem? found)]
    rfl
  rw [shown]
  rfl

theorem sampling_ignoresFullMask : sampling.IgnoresFullMask where
  fill {mask im shape paint rule placement} spans full := by
    rw [fill_sampling, fill_sampling]
    cases shape.place? placement with
    | none => rfl
    | some placed => exact paint_full spans full _ _
  stroke spans full := paint_full spans full _ _

theorem sampling_makesMasks : sampling.MakesMasks where
  blank made := by
    obtain ⟨-, ⟨⟩⟩ := Option.ite_none_right_eq_some.mp made
    exact ⟨rfl, rfl⟩
  cover mask shape := ⟨rfl, rfl⟩

theorem sampling_masksSharply : sampling.MasksSharply where
  blank made := by
    obtain ⟨-, ⟨⟩⟩ := Option.ite_none_right_eq_some.mp made
    intro v member
    obtain ⟨i, same⟩ := Array.mem_ofFn.mp member
    exact same.symm
  cover {mask} shape sharp := by
    intro v member
    obtain ⟨i, inside, rfl⟩ := Array.mem_mapIdx.mp member
    split
    · exact Or.inr rfl
    · exact sharp _ (Array.getElem_mem inside)

theorem sampling_readsBack : sampling.ReadsBack where
  demultiply {p} solid := if_pos solid
  picture im := by
    have size : 4 * (im.width * im.height) ≤ im.bytes.size := by
      rw [im.size_bytes, im.filled]
    change (if _ then some _ else none) = _
    rw [if_pos size, Image.ofBytes_bytes]

end Rasterizer

end Metafile
