import Metafile.Raster.Paint

/-! # Changing pixels

Every drawing operation gives new colours to pixels one by one, each from its place and its old
colour alone. So two changes are the same when they agree on the pixels that are there, and several
changes of one pixel each come to one change of all of them. -/
namespace Metafile

namespace Image

variable {im : Image} {index : Nat} {old : Rgba}

theorem ext_pixels {a b : Image} (width : a.width = b.width) (height : a.height = b.height)
    (pixel : ∀ i : Nat, a.pixels[i]? = b.pixels[i]?) : a = b := by
  obtain ⟨aw, ah, ap⟩ := a
  obtain ⟨bw, bh, bp⟩ := b
  cases width
  cases height
  cases Array.ext_getElem? pixel
  rfl

theorem getElem?_recolor (im : Image) (color : Nat → Rgba → Option Rgba) (i : Nat) :
    (im.recolor color).pixels[i]? = im.pixels[i]?.map fun old => (color i old).getD old :=
  Array.getElem?_mapIdx

theorem getElem?_recolor_of_kept {color : Nat → Rgba → Option Rgba} {i : Nat}
    (kept : ∀ old, color i old = none) : (im.recolor color).pixels[i]? = im.pixels[i]? := by
  rw [getElem?_recolor]
  simp only [kept, Option.getD_none, Option.map_id']

/-- The colours given to pixels that are not there do not count. -/
theorem recolor_congr {color color' : Nat → Rgba → Option Rgba}
    (same : ∀ i old, im.pixels[i]? = some old → color i old = color' i old) :
    im.recolor color = im.recolor color' := by
  refine ext_pixels rfl rfl fun i => ?_
  rw [getElem?_recolor, getElem?_recolor]
  cases found : im.pixels[i]? with
  | none => rfl
  | some old => rw [Option.map_some, Option.map_some, same i old found]

theorem getElem?_generate {width height i : Nat} {color : Nat → Nat → Rgba}
    (inside : i < width * height) :
    (generate width height color).pixels[i]? = some (color (i % width) (i / width)) := by
  have there : i < (generate width height color).pixels.size := by
    rw [(generate width height color).filled]
    exact inside
  rw [Array.getElem?_eq_getElem there]
  simp only [generate, Array.getElem_ofFn]

theorem exists_of_mem_generate {width height : Nat} {color : Nat → Nat → Rgba} (p : Rgba)
    (member : p ∈ (generate width height color).pixels) : ∃ x y, p = color x y := by
  obtain ⟨i, rfl⟩ := Array.mem_ofFn.mp member
  exact ⟨_, _, rfl⟩

def Opaque (im : Image) : Prop := ∀ p ∈ im.pixels, p.alpha = 255

theorem generate_isOpaque (width height : Nat) {color : Nat → Nat → Rgba}
    (solid : ∀ x y, (color x y).alpha = 255) : (generate width height color).Opaque := by
  intro p member
  obtain ⟨x, y, rfl⟩ := exists_of_mem_generate p member
  exact solid x y

theorem recolor_none (im : Image) : im.recolor (fun _ _ => none) = im :=
  ext_pixels rfl rfl fun _ => getElem?_recolor_of_kept fun _ => rfl

def put (im : Image) (index : Nat) (p : Rgba) : Image where
  width := im.width
  height := im.height
  pixels := im.pixels.setIfInBounds index p
  filled := by rw [Array.size_setIfInBounds, im.filled]

theorem getElem?_put_self (found : im.pixels[index]? = some old) (p : Rgba) :
    (im.put index p).pixels[index]? = some p := by
  have inside : index < im.pixels.size := (Array.getElem?_eq_some_iff.mp found).1
  exact Array.getElem?_setIfInBounds_self_of_lt inside

theorem getElem?_put_ne (im : Image) (p : Rgba) {i : Nat} (other : index ≠ i) :
    (im.put index p).pixels[i]? = im.pixels[i]? := Array.getElem?_setIfInBounds_ne other

theorem size_put (im : Image) (index : Nat) (p : Rgba) :
    (im.put index p).pixels.size = im.pixels.size := Array.size_setIfInBounds

theorem put_put (im : Image) (index : Nat) (p q : Rgba) :
    (im.put index p).put index q = im.put index q := by
  refine ext_pixels rfl rfl fun i => ?_
  change ((im.pixels.setIfInBounds index p).setIfInBounds index q)[i]? =
    (im.pixels.setIfInBounds index q)[i]?
  rw [Array.setIfInBounds_setIfInBounds]

theorem recolor_single (found : im.pixels[index]? = some old)
    {color : Nat → Rgba → Option Rgba} (elsewhere : ∀ i p, i ≠ index → color i p = none) :
    im.recolor color = im.put index ((color index old).getD old) := by
  refine ext_pixels rfl rfl fun i => ?_
  by_cases here : i = index
  · subst here
    rw [getElem?_recolor, found, getElem?_put_self found, Option.map_some]
  · rw [getElem?_put_ne _ _ (Ne.symm here)]
    exact getElem?_recolor_of_kept fun p => elsewhere i p here

end Image

end Metafile
