import Metafile.Proofs.ClipAlgebra
import Metafile.Proofs.Recolor

/-! # Rasters in memory

In memory a raster is a run of bytes, four for each pixel, and it is drawn on in place. A step that
asks for a byte outside the raster or outside the mask of the clip fails. Setting a pixel never
does when the mask is of the raster's size, and it leaves the bytes of the new raster. -/
namespace Metafile

namespace Rgba

def setByte (p : Rgba) (k : Nat) (v : UInt8) : Rgba :=
  match k with
  | 0 => { p with red := v }
  | 1 => { p with green := v }
  | 2 => { p with blue := v }
  | _ => { p with alpha := v }

theorem byte_setByte (p : Rgba) (v : UInt8) {k c : Nat} (small : k < 4) (other : c < 4) :
    (p.setByte c v).byte k = if k = c then v else p.byte k := by
  have places : (k = 0 ∨ k = 1 ∨ k = 2 ∨ k = 3) ∧ (c = 0 ∨ c = 1 ∨ c = 2 ∨ c = 3) := by omega
  obtain ⟨rfl | rfl | rfl | rfl, rfl | rfl | rfl | rfl⟩ := places <;> rfl

end Rgba

namespace Bytes

def put? (b : Bytes) (i : Nat) (v : UInt8) : Option Bytes :=
  if i < b.size then some (b.setIfInBounds i v) else none

def putPixel? (b : Bytes) (index : Nat) (p : Rgba) : Option Bytes :=
  [0, 1, 2, 3].foldlM (fun b k => b.put? (4 * index + k) (p.byte k)) b

end Bytes

/-- Whether a clip shows a pixel, by the byte of its mask; none when the mask has no such byte. -/
def Clip.look? (clip : Clip) (index : Nat) : Option Bool :=
  match clip with
  | none => some true
  | some mask => mask.values[index]?.map (· != 0)

theorem Clip.look?_eq {clip : Clip} {width height index : Nat} (spans : clip.Spans width height)
    (inside : index < width * height) : clip.look? index = some (clip.shows index) := by
  cases clip with
  | none => rfl
  | some mask =>
    rw [← (spans mask rfl).filled] at inside
    change mask.values[index]?.map _ = some (mask.values[index]?.getD 0 != 0)
    rw [Array.getElem?_eq_getElem inside]
    rfl

namespace Image

variable {im : Image} {index : Nat} {old : Rgba}

theorem size_bytes (im : Image) : im.bytes.size = 4 * im.pixels.size := Array.size_ofFn

theorem getElem?_bytes (im : Image) (index : Nat) {k : Nat} (small : k < 4) :
    im.bytes[4 * index + k]? = im.pixels[index]?.map (·.byte k) := by
  by_cases inside : index < im.pixels.size
  · have place : 4 * index + k < im.bytes.size := by rw [size_bytes]; omega
    have pixel : (4 * index + k) / 4 = index := by omega
    have channel : (4 * index + k) % 4 = k := by omega
    rw [Array.getElem?_eq_getElem place]
    simp only [bytes, Array.getElem_ofFn, pixel, channel]
    rw [Array.getElem?_eq_getElem inside]
    rfl
  · have outside : im.bytes.size ≤ 4 * index + k := by rw [size_bytes]; omega
    rw [Array.getElem?_eq_none outside, Array.getElem?_eq_none (by omega)]
    rfl

theorem put?_bytes (found : im.pixels[index]? = some old) {c : Nat} (small : c < 4) (v : UInt8) :
    im.bytes.put? (4 * index + c) v = some (im.put index (old.setByte c v)).bytes := by
  have inside : index < im.pixels.size := (Array.getElem?_eq_some_iff.mp found).1
  have place : 4 * index + c < im.bytes.size := by rw [size_bytes]; omega
  rw [Bytes.put?, if_pos place]
  congr 1
  apply Array.ext_getElem?
  intro i
  have channel : i % 4 < 4 := Nat.mod_lt i (by decide)
  rw [← Nat.div_add_mod i 4, getElem?_bytes _ _ channel, Array.getElem?_setIfInBounds]
  by_cases here : index = i / 4
  · rw [← here, getElem?_put_self found, Option.map_some, Rgba.byte_setByte _ _ channel small]
    by_cases same : i % 4 = c
    · rw [if_pos (by omega), if_pos place, if_pos same]
    · rw [if_neg (by omega), if_neg same, getElem?_bytes _ _ channel, found, Option.map_some]
  · rw [if_neg (by omega), getElem?_put_ne _ _ here, getElem?_bytes _ _ channel]

theorem putPixel?_bytes (found : im.pixels[index]? = some old) (p : Rgba) :
    im.bytes.putPixel? index p = some (im.put index p).bytes := by
  simp only [Bytes.putPixel?, List.foldlM_cons, List.foldlM_nil, Option.bind_eq_bind,
    Option.pure_def]
  rw [put?_bytes found (by decide), Option.bind_some,
    put?_bytes (getElem?_put_self found _) (by decide), put_put, Option.bind_some,
    put?_bytes (getElem?_put_self found _) (by decide), put_put, Option.bind_some,
    put?_bytes (getElem?_put_self found _) (by decide), put_put, Option.bind_some]
  rfl

/-- Sets one pixel in memory; nothing outside the raster or where the clip does not show it. -/
def setPixelInPlace? (width height : Nat) (x y : Int) (color : ColorRef) (clip : Clip)
    (data : Bytes) : Option Bytes :=
  if x < 0 ∨ y < 0 ∨ width ≤ x ∨ height ≤ y then some data
  else do
    let index := y.toNat * width + x.toNat
    if ← clip.look? index then data.putPixel? index color.toRgba else return data

theorem setPixel_outside {x y : Int} (outside : x < 0 ∨ y < 0 ∨ im.width ≤ x ∨ im.height ≤ y)
    (color : ColorRef) (clip : Clip) : im.setPixel x y color clip = im := if_neg (by omega)

theorem setPixel_inside {x y : Int} {clip : Clip}
    (inside : ¬ (x < 0 ∨ y < 0 ∨ im.width ≤ x ∨ im.height ≤ y))
    (found : im.pixels[y.toNat * im.width + x.toNat]? = some old) (color : ColorRef) :
    im.setPixel x y color clip =
      if clip.shows (y.toNat * im.width + x.toNat) then
        im.put (y.toNat * im.width + x.toNat) color.toRgba
      else im := by
  unfold setPixel
  rw [if_pos (by omega)]
  dsimp only
  cases shown : clip.shows (y.toNat * im.width + x.toNat) with
  | true =>
    rw [recolor_single found]
    · simp [shown]
    · intro i p other
      simp [other]
  | false =>
    refine Eq.trans (recolor_congr fun i p _ => ?_) im.recolor_none
    by_cases here : i = y.toNat * im.width + x.toNat
    · simp [here, shown]
    · simp [here]

theorem pixel?_eq {x y : Nat} (column : x < im.width) (row : y < im.height) :
    im.pixel? x y = im.pixels[y * im.width + x]? := by
  unfold pixel?
  rw [if_pos (by omega)]
  rfl

theorem index_lt {width height x y : Nat} (column : x < width) (row : y < height) :
    y * width + x < width * height := by
  have last : (y + 1) * width ≤ height * width := Nat.mul_le_mul_right width row
  rw [Nat.succ_mul] at last
  rw [Nat.mul_comm width]
  omega

/-- Setting a pixel in memory never leaves the raster or the mask. -/
theorem setPixelInPlace?_eq {clip : Clip} (spans : clip.Spans im.width im.height) (x y : Int) (color : ColorRef) :
    setPixelInPlace? im.width im.height x y color clip im.bytes =
      some (im.setPixel x y color clip).bytes := by
  unfold setPixelInPlace?
  by_cases outside : x < 0 ∨ y < 0 ∨ im.width ≤ x ∨ im.height ≤ y
  · rw [if_pos outside, setPixel_outside outside]
  · have inside : y.toNat * im.width + x.toNat < im.width * im.height :=
      index_lt (by omega) (by omega)
    have there := Array.getElem?_eq_getElem (im.filled ▸ inside)
    rw [if_neg outside, setPixel_inside outside there]
    dsimp only
    rw [Clip.look?_eq spans inside, Option.bind_eq_bind, Option.bind_some]
    cases clip.shows (y.toNat * im.width + x.toNat) with
    | true => exact putPixel?_bytes there color.toRgba
    | false => rfl

end Image

end Metafile
