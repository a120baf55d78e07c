import Metafile.Proofs.Success
import Mathlib.Algebra.Order.Floor.Div
import Metafile.Bitmap.Image
import Metafile.Proofs.RecordReader
import Metafile.Proofs.TransferLoop
import Metafile.Proofs.Window

/-! # Conversion of pixels

Every byte of the converted pixels is a colour byte of the data or an opaque alpha, and its place
says which. So the filling of the rows, the fourth bytes of pixels, and what lies behind the rows do
not count. -/
namespace Metafile

theorem length_flatMap_of_length {α β : Type} {xs : List α} {f : α → List β} {n : Nat}
    (uniform : ∀ x, (f x).length = n) : (xs.flatMap f).length = xs.length * n := by
  simp [List.length_flatMap, uniform]

theorem getElem?_flatMap_of_length {α β : Type} {xs : List α} {f : α → List β} {n i k : Nat}
    (uniform : ∀ x, (f x).length = n) (small : k < n) :
    (xs.flatMap f)[i * n + k]? = xs[i]?.bind fun x => (f x)[k]? := by
  induction xs generalizing i with
  | nil => rfl
  | cons x rest ih =>
    rw [List.flatMap_cons]
    cases i with
    | zero =>
      rw [Nat.zero_mul, Nat.zero_add, List.getElem?_append_left (by rw [uniform]; exact small)]
      rfl
    | succ i =>
      have behind : (f x).length ≤ (i + 1) * n + k := by rw [uniform, Nat.succ_mul]; omega
      have place : (i + 1) * n + k - (f x).length = i * n + k := by
        rw [uniform, Nat.succ_mul]; omega
      rw [List.getElem?_append_right behind, place, ih]
      rfl

theorem Bytes.ext_channels {a b : Bytes} {width height n : Nat} (size : a.size = width * height * n)
    (size' : b.size = width * height * n)
    (same : ∀ x y k, x < width → y < height → k < n →
      a[(y * width + x) * n + k]? = b[(y * width + x) * n + k]?) : a = b := by
  refine Array.ext_getElem? fun i => ?_
  by_cases inside : i < width * height * n
  · have pixel : i / n < width * height := Nat.div_lt_of_lt_mul (by rwa [Nat.mul_comm] at inside)
    have channel : i % n < n := Nat.mod_lt i (Nat.pos_of_lt_mul_left inside)
    have column : i / n % width < width := Nat.mod_lt _ (Nat.pos_of_lt_mul_right pixel)
    have row : i / n / width < height := Nat.div_lt_of_lt_mul pixel
    have found := same _ _ _ column row channel
    rwa [Nat.div_add_mod', Nat.div_add_mod'] at found
  · rw [Array.getElem?_eq_none (by omega), Array.getElem?_eq_none (by omega)]

namespace Dib

variable {data : Bytes} {width height sourceBits targetBits bits bytes : Nat}

theorem pixelBytes?_eq (bits : Nat) :
    pixelBytes? bits = if bits = 24 ∨ bits = 32 then some (bits / 8) else none := by
  unfold pixelBytes?
  split
  · rfl
  · rfl
  · rename_i no24 no32
    exact (if_neg fun known => known.elim no24 no32).symm

theorem rowStride_eq (width bits : Nat) : rowStride width bits = 4 * (width * bits ⌈/⌉ 32) := by
  rw [rowStride, Nat.ceilDiv_eq_add_pred_div, Nat.mul_comm]
  rfl

theorem pixels_le (source : bits = 24 ∨ bits = 32) (width : Nat) :
    width * (bits / 8) ≤ rowStride width bits := by
  have bitCount : width * bits = 8 * (width * (bits / 8)) := by
    rw [Nat.mul_left_comm]
    exact congrArg (width * ·) (by omega)
  rw [rowStride, bitCount]
  omega

theorem checkData_eq_ok_iff (addressable : data.Addressable) :
    checkData data width height bits = .ok () ↔ rowStride width bits * height ≤ data.size := by
  unfold Bytes.Addressable at addressable
  unfold checkData dataSize?
  dsimp only
  by_cases small : rowStride width bits * height < UInt64.size
  · rw [if_pos small]
    dsimp only
    split
    · exact iff_of_false (fun h => by cases h) (by omega)
    · exact iff_of_true rfl (by omega)
  · rw [if_neg small]
    have long : data.size < UInt64.size := Nat.lt_trans addressable (by decide)
    exact iff_of_false (fun h => by cases h) (by omega)

def packed (data : Bytes) (width height sourceBits targetBits : Nat) : Bytes :=
  (((List.range (width * height)).map fun i =>
    storedColor data width sourceBits (sourceBits / 8) (i % width) (i / width)).flatMap
      (channels · (targetBits / 8))).toArray

theorem convert_eq (data : Bytes) (width height sourceBits targetBits : Nat) :
    convert data width height sourceBits targetBits =
      if ¬ (sourceBits = 24 ∨ sourceBits = 32) then
        .error (.unsupportedPixelFormat (.sourceDepth sourceBits))
      else if ¬ (targetBits = 24 ∨ targetBits = 32) then
        .error (.unsupportedPixelFormat (.targetDepth targetBits))
      else (checkData data width height sourceBits).map fun _ =>
        packed data width height sourceBits targetBits := by
  unfold convert
  rw [pixelBytes?_eq, pixelBytes?_eq]
  by_cases source : sourceBits = 24 ∨ sourceBits = 32
  · rw [if_pos source, if_neg (not_not_intro source)]
    by_cases target : targetBits = 24 ∨ targetBits = 32
    · rw [if_pos target, if_neg (not_not_intro target)]
      cases checkData data width height sourceBits <;> rfl
    · rw [if_neg target, if_pos target]
      rfl
  · rw [if_neg source, if_pos source]
    rfl

structure Convertible (data : Bytes) (width height sourceBits targetBits : Nat) : Prop where
  source : sourceBits = 24 ∨ sourceBits = 32
  target : targetBits = 24 ∨ targetBits = 32
  enough : 4 * (width * sourceBits ⌈/⌉ 32) * height ≤ data.size

theorem convert_eq_ok_iff (addressable : data.Addressable) {out : Bytes} :
    convert data width height sourceBits targetBits = .ok out ↔
      Convertible data width height sourceBits targetBits ∧
        out = packed data width height sourceBits targetBits := by
  have enough : checkData data width height sourceBits = .ok () ↔
      4 * (width * sourceBits ⌈/⌉ 32) * height ≤ data.size := by
    rw [← rowStride_eq]
    exact checkData_eq_ok_iff addressable
  rw [convert_eq]
  constructor
  · intro converted
    split at converted
    · cases converted
    split at converted
    · cases converted
    rename_i source target
    obtain ⟨⟨⟩, checked, rfl⟩ := of_map_ok converted
    exact ⟨⟨not_not.mp source, not_not.mp target, enough.mp checked⟩, rfl⟩
  · rintro ⟨⟨source, target, room⟩, rfl⟩
    rw [if_neg (not_not_intro source), if_neg (not_not_intro target), enough.mpr room]
    rfl

theorem length_channels (color : Rgba) {count : Nat} (few : count ≤ 4) :
    (channels color count).length = count := List.length_take_of_le few

theorem targetBytes_le (target : targetBits = 24 ∨ targetBits = 32) : targetBits / 8 ≤ 4 := by
  omega

theorem size_packed (target : targetBits = 24 ∨ targetBits = 32) :
    (packed data width height sourceBits targetBits).size = width * height * (targetBits / 8) := by
  have uniform : ∀ color, (channels color (targetBits / 8)).length = targetBits / 8 :=
    fun color => length_channels color (targetBytes_le target)
  rw [packed, List.size_toArray, length_flatMap_of_length uniform, List.length_map,
    List.length_range]

theorem getElem?_channels (color : Rgba) {count k : Nat} (few : count ≤ 4) (small : k < count) :
    (channels color count)[k]? = some (color.byte k) := by
  have places : k = 0 ∨ k = 1 ∨ k = 2 ∨ k = 3 := by omega
  rw [channels, List.getElem?_take_of_lt small]
  rcases places with rfl | rfl | rfl | rfl <;> rfl

theorem getElem?_packed (target : targetBits = 24 ∨ targetBits = 32) {x y c : Nat}
    (column : x < width) (row : y < height) (channel : c < targetBits / 8) :
    (packed data width height sourceBits targetBits)[(y * width + x) * (targetBits / 8) + c]? =
      some ((storedColor data width sourceBits (sourceBits / 8) x y).byte c) := by
  have few := targetBytes_le target
  have uniform : ∀ color, (channels color (targetBits / 8)).length = targetBits / 8 :=
    fun color => length_channels color few
  have inside : y * width + x < width * height := Image.index_lt column row
  rw [packed, List.getElem?_toArray, getElem?_flatMap_of_length uniform channel, List.getElem?_map,
    List.getElem?_range inside, Option.map_some, Option.bind_some, Blit.index_mod column,
    Blit.index_div column, getElem?_channels _ few channel]

/-- Where the data holds a channel of a pixel, blue first. -/
def channelPlace (width bits x y c : Nat) : Nat :=
  y * (4 * (width * bits ⌈/⌉ 32)) + x * (bits / 8) + (2 - c)

/-- Red, green and blue of each pixel come from the data, and alpha is opaque. -/
structure Converted (data : Bytes) (width height sourceBits targetBits : Nat) (out : Bytes) :
    Prop where
  size : out.size = width * height * (targetBits / 8)
  color : ∀ x y c, x < width → y < height → c < 3 → ∃ v,
    data[channelPlace width sourceBits x y c]? = some v ∧
      out[(y * width + x) * (targetBits / 8) + c]? = some v
  alpha : ∀ x y, x < width → y < height → targetBits = 32 →
    out[(y * width + x) * (targetBits / 8) + 3]? = some 255

theorem pixel_inside (source : sourceBits = 24 ∨ sourceBits = 32)
    (enough : rowStride width sourceBits * height ≤ data.size) {x y : Nat} (column : x < width)
    (row : y < height) :
    y * rowStride width sourceBits + x * (sourceBits / 8) + sourceBits / 8 ≤ data.size := by
  have inRow : (x + 1) * (sourceBits / 8) ≤ rowStride width sourceBits :=
    (Nat.mul_le_mul_right _ column).trans (pixels_le source width)
  have inData : (y + 1) * rowStride width sourceBits ≤ data.size :=
    calc (y + 1) * rowStride width sourceBits ≤ height * rowStride width sourceBits :=
          Nat.mul_le_mul_right _ row
      _ = rowStride width sourceBits * height := Nat.mul_comm _ _
      _ ≤ data.size := enough
  rw [Nat.succ_mul] at inRow inData
  omega

theorem getElem?_byteAt {b : Bytes} {i : Nat} (inside : i < b.size) :
    b[i]? = some (b.byteAt i) := by
  rw [Bytes.byteAt, Array.getElem?_eq_getElem inside]
  rfl

theorem getElem?_channelPlace (source : sourceBits = 24 ∨ sourceBits = 32)
    (enough : rowStride width sourceBits * height ≤ data.size) {x y c : Nat} (column : x < width)
    (row : y < height) (color : c < 3) :
    data[channelPlace width sourceBits x y c]? =
      some ((storedColor data width sourceBits (sourceBits / 8) x y).byte c) := by
  have inside := pixel_inside source enough column row
  have places : c = 0 ∨ c = 1 ∨ c = 2 := by omega
  rw [channelPlace, ← rowStride_eq, getElem?_byteAt (by omega)]
  rcases places with rfl | rfl | rfl <;> rfl

theorem Convertible.converted
    (convertible : Convertible data width height sourceBits targetBits) :
    Converted data width height sourceBits targetBits
      (packed data width height sourceBits targetBits) := by
  obtain ⟨source, target, enough⟩ := convertible
  rw [← rowStride_eq] at enough
  refine ⟨size_packed target, fun x y c column row color => ?_, fun x y column row wide => ?_⟩
  · exact ⟨_, getElem?_channelPlace source enough column row color,
      getElem?_packed target column row (by omega)⟩
  · exact getElem?_packed target column row (by omega)

/-- Nothing but the colours counts. -/
theorem Converted.unique {other out out' : Bytes} (target : targetBits = 24 ∨ targetBits = 32)
    (first : Converted data width height sourceBits targetBits out)
    (second : Converted other width height sourceBits targetBits out')
    (same : ∀ x y c, x < width → y < height → c < 3 →
      data[channelPlace width sourceBits x y c]? = other[channelPlace width sourceBits x y c]?) :
    out = out' := by
  refine Bytes.ext_channels first.size second.size fun x y c column row channel => ?_
  by_cases color : c < 3
  · obtain ⟨v, stored, found⟩ := first.color x y c column row color
    obtain ⟨v', stored', found'⟩ := second.color x y c column row color
    rw [same x y c column row color, stored'] at stored
    cases stored
    exact found.trans found'.symm
  · have wide : targetBits = 32 := by omega
    have last : c = 3 := by omega
    rw [last]
    exact (first.alpha x y column row wide).trans (second.alpha x y column row wide).symm

end Dib

end Metafile
