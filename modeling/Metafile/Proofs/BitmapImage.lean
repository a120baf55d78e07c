import Metafile.Proofs.ConversionLoop
import Metafile.Proofs.RowReversal
import Metafile.Proofs.TernaryTransfer

/-! # Images of bitmaps

The image of a bitmap has its columns and rows, the top one first, and each pixel has the colour
that is stored for it. In memory the pixels are converted in the order in which they are stored, and
the rows of a bitmap that starts with its bottom row are then turned in place. -/
namespace Metafile

def Bytes.pixelInMemory? (rgba : Bytes) (width height : Nat) (x y : Int64) : Option (Option Rgba) :=
  if x < 0 ∨ y < 0 ∨ width ≤ x.toInt ∨ height ≤ y.toInt then some none
  else do
    let above ← word? (y.toInt.toNat * width)
    let index ← word? (above + x.toInt.toNat)
    let start ← word? (index * 4)
    let red ← rgba[start]?
    let green ← rgba[start + 1]?
    let blue ← rgba[start + 2]?
    let alpha ← rgba[start + 3]?
    return some ⟨red, green, blue, alpha⟩

namespace Image

variable {im : Image} {width height : Nat} {color : Nat → Nat → Rgba}

theorem getElem?_generate_at {x y : Nat} (column : x < width) (row : y < height) :
    (generate width height color).pixels[y * width + x]? = some (color x y) := by
  rw [getElem?_generate (index_lt column row), Blit.index_mod column, Blit.index_div column]

theorem generate_congr {color' : Nat → Nat → Rgba}
    (same : ∀ x y, x < width → y < height → color x y = color' x y) :
    generate width height color = generate width height color' := by
  refine ext_pixels rfl rfl fun i => ?_
  refine congrArg (fun pixels : Array Rgba => pixels[i]?) (congrArg Array.ofFn (funext fun i => ?_))
  have column : i.val % width < width := Nat.mod_lt _ (Nat.pos_of_lt_mul_right i.isLt)
  exact same _ _ column (Nat.div_lt_of_lt_mul i.isLt)

theorem getElem?_bytes_channel (im : Image) (index : Nat) {k : Nat} (channel : k < 4) :
    im.bytes[index * 4 + k]? = im.pixels[index]?.map (·.byte k) := by
  rw [Nat.mul_comm]
  exact im.getElem?_bytes index channel

theorem eq_bytes_generate {rgba : Bytes} (size : rgba.size = width * height * 4)
    (each : ∀ x y k, x < width → y < height → k < 4 →
      rgba[(y * width + x) * 4 + k]? = some ((color x y).byte k)) :
    rgba = (generate width height color).bytes := by
  have size' : (generate width height color).bytes.size = width * height * 4 := by
    rw [size_bytes, (generate width height color).filled, Nat.mul_comm]
    rfl
  refine Bytes.ext_channels size size' fun x y k column row channel => ?_
  rw [each x y k column row channel, getElem?_bytes_channel _ _ channel,
    getElem?_generate_at column row]
  rfl

theorem pixelInMemory?_bytes (small : im.width * im.height * 4 < UInt64.size)
    (x y : Int64) :
    im.bytes.pixelInMemory? im.width im.height x y = some (im.pixel? x.toInt y.toInt) := by
  unfold Bytes.pixelInMemory? pixel?
  simp only [Int64.lt_iff_toInt_lt, Int64.toInt_zero]
  by_cases outside : x.toInt < 0 ∨ y.toInt < 0 ∨ im.width ≤ x.toInt ∨ im.height ≤ y.toInt
  · rw [if_pos outside, if_neg (by omega)]
  · have column : x.toInt.toNat < im.width := by omega
    have row : y.toInt.toNat < im.height := by omega
    have inside : y.toInt.toNat * im.width + x.toInt.toNat < im.width * im.height :=
      index_lt column row
    obtain ⟨p, found⟩ := im.exists_pixel column row
    have channel : ∀ k < 4, im.bytes[(y.toInt.toNat * im.width + x.toInt.toNat) * 4 + k]? =
        some (p.byte k) := by
      intro k channel
      rw [getElem?_bytes_channel _ _ channel, found]
      rfl
    have first := channel 0 (by decide)
    rw [Nat.add_zero] at first
    rw [if_neg outside, if_pos (by omega), found, word?_of_lt (by omega), Option.bind_eq_bind,
      Option.bind_some, word?_of_lt (by omega), Option.bind_eq_bind, Option.bind_some,
      word?_of_lt (by omega), Option.bind_some, first,
      channel 1 (by decide), channel 2 (by decide), channel 3 (by decide)]
    rfl

end Image

namespace Dib

variable {d e : Dib}

def storedRow (d : Dib) (y : Nat) : Nat := if d.header.height < 0 then y else d.rowCount - 1 - y

def channelAt (d : Dib) (x y c : Nat) : Nat :=
  channelPlace d.width.toNat d.header.bitCount.toNat x (d.storedRow y) c

/-- A colour that is stored for a pixel of the picture. -/
structure StoresAt (d : Dib) (x y : Nat) (p : Rgba) : Prop where
  red : d.bits[d.channelAt x y 0]? = some p.red
  green : d.bits[d.channelAt x y 1]? = some p.green
  blue : d.bits[d.channelAt x y 2]? = some p.blue
  alpha : p.alpha = 255

structure Readable (d : Dib) : Prop where
  plain : d.header.compression = uncompressed
  depth : d.header.bitCount.toNat = 24 ∨ d.header.bitCount.toNat = 32
  wide : 0 < d.header.width
  tall : d.header.height ≠ 0
  enough : 4 * (d.width.toNat * d.header.bitCount.toNat ⌈/⌉ 32) * d.rowCount ≤ d.bits.size

structure Shows (d : Dib) (im : Image) : Prop where
  width : im.width = d.width
  height : im.height = d.rowCount
  size : im.bytes.size = 4 * d.width.toNat * d.rowCount
  outside : ∀ x y : Int, ¬ im.Contains (x, y) → im.pixel? x y = none
  inside : ∀ x y : Int, im.Contains (x, y) →
    ∃ p, im.pixel? x y = some p ∧ d.StoresAt x.toNat y.toNat p

/-- Two bitmaps store the same colours for the same columns and rows of their pictures. -/
structure SamePicture (d e : Dib) : Prop where
  width : d.header.width = e.header.width
  height : d.rowCount = e.rowCount
  color : ∀ x y c, x < d.width.toNat → y < d.rowCount → c < 3 →
    d.bits[d.channelAt x y c]? = e.bits[e.channelAt x y c]?

def picture (d : Dib) : Image :=
  .generate d.width.toNat d.rowCount fun x y =>
    storedColor d.bits d.width.toNat d.header.bitCount.toNat (d.header.bitCount.toNat / 8) x
      (d.storedRow y)

theorem isBottomUp_eq_true_iff (tall : d.header.height ≠ 0) :
    d.isBottomUp = true ↔ ¬ d.header.height < 0 := by
  have height : d.header.height.toInt ≠ 0 := fun none => tall (Int32.toInt_inj.mp none)
  rw [isBottomUp, decide_eq_true_iff, Int32.lt_iff_toInt_lt, Int32.lt_iff_toInt_lt,
    Int32.toInt_zero]
  omega

theorem storedRow_eq (tall : d.header.height ≠ 0) (y : Nat) :
    d.storedRow y = if d.isBottomUp then d.rowCount - 1 - y else y := by
  rw [storedRow]
  by_cases down : d.header.height < 0
  · rw [if_pos down, if_neg (fun up => (isBottomUp_eq_true_iff tall).mp up down)]
  · rw [if_neg down, if_pos ((isBottomUp_eq_true_iff tall).mpr down)]

theorem storedRow_lt {y : Nat} (row : y < d.rowCount) : d.storedRow y < d.rowCount := by
  unfold storedRow
  split <;> omega

theorem toImage_eq (d : Dib) :
    d.toImage =
      if d.header.compression ≠ uncompressed then
        .error (.unsupportedPixelFormat (.compression d.header.compression.toNat))
      else if ¬ (d.header.bitCount.toNat = 24 ∨ d.header.bitCount.toNat = 32) then
        .error (.unsupportedPixelFormat (.depth d.header.bitCount.toNat))
      else if d.header.width ≤ 0 ∨ d.header.height = 0 then
        .error (.invalidBitmap (.empty d.header.width.toInt d.header.height.toInt))
      else (checkData d.bits d.width.toNat d.rowCount d.header.bitCount.toNat).map
        fun _ => d.picture := by
  unfold toImage
  dsimp only
  rw [pixelBytes?_eq]
  by_cases plain : d.header.compression ≠ uncompressed
  · rw [if_pos plain, if_pos plain]
    rfl
  rw [if_neg plain, if_neg plain]
  by_cases depth : d.header.bitCount.toNat = 24 ∨ d.header.bitCount.toNat = 32
  · rw [if_pos depth, if_neg (not_not_intro depth)]
    by_cases empty : d.header.width ≤ 0 ∨ d.header.height = 0
    · rw [if_pos empty]
      simp only [if_pos empty]
      rfl
    · have tall : d.header.height ≠ 0 := fun none => empty (Or.inr none)
      rw [if_neg empty]
      simp only [if_neg empty, picture, storedRow_eq tall]
      cases checkData d.bits d.width.toNat d.rowCount d.header.bitCount.toNat <;> rfl
  · rw [if_neg depth, if_pos depth]
    rfl

theorem toImage_eq_ok_iff (addressable : d.bits.Addressable) {im : Image} :
    d.toImage = .ok im ↔ d.Readable ∧ im = d.picture := by
  rw [toImage_eq]
  constructor
  · intro read
    split at read
    · cases read
    split at read
    · cases read
    split at read
    · cases read
    rename_i plain depth sides
    obtain ⟨⟨⟩, checked, rfl⟩ := of_map_ok read
    have enough := (checkData_eq_ok_iff addressable).mp checked
    rw [rowStride_eq] at enough
    have wide : 0 < d.header.width := Int32.not_le.mp fun narrow => sides (Or.inl narrow)
    exact ⟨⟨not_not.mp plain, not_not.mp depth, wide, fun none => sides (Or.inr none), enough⟩, rfl⟩
  · rintro ⟨⟨plain, depth, wide, tall, enough⟩, rfl⟩
    have sides : ¬ (d.header.width ≤ 0 ∨ d.header.height = 0) := by
      rintro (narrow | flat)
      · exact Int32.not_le.mpr wide narrow
      · exact tall flat
    rw [← rowStride_eq] at enough
    rw [if_neg (not_not_intro plain), if_neg (not_not_intro depth), if_neg sides,
      (checkData_eq_ok_iff addressable).mpr enough]
    rfl

theorem Readable.storesAt (readable : d.Readable) {x y : Nat} (column : x < d.width.toNat)
    (row : y < d.rowCount) :
    d.StoresAt x y (storedColor d.bits d.width.toNat d.header.bitCount.toNat
      (d.header.bitCount.toNat / 8) x (d.storedRow y)) := by
  have enough := readable.enough
  rw [← rowStride_eq] at enough
  have stored : ∀ {c}, c < 3 → _ :=
    getElem?_channelPlace readable.depth enough column (storedRow_lt row)
  exact ⟨stored (by decide), stored (by decide), stored (by decide), rfl⟩

theorem Readable.shows (readable : d.Readable) : d.Shows d.picture := by
  have width : ((d.width.toNat : Nat) : Int) = d.width := by
    have wide := Int32.lt_iff_toInt_lt.mp readable.wide
    rw [Int32.toInt_zero] at wide
    exact Int.toNat_of_nonneg wide.le
  refine ⟨width, rfl, ?_, fun x y outside => if_neg outside, fun x y inside => ?_⟩
  · rw [Image.size_bytes, d.picture.filled, Nat.mul_assoc]
    rfl
  · obtain ⟨left, right, top, bottom⟩ := id inside
    have column : x.toNat < d.width.toNat := by
      change x < (d.width.toNat : Int) at right
      omega
    have row : y.toNat < d.rowCount := by
      change y < (d.rowCount : Int) at bottom
      omega
    exact ⟨_, (if_pos inside).trans (Image.getElem?_generate_at column row),
      readable.storesAt column row⟩

theorem StoresAt.eq {x y : Nat} {p q : Rgba} (first : d.StoresAt x y p) (second : e.StoresAt x y q)
    (same : ∀ c < 3, d.bits[d.channelAt x y c]? = e.bits[e.channelAt x y c]?) : p = q := by
  have red := first.red.symm.trans ((same 0 (by decide)).trans second.red)
  have green := first.green.symm.trans ((same 1 (by decide)).trans second.green)
  have blue := first.blue.symm.trans ((same 2 (by decide)).trans second.blue)
  have alpha := first.alpha.trans second.alpha.symm
  cases p
  cases q
  cases Option.some.inj red
  cases Option.some.inj green
  cases Option.some.inj blue
  cases alpha
  rfl

theorem SamePicture.picture_eq (same : d.SamePicture e) (readable : d.Readable)
    (readable' : e.Readable) : d.picture = e.picture := by
  have width : d.width.toNat = e.width.toNat := congrArg (·.toInt.toNat) same.width
  have height := same.height
  have colors := Image.generate_congr fun x y (column : x < d.width.toNat) (row : y < d.rowCount) =>
    (readable.storesAt column row).eq (readable'.storesAt (width ▸ column) (height ▸ row))
      (same.color x y · column row)
  refine colors.trans ?_
  rw [width, height]
  rfl

def turned? (d : Dib) (rgba : Bytes) : Option Bytes :=
  if d.isBottomUp then rgba.flipRows? (d.width.toNat * 4) else some rgba

/-- The image made in memory, with its sides. None when a byte is asked for that is not there. -/
def imageInMemory? (d : Dib) : Option (Except Error (Nat × Nat × Bytes)) :=
  let h := d.header
  if h.compression ≠ uncompressed then
    some (.error (.unsupportedPixelFormat (.compression h.compression.toNat)))
  else if ¬ (h.bitCount.toNat = 24 ∨ h.bitCount.toNat = 32) then
    some (.error (.unsupportedPixelFormat (.depth h.bitCount.toNat)))
  else if h.width ≤ 0 ∨ h.height = 0 then
    some (.error (.invalidBitmap (.empty h.width.toInt h.height.toInt)))
  else do
    match ← convertInMemory? d.bits d.width.toNat d.rowCount h.bitCount.toNat 32 with
    | .error e => return .error e
    | .ok rgba => return .ok (d.width.toNat, d.rowCount, ← d.turned? rgba)

theorem turned?_packed (tall : d.header.height ≠ 0) :
    d.turned? (packed d.bits d.width.toNat d.rowCount d.header.bitCount.toNat 32) =
      some d.picture.bytes := by
  have size : (packed d.bits d.width.toNat d.rowCount d.header.bitCount.toNat 32).size =
      d.width.toNat * d.rowCount * 4 := size_packed (Or.inr rfl)
  have each {x y k : Nat} (column : x < d.width.toNat) (row : y < d.rowCount) (channel : k < 4) :
      (packed d.bits d.width.toNat d.rowCount d.header.bitCount.toNat 32)[
          (y * d.width.toNat + x) * 4 + k]? =
        some ((storedColor d.bits d.width.toNat d.header.bitCount.toNat
          (d.header.bitCount.toNat / 8) x y).byte k) :=
    getElem?_packed (Or.inr rfl) column row channel
  unfold turned?
  by_cases up : d.isBottomUp = true
  · have whole : (packed d.bits d.width.toNat d.rowCount d.header.bitCount.toNat 32).size =
        d.rowCount * (d.width.toNat * 4) := by
      rw [size, Nat.mul_comm d.width.toNat, Nat.mul_assoc]
    obtain ⟨next, flipped, nextSize, byte⟩ := Bytes.flipRows?_eq whole
    rw [if_pos up, flipped]
    refine congrArg some ?_
    refine Image.eq_bytes_generate (nextSize.trans size) fun x y k column row channel => ?_
    have place (y : Nat) : (y * d.width.toNat + x) * 4 + k =
        y * (d.width.toNat * 4) + (x * 4 + k) := by
      rw [Nat.add_mul, Nat.mul_assoc, Nat.add_assoc]
    rw [place, byte y _ row (by omega), ← place, each column (by omega) channel,
      storedRow_eq tall, if_pos up]
  · rw [if_neg up]
    refine congrArg some (Image.eq_bytes_generate size fun x y k column row channel => ?_)
    rw [each column row channel, storedRow_eq tall, if_neg up]

theorem width_lt (d : Dib) : d.width.toNat < UInt32.size := by
  have limit : (2 ^ 31 : Int) < UInt32.size := by decide
  have small : d.width < 2 ^ 31 := d.header.width.toInt_lt
  omega

theorem imageInMemory?_eq (addressable : d.bits.Addressable) :
    d.imageInMemory? = some (d.toImage.map fun im => (im.width, im.height, im.bytes)) := by
  unfold imageInMemory?
  rw [toImage_eq]
  dsimp only
  by_cases plain : d.header.compression ≠ uncompressed
  · rw [if_pos plain, if_pos plain]
    rfl
  rw [if_neg plain, if_neg plain]
  by_cases depth : d.header.bitCount.toNat = 24 ∨ d.header.bitCount.toNat = 32
  · rw [if_neg (not_not_intro depth), if_neg (not_not_intro depth)]
    by_cases empty : d.header.width ≤ 0 ∨ d.header.height = 0
    · rw [if_pos empty, if_pos empty]
      rfl
    · have tall : d.header.height ≠ 0 := fun none => empty (Or.inr none)
      have target : 32 = 24 ∨ 32 = 32 := Or.inr rfl
      rw [if_neg empty, if_neg empty, convertInMemory?_eq addressable d.width_lt, convert_eq,
        if_neg (not_not_intro depth), if_neg (not_not_intro target), Option.bind_eq_bind,
        Option.bind_some]
      cases checkData d.bits d.width.toNat d.rowCount d.header.bitCount.toNat with
      | error e => rfl
      | ok done =>
        simp only [Except.map, turned?_packed tall]
        rfl
  · rw [if_pos depth, if_pos depth]
    rfl

/-- An image is made just of the bitmaps that can be read. It shows what they store, and nothing
else in them counts. Neither making it in memory nor looking up its pixels there asks for a byte
that is not there. -/
theorem toImage_exact (addressable : d.bits.Addressable) :
    ((∃ im, d.toImage = .ok im) ↔ d.Readable) ∧
    (∀ im, d.toImage = .ok im → d.Shows im ∧
      (∀ x y : Int64, im.bytes.pixelInMemory? im.width im.height x y =
        some (im.pixel? x.toInt y.toInt)) ∧
      ∀ e : Dib, e.bits.Addressable → e.Readable → d.SamePicture e → e.toImage = .ok im) ∧
    d.imageInMemory? = some (d.toImage.map fun im => (im.width, im.height, im.bytes)) := by
  refine ⟨⟨?_, ?_⟩, fun im read => ?_, imageInMemory?_eq addressable⟩
  · rintro ⟨im, read⟩
    exact ((toImage_eq_ok_iff addressable).mp read).1
  · exact fun readable => ⟨_, (toImage_eq_ok_iff addressable).mpr ⟨readable, rfl⟩⟩
  · obtain ⟨readable, rfl⟩ := (toImage_eq_ok_iff addressable).mp read
    have enough := readable.enough
    rw [← rowStride_eq] at enough
    have small := packed_lt addressable readable.depth enough
    refine ⟨readable.shows, fun x y => ?_, fun e addressable' readable' same => ?_⟩
    · exact Image.pixelInMemory?_bytes small x y
    · exact (toImage_eq_ok_iff addressable').mpr ⟨readable', same.picture_eq readable readable'⟩

def columnHeader (height : Int32) (bitCount : UInt16) : BitmapHeader where
  size := 40
  width := 1
  height := height
  planes := 1
  bitCount := bitCount
  compression := uncompressed
  imageSize := 0
  xPelsPerMeter := 0
  yPelsPerMeter := 0
  colorsUsed := 0
  colorsImportant := 0

def bottomFirst : Dib := ⟨columnHeader 2 24, #[], #[1, 2, 3, 0, 4, 5, 6, 0]⟩

/-- The same picture, with colours of four bytes, a colour table, and a byte behind the rows. -/
def topFirst : Dib := ⟨columnHeader (-2) 32, #[8, 8, 8, 8], #[4, 5, 6, 7, 1, 2, 3, 7, 9]⟩

theorem toImage_exact_column :
    bottomFirst.bits.Addressable ∧ ∃ im, bottomFirst.toImage = .ok im ∧ topFirst.toImage = .ok im ∧
      im.pixel? 0 0 = some ⟨6, 5, 4, 255⟩ ∧ im.pixel? 0 2 = none ∧
      bottomFirst.imageInMemory? = some (.ok (1, 2, im.bytes)) := by
  have addressable : bottomFirst.bits.Addressable := show 8 < 0x8000000000000000 by decide
  have addressable' : topFirst.bits.Addressable := show 9 < 0x8000000000000000 by decide
  have readable : bottomFirst.Readable := ⟨rfl, Or.inl rfl, by decide, by decide, by decide⟩
  have readable' : topFirst.Readable := ⟨rfl, Or.inr rfl, by decide, by decide, by decide⟩
  have color : ∀ x < 1, ∀ y < 2, ∀ c < 3,
      bottomFirst.bits[bottomFirst.channelAt x y c]? =
        topFirst.bits[topFirst.channelAt x y c]? := by
    decide
  have same : bottomFirst.SamePicture topFirst :=
    ⟨rfl, rfl, fun x y c column row channel => color x column y row c channel⟩
  obtain ⟨accepted, done, inMemory⟩ := toImage_exact addressable
  obtain ⟨im, read⟩ := accepted.mpr readable
  obtain ⟨shown, -, equal⟩ := done im read
  have width : im.width = 1 := Int.ofNat.inj shown.width
  have height : im.height = 2 := shown.height
  have inside : im.Contains (0, 0) := by
    rw [Image.Contains, width, height]
    decide
  have below : ¬ im.Contains (0, 2) := by
    rw [Image.Contains, width, height]
    decide
  obtain ⟨p, found, stored⟩ := shown.inside 0 0 inside
  have first : bottomFirst.StoresAt 0 0 ⟨6, 5, 4, 255⟩ := ⟨rfl, rfl, rfl, rfl⟩
  rw [stored.eq first fun _ _ => rfl] at found
  rw [read, Except.map, width, height] at inMemory
  exact ⟨addressable, im, read, equal topFirst addressable' readable' same, found,
    shown.outside 0 2 below, inMemory⟩

end Dib

end Metafile
