import Metafile.Proofs.PixelConversion

/-! # Conversion in memory

In memory rows are cut off the data and pixels off the rows, and what is left of a row is its
filling. Sizes are computed in machine words. None of this can fail once there is data for all rows:
every row has room for its pixels, and no size that passes the checks is too long for a word. -/
namespace Metafile

def word? (n : Nat) : Option Nat := if n < UInt64.size then some n else none

theorem word?_of_lt {n : Nat} (small : n < UInt64.size) : word? n = some n := if_pos small

namespace Bytes

def first? (b : Bytes) (count : Nat) : Option Bytes :=
  if count ≤ b.size then some (b.slice 0 count) else none

/-- The parts of some length that bytes are cut into, without what is left over. -/
def parts (n : Nat) (b : Bytes) : List Bytes :=
  if 0 < n ∧ n ≤ b.size then b.slice 0 n :: parts n (b.slice n (b.size - n)) else []
termination_by b.size
decreasing_by
  rw [size_slice (by omega)]
  omega

def parts? (n : Nat) (b : Bytes) : Option (List Bytes) := if n = 0 then none else some (b.parts n)

theorem first?_of_le {b : Bytes} {count : Nat} (room : count ≤ b.size) :
    b.first? count = some (b.slice 0 count) := if_pos room

theorem parts_eq {n count : Nat} {b : Bytes} (positive : 0 < n) (whole : b.size = count * n) :
    b.parts n = (List.range count).map fun i => b.slice (i * n) n := by
  induction count generalizing b with
  | zero =>
    have short : ¬ (0 < n ∧ n ≤ b.size) := by omega
    rw [parts, if_neg short]
    rfl
  | succ count ih =>
    rw [Nat.succ_mul] at whole
    have long : 0 < n ∧ n ≤ b.size := by omega
    have rest : (b.slice n (b.size - n)).size = count * n := by
      rw [size_slice (by omega)]
      omega
    rw [parts, if_pos long, ih rest, List.range_succ_eq_map, List.map_cons, List.map_map,
      Nat.zero_mul]
    refine congrArg _ (List.map_congr_left fun i member => ?_)
    have inside : (i + 1) * n ≤ count * n := Nat.mul_le_mul_right n (List.mem_range.mp member)
    rw [Nat.succ_mul] at inside
    rw [slice_slice (by omega)]
    exact congrArg (b.slice · n) (by rw [Nat.succ_eq_add_one, Nat.succ_mul, Nat.add_comm])

theorem parts?_eq {n count : Nat} {b : Bytes} (positive : 0 < n) (whole : b.size = count * n) :
    b.parts? n = some ((List.range count).map fun i => b.slice (i * n) n) := by
  rw [parts?, if_neg (by omega), parts_eq positive whole]

end Bytes

theorem foldlM_append {α : Type} {step? : Bytes → α → Option Bytes} {added : α → List UInt8}
    {xs : List α} (one : ∀ out, ∀ x ∈ xs, step? out x = some (out ++ (added x).toArray))
    (out : Bytes) : xs.foldlM step? out = some (out ++ (xs.flatMap added).toArray) := by
  induction xs generalizing out with
  | nil => exact congrArg some (Array.append_empty).symm
  | cons x rest ih =>
    rw [List.foldlM_cons, one out x List.mem_cons_self, Option.bind_eq_bind, Option.bind_some,
      ih fun out y member => one out y (List.mem_cons_of_mem x member)]
    refine congrArg some ?_
    rw [List.flatMap_cons, ← List.append_toArray, Array.append_assoc]

namespace Dib

variable {data : Bytes} {width height sourceBits targetBits : Nat}

/-- Appends a pixel, red first. A fourth byte of the source is passed over. -/
def packPixel? (targetBytes : Nat) (out pixel : Bytes) : Option Bytes := do
  let blue ← pixel[0]?
  let green ← pixel[1]?
  let red ← pixel[2]?
  let colored := out ++ #[red, green, blue]
  return if targetBytes = 4 then colored.push 255 else colored

def packRow? (width sourceBytes targetBytes : Nat) (out row : Bytes) : Option Bytes := do
  let pixels ← (← row.first? (width * sourceBytes)).parts? sourceBytes
  pixels.foldlM (packPixel? targetBytes) out

def packRows? (data : Bytes) (width stride needed sourceBytes targetBytes : Nat) :
    Option Bytes := do
  let rows ← (← data.first? needed).parts? stride
  rows.foldlM (packRow? width sourceBytes targetBytes) #[]

def strideWord? (width bits : Nat) : Option Nat := do
  let rowBits ← word? (width * bits)
  let filled ← word? (rowBits + 31)
  return filled / 32 * 4

def sizeWord? (width height bits : Nat) : Option Nat := do
  word? ((← strideWord? width bits) * height)

def packedWord? (width height targetBytes : Nat) : Option Nat := do
  word? ((← word? (width * height)) * targetBytes)

def checkSizes (data : Bytes) (width height sourceBits targetBytes : Nat) :
    Except Error (Nat × Nat) :=
  match strideWord? width sourceBits, sizeWord? width height sourceBits with
  | some stride, some needed =>
      if data.size < needed then
        .error (.invalidBitmap (.dataTooShort width height sourceBits needed data.size))
      else match packedWord? width height targetBytes with
        | some _ => .ok (stride, needed)
        | none => .error (.invalidBitmap (.tooLarge width height))
  | _, _ => .error (.invalidBitmap (.tooLarge width height))

/-- The conversion in memory, none when it asks for a byte that is not there. -/
def convertInMemory? (data : Bytes) (width height sourceBits targetBits : Nat) :
    Option (Except Error Bytes) :=
  match pixelBytes? sourceBits, pixelBytes? targetBits with
  | none, _ => some (.error (.unsupportedPixelFormat (.sourceDepth sourceBits)))
  | some _, none => some (.error (.unsupportedPixelFormat (.targetDepth targetBits)))
  | some sourceBytes, some targetBytes =>
    match checkSizes data width height sourceBits targetBytes with
    | .error e => some (.error e)
    | .ok (stride, needed) =>
      if stride = 0 then some (.ok #[])
      else (packRows? data width stride needed sourceBytes targetBytes).map .ok

theorem packPixel?_slice {i sourceBytes : Nat} (inside : i + sourceBytes ≤ data.size)
    (long : 3 ≤ sourceBytes) (target : targetBits = 24 ∨ targetBits = 32) (out : Bytes) :
    packPixel? (targetBits / 8) out (data.slice i sourceBytes) =
      some (out ++ (channels ⟨data.byteAt (i + 2), data.byteAt (i + 1), data.byteAt i, 255⟩
        (targetBits / 8)).toArray) := by
  unfold packPixel?
  rw [Bytes.getElem?_slice (by omega), Bytes.getElem?_slice (by omega),
    Bytes.getElem?_slice (by omega), getElem?_byteAt (by omega), getElem?_byteAt (by omega),
    getElem?_byteAt (by omega)]
  rcases target with rfl | rfl
  · rfl
  · simp [channels]

theorem packRow?_slice (source : sourceBits = 24 ∨ sourceBits = 32)
    (target : targetBits = 24 ∨ targetBits = 32) {y : Nat}
    (inside : (y + 1) * rowStride width sourceBits ≤ data.size) (out : Bytes) :
    packRow? width (sourceBits / 8) (targetBits / 8) out
        (data.slice (y * rowStride width sourceBits) (rowStride width sourceBits)) =
      some (out ++ ((List.range width).flatMap fun x =>
        channels (storedColor data width sourceBits (sourceBits / 8) x y)
          (targetBits / 8)).toArray) := by
  rw [Nat.succ_mul] at inside
  have room : width * (sourceBits / 8) ≤ rowStride width sourceBits := pixels_le source width
  have size : (data.slice (y * rowStride width sourceBits) (width * (sourceBits / 8))).size =
      width * (sourceBits / 8) := Bytes.size_slice (by omega)
  unfold packRow?
  rw [Bytes.first?_of_le (by rw [Bytes.size_slice inside]; exact room), Option.bind_eq_bind,
    Option.bind_some, Bytes.slice_slice (by omega), Nat.add_zero,
    Bytes.parts?_eq (by omega) size, Option.bind_eq_bind, Option.bind_some, List.foldlM_map]
  refine foldlM_append (fun out x member => ?_) out
  have column : (x + 1) * (sourceBits / 8) ≤ width * (sourceBits / 8) :=
    Nat.mul_le_mul_right _ (List.mem_range.mp member)
  rw [Nat.succ_mul] at column
  rw [Bytes.slice_slice (by omega), packPixel?_slice (by omega) (by omega) target]
  rfl

theorem map_range_mul {α : Type} (width height : Nat) (f : Nat → Nat → α) :
    (List.range (width * height)).map (fun i => f (i % width) (i / width)) =
      (List.range height).flatMap fun y => (List.range width).map fun x => f x y := by
  induction height with
  | zero => rfl
  | succ height ih =>
    rw [Nat.mul_succ, List.range_add, List.map_append, ih, List.range_succ, List.flatMap_append,
      List.flatMap_singleton, List.map_map]
    refine congrArg _ (List.map_congr_left fun x member => ?_)
    have column : x < width := List.mem_range.mp member
    rw [Function.comp_apply, Nat.mul_comm width, Blit.index_mod column, Blit.index_div column]

theorem packRows?_eq (source : sourceBits = 24 ∨ sourceBits = 32)
    (target : targetBits = 24 ∨ targetBits = 32) (wide : rowStride width sourceBits ≠ 0)
    (enough : rowStride width sourceBits * height ≤ data.size) :
    packRows? data width (rowStride width sourceBits) (rowStride width sourceBits * height)
        (sourceBits / 8) (targetBits / 8) =
      some (packed data width height sourceBits targetBits) := by
  have size : (data.slice 0 (rowStride width sourceBits * height)).size =
      height * rowStride width sourceBits := by
    rw [Bytes.size_slice (by omega), Nat.mul_comm]
  unfold packRows?
  rw [Bytes.first?_of_le enough, Option.bind_eq_bind, Option.bind_some,
    Bytes.parts?_eq (Nat.pos_of_ne_zero wide) size, Option.bind_eq_bind, Option.bind_some,
    List.foldlM_map, packed, map_range_mul, List.flatMap_assoc]
  simp only [List.flatMap_map]
  refine (foldlM_append (fun out y member => ?_) #[]).trans (congrArg some Array.empty_append)
  have row : (y + 1) * rowStride width sourceBits ≤ height * rowStride width sourceBits :=
    Nat.mul_le_mul_right _ (List.mem_range.mp member)
  rw [Nat.mul_comm height] at row
  have inside := row.trans enough
  rw [Nat.succ_mul] at row
  rw [Bytes.slice_slice (by omega), Nat.zero_add]
  exact packRow?_slice source target inside out

theorem strideWord?_eq (source : sourceBits = 24 ∨ sourceBits = 32) (wide : width < UInt32.size) :
    strideWord? width sourceBits = some (rowStride width sourceBits) := by
  have short : width * sourceBits + 31 < UInt64.size := by
    have limit : UInt32.size * 32 + 31 < UInt64.size := by decide
    have rowBits : width * sourceBits ≤ UInt32.size * 32 := Nat.mul_le_mul wide.le (by omega)
    omega
  rw [strideWord?, word?_of_lt (by omega), Option.bind_eq_bind, Option.bind_some,
    word?_of_lt short]
  rfl

theorem sizeWord?_eq (source : sourceBits = 24 ∨ sourceBits = 32) (wide : width < UInt32.size) :
    sizeWord? width height sourceBits = dataSize? width height sourceBits := by
  rw [sizeWord?, strideWord?_eq source wide]
  rfl

theorem three_mul_le_size (source : sourceBits = 24 ∨ sourceBits = 32)
    (enough : rowStride width sourceBits * height ≤ data.size) :
    3 * (width * height) ≤ data.size :=
  calc 3 * (width * height) ≤ sourceBits / 8 * (width * height) :=
        Nat.mul_le_mul_right _ (by omega)
    _ = width * (sourceBits / 8) * height := by rw [← Nat.mul_assoc, Nat.mul_comm width]
    _ ≤ rowStride width sourceBits * height := Nat.mul_le_mul_right _ (pixels_le source width)
    _ ≤ data.size := enough

/-- A pixel takes at most four bytes where it took at least three, and no data takes up more than
half of the memory. -/
theorem packed_lt (addressable : data.Addressable) (source : sourceBits = 24 ∨ sourceBits = 32)
    (enough : rowStride width sourceBits * height ≤ data.size) :
    width * height * 4 < UInt64.size := by
  have pixels := three_mul_le_size source enough
  have limit : 2 * 0x8000000000000000 = UInt64.size := by decide
  unfold Bytes.Addressable at addressable
  omega

theorem packedWord?_eq (addressable : data.Addressable)
    (source : sourceBits = 24 ∨ sourceBits = 32) (target : targetBits = 24 ∨ targetBits = 32)
    (enough : rowStride width sourceBits * height ≤ data.size) :
    packedWord? width height (targetBits / 8) = some (width * height * (targetBits / 8)) := by
  have small := packed_lt addressable source enough
  have size : width * height * (targetBits / 8) ≤ width * height * 4 :=
    Nat.mul_le_mul_left _ (targetBytes_le target)
  rw [packedWord?, word?_of_lt (by omega), Option.bind_eq_bind, Option.bind_some,
    word?_of_lt (by omega)]

theorem checkSizes_eq (addressable : data.Addressable) (source : sourceBits = 24 ∨ sourceBits = 32)
    (target : targetBits = 24 ∨ targetBits = 32) (wide : width < UInt32.size) :
    checkSizes data width height sourceBits (targetBits / 8) =
      (checkData data width height sourceBits).map fun _ =>
        (rowStride width sourceBits, rowStride width sourceBits * height) := by
  unfold checkSizes checkData
  rw [strideWord?_eq source wide, sizeWord?_eq source wide]
  cases size : dataSize? width height sourceBits with
  | none => rfl
  | some needed =>
    have exact : rowStride width sourceBits * height = needed := by
      unfold dataSize? at size
      dsimp only at size
      split at size
      · exact Option.some.inj size
      · cases size
    dsimp only
    split
    · rfl
    · rename_i room
      rw [packedWord?_eq addressable source target (by omega), exact]
      rfl

theorem packed_of_width_zero (data : Bytes) (height sourceBits targetBits : Nat) :
    packed data 0 height sourceBits targetBits = #[] := by
  rw [packed, Nat.zero_mul]
  rfl

theorem convertInMemory?_eq (addressable : data.Addressable) (wide : width < UInt32.size)
    (height sourceBits targetBits : Nat) :
    convertInMemory? data width height sourceBits targetBits =
      some (convert data width height sourceBits targetBits) := by
  unfold convertInMemory?
  rw [convert_eq, pixelBytes?_eq, pixelBytes?_eq]
  by_cases source : sourceBits = 24 ∨ sourceBits = 32
  · rw [if_pos source, if_neg (not_not_intro source)]
    by_cases target : targetBits = 24 ∨ targetBits = 32
    · rw [if_pos target, if_neg (not_not_intro target)]
      dsimp only
      rw [checkSizes_eq addressable source target wide]
      cases checked : checkData data width height sourceBits with
      | error e => rfl
      | ok done =>
        have enough := (checkData_eq_ok_iff addressable).mp checked
        change (if rowStride width sourceBits = 0 then some (Except.ok #[]) else _) =
          some (Except.ok _)
        split
        · rename_i empty
          have narrow := pixels_le source width
          have column : width = 0 := by
            rcases source with rfl | rfl <;> omega
          rw [column, packed_of_width_zero]
        · rename_i positive
          rw [packRows?_eq source target positive enough]
          rfl
    · rw [if_neg target, if_pos target]
  · rw [if_neg source, if_pos source]

/-- Up to three quarters of the longest data, there is room for the pixels that come of it. -/
theorem convert_addressable {out : Bytes} (short : data.size < 0x6000000000000000)
    (converted : convert data width height sourceBits targetBits = .ok out) : out.Addressable := by
  have addressable : data.Addressable := by
    unfold Bytes.Addressable
    omega
  obtain ⟨convertible, rfl⟩ := (convert_eq_ok_iff addressable).mp converted
  have enough := convertible.enough
  rw [← rowStride_eq] at enough
  have pixels := three_mul_le_size convertible.source enough
  have size : width * height * (targetBits / 8) ≤ width * height * 4 :=
    Nat.mul_le_mul_left _ (targetBytes_le convertible.target)
  unfold Bytes.Addressable
  rw [convertible.converted.size]
  omega

/-- A conversion is carried out just when both depths are known and there is data for all rows. The
bytes then come from their places in the data, and nothing else in the data counts. The conversion
in memory comes to the same. -/
theorem convert_exact (addressable : data.Addressable)
    (width height sourceBits targetBits : Nat) :
    ((∃ out, convert data width height sourceBits targetBits = .ok out) ↔
      (sourceBits = 24 ∨ sourceBits = 32) ∧ (targetBits = 24 ∨ targetBits = 32) ∧
        4 * (width * sourceBits ⌈/⌉ 32) * height ≤ data.size) ∧
    (∀ out, convert data width height sourceBits targetBits = .ok out →
      Converted data width height sourceBits targetBits out ∧
      ∀ other out' : Bytes, other.Addressable →
        convert other width height sourceBits targetBits = .ok out' →
        (∀ x y c, x < width → y < height → c < 3 →
          data[channelPlace width sourceBits x y c]? =
            other[channelPlace width sourceBits x y c]?) → out' = out) ∧
    (width < UInt32.size → convertInMemory? data width height sourceBits targetBits =
      some (convert data width height sourceBits targetBits)) := by
  refine ⟨⟨?_, ?_⟩, fun out converted => ?_, fun wide => ?_⟩
  · rintro ⟨out, converted⟩
    obtain ⟨⟨source, target, enough⟩, -⟩ := (convert_eq_ok_iff addressable).mp converted
    exact ⟨source, target, enough⟩
  · rintro ⟨source, target, enough⟩
    exact ⟨_, (convert_eq_ok_iff addressable).mpr ⟨⟨source, target, enough⟩, rfl⟩⟩
  · obtain ⟨convertible, rfl⟩ := (convert_eq_ok_iff addressable).mp converted
    refine ⟨convertible.converted, fun other out' addressable' converted' same => ?_⟩
    obtain ⟨convertible', rfl⟩ := (convert_eq_ok_iff addressable').mp converted'
    exact (convertible.converted.unique convertible.target convertible'.converted same).symm
  · exact convertInMemory?_eq addressable wide height sourceBits targetBits

def columnOfTwo (filling : UInt8) : Bytes := #[1, 2, 3, filling, 4, 5, 6, filling, filling]

theorem convert_exact_columnOfTwo :
    (columnOfTwo 0).Addressable ∧ (columnOfTwo 7).Addressable ∧
    ∃ out, convert (columnOfTwo 0) 1 2 24 32 = .ok out ∧
      convert (columnOfTwo 7) 1 2 24 32 = .ok out ∧
      convertInMemory? (columnOfTwo 7) 1 2 24 32 = some (.ok out) ∧
      out.size = 8 ∧ out[4]? = some 6 := by
  have addressable : ∀ filling, (columnOfTwo filling).Addressable := fun _ =>
    show 9 < 0x8000000000000000 by decide
  obtain ⟨accepted, done, -⟩ := convert_exact (addressable 0) 1 2 24 32
  obtain ⟨accepted', -, inMemory⟩ := convert_exact (addressable 7) 1 2 24 32
  obtain ⟨out, converted⟩ := accepted.mpr ⟨Or.inl rfl, Or.inr rfl, by decide⟩
  obtain ⟨out', converted'⟩ := accepted'.mpr ⟨Or.inl rfl, Or.inr rfl, by decide⟩
  obtain ⟨places, alike⟩ := done out converted
  have same : ∀ x < 1, ∀ y < 2, ∀ c < 3,
      (columnOfTwo 0)[channelPlace 1 24 x y c]? = (columnOfTwo 7)[channelPlace 1 24 x y c]? := by
    decide
  obtain rfl : out' = out := alike _ out' (addressable 7) converted' fun x y c column row color =>
    same x column y row c color
  obtain ⟨v, stored, found⟩ := places.color 0 1 0 (by decide) (by decide) (by decide)
  cases stored.symm.trans (rfl : (columnOfTwo 0)[channelPlace 1 24 0 1 0]? = some 6)
  exact ⟨addressable 0, addressable 7, out', converted, converted',
    (inMemory (by decide)).trans (congrArg some converted'), places.size, found⟩

end Dib

end Metafile
