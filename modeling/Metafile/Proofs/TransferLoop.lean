import Mathlib.Data.List.Nodup
import Metafile.Proofs.RasterBytes
import Metafile.Raster.Blit

/-! # Transfers in memory

A transfer runs over the target rectangle row by row and overwrites the raster as it goes. No pixel
is visited twice, so what the transfer reads of the raster is what was there before, and the pixels
come out as if all of them were changed at once. It never leaves the raster or the mask. -/
namespace Metafile

namespace Image

def visit (color : Nat → Rgba → Option Rgba) (state : Nat × Image) (index : Nat) : Nat × Image :=
  match state.2.pixels[index]?.bind (color index) with
  | some p => (state.1 + 1, state.2.put index p)
  | none => state

theorem size_visit (color : Nat → Rgba → Option Rgba) (state : Nat × Image) (index : Nat) :
    (visit color state index).2.pixels.size = state.2.pixels.size := by
  unfold visit
  split
  · exact size_put _ _ _
  · rfl

/-- Visiting pixels one after the other, none of them twice, changes all of them at once. -/
theorem foldl_visit (color : Nat → Rgba → Option Rgba) {indices : List Nat}
    (distinct : indices.Nodup) (count : Nat) (im : Image) :
    indices.foldl (visit color) (count, im) =
      (count + indices.countP fun i => (im.pixels[i]?.bind (color i)).isSome,
       im.recolor fun i old => if i ∈ indices then color i old else none) := by
  induction indices generalizing count im with
  | nil => exact congrArg (Prod.mk count) im.recolor_none.symm
  | cons index rest ih =>
    obtain ⟨fresh, distinct⟩ := List.nodup_cons.mp distinct
    rw [List.foldl_cons, List.countP_cons, visit]
    cases found : im.pixels[index]?.bind (color index) with
    | none =>
      refine (ih distinct count im).trans (congrArg (Prod.mk _) ?_)
      refine recolor_congr fun i old there => ?_
      by_cases here : i = index
      · subst here
        rw [there, Option.bind_some] at found
        rw [found, ite_self, ite_self]
      · simp only [List.mem_cons, here, false_or]
    | some p =>
      obtain ⟨old, there, new⟩ := Option.bind_eq_some_iff.mp found
      have later : ∀ i ∈ rest, (im.put index p).pixels[i]? = im.pixels[i]? := by
        intro i member
        refine getElem?_put_ne im p ?_
        rintro rfl
        exact fresh member
      have counted : (rest.countP fun i => ((im.put index p).pixels[i]?.bind (color i)).isSome) =
          rest.countP fun i => (im.pixels[i]?.bind (color i)).isSome :=
        List.countP_congr fun i member => by rw [later i member]
      refine (ih distinct (count + 1) (im.put index p)).trans ?_
      rw [counted]
      refine Prod.ext ?_ (ext_pixels rfl rfl fun i => ?_)
      · change count + 1 + _ = count + (_ + 1)
        omega
      · rw [getElem?_recolor, getElem?_recolor]
        by_cases here : i = index
        · subst here
          simp [getElem?_put_self there, there, new, fresh]
        · rw [getElem?_put_ne _ _ (Ne.symm here)]
          simp only [List.mem_cons, here, false_or]

end Image

theorem foldlM_eq_some {α β γ : Type} (code : β → γ) (good : β → Prop) {step? : γ → α → Option γ}
    {step : β → α → β} {xs : List α} (start : β)
    (one : ∀ s, good s → ∀ x ∈ xs, step? (code s) x = some (code (step s x)) ∧ good (step s x))
    (begin : good start) :
    xs.foldlM step? (code start) = some (code (xs.foldl step start)) ∧
      good (xs.foldl step start) := by
  induction xs generalizing start with
  | nil => exact ⟨rfl, begin⟩
  | cons x rest ih =>
    obtain ⟨first, next⟩ := one start begin x List.mem_cons_self
    rw [List.foldlM_cons, first, Option.bind_eq_bind, Option.bind_some, List.foldl_cons]
    exact ih _ (fun s h y member => one s h y (List.mem_cons_of_mem x member)) next

namespace Blit

def mixChannel? (op : Rop) (s p : Rgba) (index : Nat) (data : Bytes) (k : Nat) : Option Bytes := do
  let old ← data[4 * index + k]?
  data.put? (4 * index + k) (op.combine (s.byte k) old (p.byte k))

def mixInPlace? (op : Rop) (s p : Rgba) (index : Nat) (data : Bytes) : Option Bytes := do
  let mixed ← [0, 1, 2].foldlM (mixChannel? op s p index) data
  mixed.put? (4 * index + 3) 255

/-- What is done to one pixel of the target rectangle, and the number of pixels written so far. -/
def visitInPlace? (b : Blit) (op : Rop) (clip : Clip) (width y : Nat) (state : Nat × Bytes)
    (x : Nat) : Option (Nat × Bytes) := do
  let index := y * width + x
  if ← clip.look? index then
    match b.sample? x y with
    | some s => return (state.1 + 1, ← mixInPlace? op s (b.pattern.colorAt x y) index state.2)
    | none => return state
  else return state

def numbers (range : Int × Int) : List Nat :=
  List.range' range.1.toNat (range.2.toNat - range.1.toNat)

def columns (b : Blit) (width : Nat) : List Nat := numbers (pixelRange b.dest.x0 b.dest.x1 width)

def rows (b : Blit) (height : Nat) : List Nat := numbers (pixelRange b.dest.y0 b.dest.y1 height)

def rowInPlace? (b : Blit) (op : Rop) (clip : Clip) (width : Nat) (state : Nat × Bytes) (y : Nat) :
    Option (Nat × Bytes) :=
  (b.columns width).foldlM (b.visitInPlace? op clip width y) state

def loopInPlace? (b : Blit) (op : Rop) (clip : Clip) (width height : Nat) (data : Bytes) :
    Option (Nat × Bytes) :=
  (b.rows height).foldlM (b.rowInPlace? op clip width) (0, data)

def hasExtent (b : Blit) : Bool :=
  !(b.dest.x1 - b.dest.x0 == 0 || b.dest.y1 - b.dest.y0 == 0)

def inPlace? (b : Blit) (clip : Clip) (width height : Nat) (data : Bytes) :
    Option (Except Error Nat × Bytes) :=
  match Rop.ofCode? b.rop with
  | none => some (.error (.drawing (.unknownRop b.rop)), data)
  | some op =>
      if op.usesSource && b.source.isNone then
        some (.error (.invalidBitmap (.missingSource b.rop)), data)
      else if b.hasExtent then
        (b.loopInPlace? op clip width height data).map fun (count, data) => (.ok count, data)
      else some (.ok 0, data)

variable {im : Image} {index : Nat} {old : Rgba}

theorem mixChannel?_bytes (found : im.pixels[index]? = some old) (op : Rop) (s p : Rgba) {k : Nat}
    (small : k < 4) : mixChannel? op s p index im.bytes k =
      some (im.put index
        (old.setByte k (op.combine (s.byte k) (old.byte k) (p.byte k)))).bytes := by
  unfold mixChannel?
  rw [Image.getElem?_bytes _ _ small, found, Option.map_some, Option.bind_eq_bind, Option.bind_some]
  exact Image.put?_bytes found small _

theorem mixInPlace?_bytes (found : im.pixels[index]? = some old) (op : Rop) (s p : Rgba) :
    mixInPlace? op s p index im.bytes = some (im.put index (mix op s old p)).bytes := by
  simp only [mixInPlace?, List.foldlM_cons, List.foldlM_nil, Option.bind_eq_bind, Option.pure_def]
  rw [mixChannel?_bytes found op s p (by decide), Option.bind_some,
    mixChannel?_bytes (Image.getElem?_put_self found _) op s p (by decide), Image.put_put,
    Option.bind_some, mixChannel?_bytes (Image.getElem?_put_self found _) op s p (by decide),
    Image.put_put, Option.bind_some, Option.bind_some,
    Image.put?_bytes (Image.getElem?_put_self found _) (by decide), Image.put_put]
  rfl

theorem index_mod {width x : Nat} (column : x < width) (y : Nat) : (y * width + x) % width = x := by
  rw [Nat.mul_comm, Nat.mul_add_mod, Nat.mod_eq_of_lt column]

theorem index_div {width x : Nat} (column : x < width) (y : Nat) : (y * width + x) / width = y := by
  rw [Nat.mul_comm, Nat.mul_add_div (by omega), Nat.div_eq_of_lt column, Nat.add_zero]

theorem mem_numbers {a b : Float32} {limit i : Nat} :
    i ∈ numbers (pixelRange a b limit) ↔
      (pixelRange a b limit).1 ≤ i ∧ (i : Int) < (pixelRange a b limit).2 := by
  have low : 0 ≤ (pixelRange a b limit).1 := Int.le_max_left _ _
  rw [numbers, List.mem_range'_1]
  omega

theorem pixelRange_le (a b : Float32) (limit : Nat) : (pixelRange a b limit).2 ≤ limit :=
  Int.max_le.mpr ⟨Int.natCast_nonneg limit, Int.min_le_right _ _⟩

variable {b : Blit} {width height : Nat}

theorem lt_of_mem_columns {x : Nat} (member : x ∈ b.columns width) : x < width := by
  have inside := (mem_numbers.mp member).2
  have bound := pixelRange_le b.dest.x0 b.dest.x1 width
  omega

theorem lt_of_mem_rows {y : Nat} (member : y ∈ b.rows height) : y < height := by
  have inside := (mem_numbers.mp member).2
  have bound := pixelRange_le b.dest.y0 b.dest.y1 height
  omega

theorem reaches_iff {x y : Nat} :
    b.reaches width height x y = true ↔
      b.hasExtent = true ∧ x ∈ b.columns width ∧ y ∈ b.rows height := by
  rw [columns, rows, mem_numbers, mem_numbers]
  simp only [reaches, hasExtent, Bool.and_eq_true, Bool.not_or, decide_eq_true_eq]
  tauto

def inMemory (state : Nat × Image) : Nat × Bytes := (state.1, state.2.bytes)

theorem visitInPlace?_bytes {op : Rop} {clip : Clip} {state : Nat × Image} {x y : Nat}
    (extent : b.hasExtent = true) (column : x ∈ b.columns width) (row : y ∈ b.rows height)
    (spans : clip.Spans width height) (filled : state.2.pixels.size = width * height) :
    b.visitInPlace? op clip width y (inMemory state) x =
      some (inMemory (Image.visit (b.write? op width height clip) state (y * width + x))) := by
  have x_lt := lt_of_mem_columns column
  have inside : y * width + x < width * height := Image.index_lt x_lt (lt_of_mem_rows row)
  have there := Array.getElem?_eq_getElem (filled ▸ inside)
  have reached : b.reaches width height x y = true := reaches_iff.mpr ⟨extent, column, row⟩
  unfold visitInPlace? Image.visit write?
  dsimp only
  rw [Clip.look?_eq spans inside, index_mod x_lt, index_div x_lt, reached, there]
  simp only [Option.bind_eq_bind, Option.bind_some, Bool.true_and]
  cases clip.shows (y * width + x) with
  | false => rfl
  | true =>
    cases b.sample? x y with
    | none => rfl
    | some s =>
      simp only [if_true, Option.map_some]
      rw [inMemory, mixInPlace?_bytes there]
      rfl

theorem rowInPlace?_bytes {op : Rop} {clip : Clip} {state : Nat × Image} {y : Nat}
    (extent : b.hasExtent = true) (row : y ∈ b.rows height) (spans : clip.Spans width height)
    (filled : state.2.pixels.size = width * height) :
    let after := (b.columns width).foldl (fun s x =>
      Image.visit (b.write? op width height clip) s (y * width + x)) state
    b.rowInPlace? op clip width (inMemory state) y = some (inMemory after) ∧
      after.2.pixels.size = width * height := by
  refine foldlM_eq_some inMemory (fun s => s.2.pixels.size = width * height) state ?_ filled
  intro s size x column
  exact ⟨visitInPlace?_bytes extent column row spans size, (Image.size_visit _ s _).trans size⟩

def indices (b : Blit) (width height : Nat) : List Nat :=
  (b.rows height).flatMap fun y => (b.columns width).map fun x => y * width + x

theorem loopInPlace?_bytes {op : Rop} {clip : Clip} (extent : b.hasExtent = true)
    (spans : clip.Spans im.width im.height) :
    b.loopInPlace? op clip im.width im.height im.bytes =
      some (inMemory ((b.indices im.width im.height).foldl
        (Image.visit (b.write? op im.width im.height clip)) (0, im))) := by
  rw [indices, List.foldl_flatMap]
  simp only [List.foldl_map]
  refine (foldlM_eq_some inMemory (fun s => s.2.pixels.size = im.width * im.height) (0, im)
    ?_ im.filled).1
  intro s size y row
  exact rowInPlace?_bytes extent row spans size

theorem mem_indices {i : Nat} : i ∈ b.indices width height ↔
    i % width ∈ b.columns width ∧ i / width ∈ b.rows height := by
  rw [indices, List.mem_flatMap]
  constructor
  · rintro ⟨y, row, member⟩
    obtain ⟨x, column, rfl⟩ := List.mem_map.mp member
    rw [index_mod (lt_of_mem_columns column), index_div (lt_of_mem_columns column)]
    exact ⟨column, row⟩
  · rintro ⟨column, row⟩
    refine ⟨i / width, row, List.mem_map.mpr ⟨i % width, column, ?_⟩⟩
    exact Nat.div_add_mod' i width

theorem nodup_numbers (range : Int × Int) : (numbers range).Nodup := List.nodup_range'

theorem nodup_indices (b : Blit) (width height : Nat) : (b.indices width height).Nodup := by
  rw [indices, List.nodup_flatMap]
  constructor
  · intro y _
    refine (nodup_numbers _).map_on fun x column x' column' same => ?_
    omega
  · refine (nodup_numbers _).imp fun {y y'} distinct => ?_
    intro i member member'
    obtain ⟨x, column, rfl⟩ := List.mem_map.mp member
    obtain ⟨x', column', same⟩ := List.mem_map.mp member'
    rw [← index_div (lt_of_mem_columns column) y, ← same,
      index_div (lt_of_mem_columns column') y'] at distinct
    exact distinct rfl

theorem write?_of_not_mem {op : Rop} {clip : Clip} {i : Nat}
    (outside : ¬ (b.hasExtent = true ∧ i ∈ b.indices width height)) (old : Rgba) :
    b.write? op width height clip i old = none := by
  have unreached : b.reaches width height (i % width) (i / width) = false := by
    rw [← Bool.not_eq_true, reaches_iff]
    rwa [mem_indices] at outside
  rw [write?, unreached]
  rfl

theorem lt_of_mem_indices {i : Nat} (member : i ∈ b.indices width height) : i < width * height := by
  obtain ⟨column, row⟩ := mem_indices.mp member
  have place := Image.index_lt (lt_of_mem_columns column) (lt_of_mem_rows row)
  rwa [Nat.div_add_mod'] at place

theorem countP_indices {op : Rop} {clip : Clip} :
    (b.indices im.width im.height).countP (fun i =>
        (im.pixels[i]?.bind (b.write? op im.width im.height clip i)).isSome) =
      (List.range im.pixels.size).countP fun i =>
        (b.write? op im.width im.height clip i (im.pixels[i]?.getD default)).isSome := by
  rw [List.countP_eq_length_filter, List.countP_eq_length_filter]
  refine List.Perm.length_eq ((List.perm_ext_iff_of_nodup
    ((nodup_indices b _ _).filter _) (List.nodup_range.filter _)).mpr fun i => ?_)
  rw [List.mem_filter, List.mem_filter, List.mem_range]
  by_cases member : i ∈ b.indices im.width im.height
  · have inside : i < im.pixels.size := im.filled ▸ lt_of_mem_indices member
    rw [Array.getElem?_eq_getElem inside, Option.bind_some, Option.getD_some]
    exact and_congr_left fun _ => iff_of_true member inside
  · have unwritten : ∀ old, b.write? op im.width im.height clip i old = none :=
      b.write?_of_not_mem fun h => member h.2
    simp [member, unwritten]

/-- The pixels written and the raster after all places of the rectangle have been visited. -/
def visits (b : Blit) (op : Rop) (clip : Clip) (im : Image) : Nat × Image :=
  if b.hasExtent then
    (b.indices im.width im.height).foldl (Image.visit (b.write? op im.width im.height clip)) (0, im)
  else (0, im)

theorem visits_eq (b : Blit) (op : Rop) (clip : Clip) (im : Image) :
    b.visits op clip im =
      ((List.range im.pixels.size).countP fun i =>
        (b.write? op im.width im.height clip i (im.pixels[i]?.getD default)).isSome,
       im.recolor (b.write? op im.width im.height clip)) := by
  by_cases extent : b.hasExtent = true
  · rw [visits, if_pos extent, Image.foldl_visit _ (nodup_indices b _ _), countP_indices,
      Nat.zero_add]
    refine congrArg (Prod.mk _) (Image.recolor_congr fun i old _ => ?_)
    split
    · rfl
    · rename_i outside
      exact (b.write?_of_not_mem (fun h => outside h.2) old).symm
  · have unwritten : ∀ i old, b.write? op im.width im.height clip i old = none := fun i old =>
      b.write?_of_not_mem (fun h => extent h.1) old
    have same : im.recolor (b.write? op im.width im.height clip) = im :=
      (Image.recolor_congr fun i old _ => unwritten i old).trans im.recolor_none
    simp [visits, extent, unwritten, same]

theorem blit_eq (im : Image) (b : Blit) (clip : Clip) :
    im.blit b clip = match Rop.ofCode? b.rop with
      | none => .error (.drawing (.unknownRop b.rop))
      | some op =>
          if op.usesSource && b.source.isNone then .error (.invalidBitmap (.missingSource b.rop))
          else .ok (b.visits op clip im) := by
  unfold Image.blit
  cases Rop.ofCode? b.rop with
  | none => rfl
  | some op =>
    dsimp only
    rw [visits_eq]

end Blit

def Image.blitBytes (im : Image) (b : Blit) (clip : Clip) : Except Error Nat × Bytes :=
  match im.blit b clip with
  | .ok (count, next) => (.ok count, next.bytes)
  | .error e => (.error e, im.bytes)

/-- A transfer in memory never leaves the raster or the mask, and comes to the same as a transfer of
all pixels at once. -/
theorem Blit.inPlace?_eq {im : Image} {clip : Clip} (spans : clip.Spans im.width im.height) (b : Blit) :
    b.inPlace? clip im.width im.height im.bytes = some (im.blitBytes b clip) := by
  unfold inPlace? Image.blitBytes
  rw [blit_eq]
  cases Rop.ofCode? b.rop with
  | none => rfl
  | some op =>
    dsimp only
    by_cases refused : (op.usesSource && b.source.isNone) = true
    · rw [if_pos refused, if_pos refused]
    rw [if_neg refused, if_neg refused, visits]
    by_cases extent : b.hasExtent = true
    · rw [if_pos extent, if_pos extent, loopInPlace?_bytes extent spans]
      rfl
    · rw [if_neg extent, if_neg extent]

end Metafile
