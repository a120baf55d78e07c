import Mathlib.Data.Finset.Card
import Mathlib.Data.Finset.Prod
import Metafile.Proofs.NewContext
import Metafile.Proofs.TransferLoop

/-! # Transfers pixel by pixel

A transfer changes each pixel of its rectangle by itself, and each bit of its colour by the truth
table that the operation's code holds: an entry for each way in which a bit of the pattern, one of
the source and one of the raster can be set. -/
namespace Metafile

namespace Rop

/-- The entry of a code's truth table for a bit of the source, the raster and the pattern. -/
def entry (code : UInt32) (s d p : Bool) : Bool :=
  code.toNat.testBit (16 + (4 * p.toNat + 2 * s.toNat + d.toNat))

def Tabulated (code : UInt32) (s d p value : UInt8) : Prop :=
  ∀ k < 8, value.toNat.testBit k =
    entry code (s.toNat.testBit k) (d.toNat.testBit k) (p.toNat.testBit k)

def combineBit (op : Rop) (s d p : Bool) : Bool :=
  match op with
  | srcCopy => s
  | srcPaint => s || d
  | srcAnd => s && d
  | srcInvert => s != d
  | srcErase => s && !d
  | notSrcCopy => !s
  | notSrcErase => !(s || d)
  | mergeCopy => s && p
  | mergePaint => !s || d
  | patCopy => p
  | patInvert => p != d
  | dstInvert => !d
  | blackness => false
  | whiteness => true

theorem entry_code (op : Rop) (s d p : Bool) : entry op.code s d p = op.combineBit s d p := by
  revert s d p
  cases op <;> decide

theorem testBit_combine (op : Rop) (s d p : UInt8) {k : Nat} (small : k < 8) :
    (op.combine s d p).toNat.testBit k =
      op.combineBit (s.toNat.testBit k) (d.toNat.testBit k) (p.toNat.testBit k) := by
  simp only [← UInt8.toNat_toBitVec, BitVec.testBit_toNat]
  cases op with
  | whiteness =>
    change (BitVec.allOnes 8).getLsbD k = true
    rw [BitVec.getLsbD_allOnes, decide_eq_true small]
  | _ => simp [combine, combineBit, small]

theorem combine_tabulated (op : Rop) (s d p : UInt8) :
    Tabulated op.code s d p (op.combine s d p) := by
  intro k small
  rw [entry_code, testBit_combine op s d p small]

theorem ofCode?_eq_some_iff {code : UInt32} {op : Rop} :
    ofCode? code = some op ↔ op.code = code := by
  constructor
  · intro known
    unfold ofCode? at known
    exact eq_of_beq (List.find?_eq_some_iff_append.mp known).1
  · rintro rfl
    exact op.ofCode?_code

structure Transfers (code : UInt32) (s d p new : Rgba) : Prop where
  red : Tabulated code s.red d.red p.red new.red
  green : Tabulated code s.green d.green p.green new.green
  blue : Tabulated code s.blue d.blue p.blue new.blue
  alpha : new.alpha = 255

theorem mix_transfers (op : Rop) (s d p : Rgba) : Transfers op.code s d p (Blit.mix op s d p) :=
  ⟨op.combine_tabulated _ _ _, op.combine_tabulated _ _ _, op.combine_tabulated _ _ _, rfl⟩

end Rop

def Image.Contains (im : Image) (place : Int × Int) : Prop :=
  0 ≤ place.1 ∧ place.1 < im.width ∧ 0 ≤ place.2 ∧ place.2 < im.height

instance (im : Image) (place : Int × Int) : Decidable (im.Contains place) :=
  inferInstanceAs (Decidable (_ ∧ _ ∧ _ ∧ _))

theorem Image.exists_pixel {im : Image} {x y : Nat} (column : x < im.width) (row : y < im.height) :
    ∃ p, im.pixels[y * im.width + x]? = some p := by
  have inside : y * im.width + x < im.pixels.size := by
    rw [im.filled]
    exact index_lt column row
  exact ⟨im.pixels[y * im.width + x], Array.getElem?_eq_getElem inside⟩

theorem Image.pixel?_isSome (im : Image) (place : Int × Int) :
    (im.pixel? place.1 place.2).isSome = true ↔ im.Contains place := by
  change (if im.Contains place then im.pixels[_]? else none).isSome = true ↔ _
  by_cases inside : im.Contains place
  · have ⟨left, right, top, bottom⟩ := inside
    have column : place.1.toNat < im.width := by omega
    have row : place.2.toNat < im.height := by omega
    obtain ⟨p, found⟩ := Image.exists_pixel column row
    rw [if_pos inside, found]
    exact iff_of_true rfl inside
  · rw [if_neg inside]
    exact iff_of_false Bool.false_ne_true inside

def Ink.Gives (ink : Ink) (x y : Nat) (p : Rgba) : Prop :=
  match ink with
  | solid color => p = color.toRgba
  | tiled tile => tile.image.pixel? (x % tile.image.width) (y % tile.image.height) = some p

theorem Ink.gives_colorAt (ink : Ink) (x y : Nat) : ink.Gives x y (ink.colorAt x y) := by
  cases ink with
  | solid color => rfl
  | tiled tile =>
    have column : x % tile.image.width < tile.image.width := Nat.mod_lt x tile.columns
    have row : y % tile.image.height < tile.image.height := Nat.mod_lt y tile.rows
    obtain ⟨p, there⟩ := Image.exists_pixel column row
    have found : tile.image.pixel? ((x : Int) % tile.image.width) ((y : Int) % tile.image.height) =
        some p := (Image.pixel?_eq column row).trans there
    rw [colorAt, found]
    exact found

namespace Blit

def sourcePlace (b : Blit) (x y : Nat) : Int × Int :=
  (sourceCoord b.src.x b.src.cx (fractionAt x b.dest.x0 (b.dest.x1 - b.dest.x0)),
   sourceCoord b.src.y b.src.cy (fractionAt y b.dest.y0 (b.dest.y1 - b.dest.y0)))

/-- The colour that the source has for a pixel; without an image it has no bits set. -/
def Samples (b : Blit) (x y : Nat) (s : Rgba) : Prop :=
  match b.source with
  | none => s = ⟨0, 0, 0, 255⟩
  | some image => image.pixel? (b.sourcePlace x y).1 (b.sourcePlace x y).2 = some s

/-- The pixels that a transfer writes: those of the target rectangle, as far as it lies on the
raster, that the clip shows and whose source is a pixel of the image, if there is one. -/
def Writes (b : Blit) (clip : Clip) (width height x y : Nat) : Prop :=
  b.hasExtent = true ∧
  ((pixelRange b.dest.x0 b.dest.x1 width).1 ≤ x ∧
    (x : Int) < (pixelRange b.dest.x0 b.dest.x1 width).2) ∧
  ((pixelRange b.dest.y0 b.dest.y1 height).1 ≤ y ∧
    (y : Int) < (pixelRange b.dest.y0 b.dest.y1 height).2) ∧
  clip.shows (y * width + x) = true ∧
  ∀ image ∈ b.source, image.Contains (b.sourcePlace x y)

instance (b : Blit) (clip : Clip) (width height x y : Nat) :
    Decidable (b.Writes clip width height x y) :=
  inferInstanceAs (Decidable (_ ∧ (_ ∧ _) ∧ (_ ∧ _) ∧ _ ∧ ∀ image ∈ b.source, _))

variable {b : Blit} {op : Rop} {clip : Clip} {width height x y : Nat}

theorem sample?_eq_some_iff {s : Rgba} : b.sample? x y = some s ↔ b.Samples x y s := by
  unfold sample? Samples
  cases b.source with
  | none => exact Option.some_inj.trans eq_comm
  | some image => exact Iff.rfl

theorem exists_samples_iff :
    (∃ s, b.Samples x y s) ↔ ∀ image ∈ b.source, image.Contains (b.sourcePlace x y) := by
  unfold Samples
  cases source : b.source with
  | none => simp
  | some image =>
    rw [← Option.isSome_iff_exists, Image.pixel?_isSome]
    simp

theorem writes_iff :
    b.Writes clip width height x y ↔
      (b.reaches width height x y && clip.shows (y * width + x)) = true ∧ ∃ s, b.Samples x y s := by
  rw [exists_samples_iff, Bool.and_eq_true, reaches_iff, columns, rows, mem_numbers,
    mem_numbers, Writes]
  tauto

theorem write?_of_writes (column : x < width)
    (writes : b.Writes clip width height x y) (op : Rop) (old : Rgba) :
    ∃ s, b.Samples x y s ∧ b.write? op width height clip (y * width + x) old =
      some (mix op s old (b.pattern.colorAt x y)) := by
  obtain ⟨reached, s, sampled⟩ := writes_iff.mp writes
  refine ⟨s, sampled, ?_⟩
  unfold write?
  rw [index_mod column, index_div column, if_pos reached, sample?_eq_some_iff.mpr sampled]
  rfl

theorem write?_of_not_writes (column : x < width)
    (spared : ¬ b.Writes clip width height x y) (op : Rop) (old : Rgba) :
    b.write? op width height clip (y * width + x) old = none := by
  unfold write?
  rw [index_mod column, index_div column]
  dsimp only
  split
  · rename_i reached
    rw [writes_iff] at spared
    cases sampled : b.sample? x y with
    | none => rfl
    | some s => exact absurd ⟨reached, s, sample?_eq_some_iff.mp sampled⟩ spared
  · rfl

theorem isSome_write?_iff (column : x < width)
    (old : Rgba) : (b.write? op width height clip (y * width + x) old).isSome = true ↔
      b.Writes clip width height x y := by
  by_cases writes : b.Writes clip width height x y
  · obtain ⟨s, -, written⟩ := write?_of_writes column writes op old
    exact iff_of_true (by rw [written]; rfl) writes
  · rw [write?_of_not_writes column writes]
    exact iff_of_false Bool.false_ne_true writes

def written (b : Blit) (clip : Clip) (width height : Nat) : Finset (Nat × Nat) :=
  (Finset.range width ×ˢ Finset.range height).filter fun place =>
    b.Writes clip width height place.1 place.2

theorem countP_write? (old : Nat → Rgba) :
    ((List.range (width * height)).countP fun i =>
        (b.write? op width height clip i (old i)).isSome) = (b.written clip width height).card := by
  have counted : ((List.range (width * height)).countP fun i =>
      (b.write? op width height clip i (old i)).isSome) =
      ((Finset.range (width * height)).filter fun i =>
        (b.write? op width height clip i (old i)).isSome = true).card := by
    rw [List.countP_eq_length_filter]
    change _ = (List.filter _ (List.range (width * height))).length
    simp
  rw [counted]
  refine Finset.card_nbij' (fun i => (i % width, i / width))
    (fun place => place.2 * width + place.1) ?_ ?_ ?_ ?_
  · intro i member
    obtain ⟨inside, isWritten⟩ := Finset.mem_filter.mp member
    have inside : i < width * height := Finset.mem_range.mp inside
    have column : i % width < width := Nat.mod_lt i (Nat.pos_of_lt_mul_right inside)
    have row : i / width < height := Nat.div_lt_of_lt_mul inside
    rw [← Nat.div_add_mod' i width, isSome_write?_iff column] at isWritten
    exact Finset.mem_filter.mpr ⟨Finset.mem_product.mpr
      ⟨Finset.mem_range.mpr column, Finset.mem_range.mpr row⟩, isWritten⟩
  · rintro ⟨x, y⟩ member
    obtain ⟨place, isWritten⟩ := Finset.mem_filter.mp member
    obtain ⟨column, row⟩ := Finset.mem_product.mp place
    refine Finset.mem_filter.mpr ⟨Finset.mem_range.mpr ?_, ?_⟩
    · exact Image.index_lt (Finset.mem_range.mp column) (Finset.mem_range.mp row)
    · exact (isSome_write?_iff (Finset.mem_range.mp column) _).mpr isWritten
  · intro i member
    exact Nat.div_add_mod' i width
  · rintro ⟨x, y⟩ member
    obtain ⟨place, -⟩ := Finset.mem_filter.mp member
    have column : x < width := Finset.mem_range.mp (Finset.mem_product.mp place).1
    exact Prod.ext (index_mod column y) (index_div column y)

end Blit

namespace Image

structure Transferred (im : Image) (b : Blit) (clip : Clip) (count : Nat) (next : Image) :
    Prop where
  width_eq : next.width = im.width
  height_eq : next.height = im.height
  count_eq : count = (b.written clip im.width im.height).card
  written : ∀ x y : Nat, x < im.width → y < im.height → b.Writes clip im.width im.height x y →
    b.pattern.Gives x y (b.pattern.colorAt x y) ∧
    ∃ s old new, b.Samples x y s ∧ im.pixel? x y = some old ∧ next.pixel? x y = some new ∧
      Rop.Transfers b.rop s old (b.pattern.colorAt x y) new
  kept : ∀ x y : Nat, x < im.width → y < im.height → ¬ b.Writes clip im.width im.height x y →
    ∃ old, im.pixel? x y = some old ∧ next.pixel? x y = some old

variable {im next : Image} {b : Blit} {clip : Clip} {op : Rop} {count : Nat}

def writtenCount (im : Image) (b : Blit) (op : Rop) (clip : Clip) : Nat :=
  (List.range im.pixels.size).countP fun i =>
    (b.write? op im.width im.height clip i (im.pixels[i]?.getD default)).isSome

theorem recolor_transferred (known : op.code = b.rop) :
    im.Transferred b clip (im.writtenCount b op clip)
      (im.recolor (b.write? op im.width im.height clip)) := by
  have there : ∀ {x y : Nat}, x < im.width → y < im.height → ∃ old,
      im.pixel? x y = some old ∧ (im.recolor (b.write? op im.width im.height clip)).pixel? x y =
        some ((b.write? op im.width im.height clip (y * im.width + x) old).getD old) := by
    intro x y column row
    obtain ⟨old, found⟩ := Image.exists_pixel column row
    refine ⟨old, (pixel?_eq column row).trans found, ?_⟩
    have column' : x < (im.recolor (b.write? op im.width im.height clip)).width := column
    rw [pixel?_eq column' row, getElem?_recolor]
    exact congrArg _ found
  refine ⟨rfl, rfl, ?_, fun x y column row writes => ?_,
    fun x y column row spared => ?_⟩
  · rw [writtenCount, im.filled]
    exact Blit.countP_write? _
  · obtain ⟨old, before, after⟩ := there column row
    obtain ⟨s, sampled, new⟩ := Blit.write?_of_writes column writes op old
    refine ⟨b.pattern.gives_colorAt x y, s, old, _, sampled, before, after, ?_⟩
    rw [new, Option.getD_some, ← known]
    exact op.mix_transfers _ _ _
  · obtain ⟨old, before, after⟩ := there column row
    rw [Blit.write?_of_not_writes column spared, Option.getD_none] at after
    exact ⟨old, before, after⟩

theorem blit_of_code (known : op.code = b.rop)
    (sourced : op.usesSource = true → b.source.isSome = true) :
    im.blit b clip = .ok (im.writtenCount b op clip,
      im.recolor (b.write? op im.width im.height clip)) := by
  have accepted : ¬ (op.usesSource && b.source.isNone) = true := by
    rw [Bool.and_eq_true, Option.isNone_iff_eq_none]
    rintro ⟨used, absent⟩
    rw [absent] at sourced
    cases sourced used
  unfold blit
  rw [Rop.ofCode?_eq_some_iff.mpr known]
  exact if_neg accepted

theorem code_of_blit {result : Nat × Image} (done : im.blit b clip = .ok result) :
    ∃ op : Rop, op.code = b.rop ∧ (op.usesSource = true → b.source.isSome = true) := by
  unfold blit at done
  split at done
  · cases done
  rename_i op known
  refine ⟨op, Rop.ofCode?_eq_some_iff.mp known, fun used => ?_⟩
  split at done
  · cases done
  · rename_i accepted
    rw [used, Bool.true_and] at accepted
    cases source : b.source with
    | none =>
      rw [source] at accepted
      exact absurd rfl accepted
    | some image => rfl

/-- A transfer is carried out just when its operation is known and has a source if it takes one. It
then works pixel by pixel and bit by bit, by the truth table of the code, and reports how many
pixels it has written; the loop that overwrites the raster in memory comes to the same. When the
transfer is refused the raster in memory stays as it is. -/
theorem blit_transferred (spans : clip.Spans im.width im.height) :
    ((∃ count next, im.blit b clip = .ok (count, next)) ↔
      ∃ op : Rop, op.code = b.rop ∧ (op.usesSource = true → b.source.isSome = true)) ∧
    (∀ count next, im.blit b clip = .ok (count, next) → im.Transferred b clip count next ∧
      b.inPlace? clip im.width im.height im.bytes = some (.ok count, next.bytes)) ∧
    ∀ e, im.blit b clip = .error e →
      b.inPlace? clip im.width im.height im.bytes = some (.error e, im.bytes) := by
  have inMemory := b.inPlace?_eq spans
  refine ⟨⟨?_, ?_⟩, fun count next done => ⟨?_, ?_⟩, fun e refused => ?_⟩
  · rintro ⟨count, next, done⟩
    exact code_of_blit done
  · rintro ⟨op, known, sourced⟩
    exact ⟨_, _, blit_of_code known sourced⟩
  · obtain ⟨op, known, sourced⟩ := code_of_blit done
    cases (blit_of_code known sourced).symm.trans done
    exact recolor_transferred known
  · rw [inMemory, blitBytes, done]
  · rw [inMemory, blitBytes, refused]

def spread : Blit where
  source := some ⟨1, 1, #[⟨1, 2, 3, 255⟩], rfl⟩
  src := ⟨0, 0, 1, 1⟩
  dest := ⟨0, 0, 2, 2⟩
  rop := 0x00660046
  pattern := .solid .black

def firstRow : Mask := ⟨2, 2, #[255, 255, 0, 0], rfl⟩

/-- The clip shows the first row only, so the second one stays white. -/
theorem blit_spread :
    Clip.Spans (some firstRow) 2 2 ∧
    ∃ count next, Context.square.raster.blit spread (some firstRow) = .ok (count, next) ∧
      next.pixel? 1 1 = some ⟨255, 255, 255, 255⟩ := by
  have spans : Clip.Spans (some firstRow) 2 2 := by
    rintro mask ⟨⟩
    exact ⟨rfl, rfl⟩
  obtain ⟨accepted, done, -⟩ := @blit_transferred Context.square.raster spread _ spans
  obtain ⟨count, next, blitted⟩ := accepted.mpr ⟨.srcInvert, rfl, fun _ => rfl⟩
  have hidden : ¬ spread.Writes (some firstRow) 2 2 1 1 := by
    rintro ⟨-, -, -, shown, -⟩
    revert shown
    decide
  obtain ⟨old, before, after⟩ := (done count next blitted).1.kept 1 1 (by decide) (by decide) hidden
  have white : some old = some ⟨255, 255, 255, 255⟩ := before.symm.trans rfl
  exact ⟨spans, count, next, blitted, after.trans white⟩

end Image

end Metafile
