import Metafile.Proofs.TernaryTransfer

/-! # What a transfer depends on

An operation that reads no pattern comes out the same for every pattern. One that reads no source
gives each pixel the same colour for every source; but a pixel for which the source has none is not
written, so the sources still have to cover the same pixels. -/
namespace Metafile

namespace Rop

theorem usesSource_eq_false_iff {op : Rop} :
    op.usesSource = false ↔ ∀ s s' d p, op.combine s d p = op.combine s' d p := by
  constructor
  · intro unread s s' d p
    cases op <;> first | rfl | cases unread
  · intro same
    have black := same 0 255 0 255
    have white := same 0 255 255 255
    revert black white
    cases op <;> decide

theorem usesPattern_eq_false_iff {op : Rop} :
    op.usesPattern = false ↔ ∀ s d p p', op.combine s d p = op.combine s d p' := by
  constructor
  · intro unread s d p p'
    cases op <;> first | rfl | cases unread
  · intro same
    have lit := same 255 0 0 255
    revert lit
    cases op <;> decide

end Rop

namespace Blit

variable {op : Rop}

theorem mix_of_not_usesSource (unread : op.usesSource = false) (s s' d p : Rgba) :
    mix op s d p = mix op s' d p := by
  have same := Rop.usesSource_eq_false_iff.mp unread
  rw [mix, same s.red s'.red, same s.green s'.green, same s.blue s'.blue]
  rfl

theorem mix_of_not_usesPattern (unread : op.usesPattern = false) (s d p p' : Rgba) :
    mix op s d p = mix op s d p' := by
  have same := Rop.usesPattern_eq_false_iff.mp unread
  rw [mix, same _ _ p.red p'.red, same _ _ p.green p'.green, same _ _ p.blue p'.blue]
  rfl

def bare (b : Blit) : Blit := { b with source := none, src := ⟨0, 0, 0, 0⟩ }

/-- A pixel of a raster lies in the target rectangle, and the clip shows it. -/
def Visits (b : Blit) (clip : Clip) (im : Image) (i : Nat) : Prop :=
  i < im.pixels.size ∧ b.reaches im.width im.height (i % im.width) (i / im.width) = true ∧
    clip.shows i = true

/-- The source has a pixel for one of the raster; without a source nothing is missing. -/
def Covers (b : Blit) (im : Image) (i : Nat) : Prop :=
  (b.sample? (i % im.width) (i / im.width)).isSome = true

instance (b : Blit) (im : Image) (i : Nat) : Decidable (b.Covers im i) :=
  inferInstanceAs (Decidable (_ = true))

variable {b : Blit} {clip : Clip} {im : Image} {i : Nat}

theorem covers_bare (b : Blit) (im : Image) (i : Nat) : b.bare.Covers im i := rfl

theorem covers_of_same_size {picture other : Image} (width : picture.width = other.width)
    (height : picture.height = other.height) :
    { b with source := some picture }.Covers im i ↔
      { b with source := some other }.Covers im i := by
  have contained : picture.Contains (b.sourcePlace (i % im.width) (i / im.width)) ↔
      other.Contains (b.sourcePlace (i % im.width) (i / im.width)) := by
    rw [Image.Contains, Image.Contains, width, height]
  exact ((picture.pixel?_isSome _).trans contained).trans (other.pixel?_isSome _).symm

theorem isSome_write?_iff_visits (inside : i < im.pixels.size) (op : Rop) (old : Rgba) :
    (b.write? op im.width im.height clip i old).isSome = true ↔
      b.Visits clip im i ∧ b.Covers im i := by
  unfold write? Visits Covers
  dsimp only
  split
  · rename_i reached
    rw [Bool.and_eq_true] at reached
    simp [inside, reached]
  · rename_i missed
    rw [Bool.and_eq_true] at missed
    simp [missed]

theorem write?_of_not_visits (inside : i < im.pixels.size) (missed : ¬ b.Visits clip im i)
    (op : Rop) (old : Rgba) : b.write? op im.width im.height clip i old = none := by
  rw [← Option.not_isSome_iff_eq_none, isSome_write?_iff_visits inside]
  exact fun written => missed written.1

theorem write?_of_not_usesSource (unread : op.usesSource = false) (old : Rgba) :
    b.write? op im.width im.height clip i old =
      if b.Covers im i then b.bare.write? op im.width im.height clip i old else none := by
  by_cases covered : b.Covers im i
  · obtain ⟨s, sampled⟩ := Option.isSome_iff_exists.mp covered
    rw [if_pos covered]
    unfold write?
    dsimp only
    rw [sampled, Option.map_some, mix_of_not_usesSource unread s ColorRef.black.toRgba]
    rfl
  · have sampled := Option.not_isSome_iff_eq_none.mp covered
    rw [if_neg covered]
    unfold write?
    dsimp only
    rw [sampled, Option.map_none, ite_self]

theorem write?_of_not_usesPattern (unread : op.usesPattern = false) (pattern : Ink) :
    { b with pattern }.write? op = b.write? op := by
  funext width height clip i old
  have alike : ∀ s x y, mix op s old (pattern.colorAt x y) = mix op s old (b.pattern.colorAt x y) :=
    fun s x y => mix_of_not_usesPattern unread s old _ _
  unfold write?
  simp only [alike]
  rfl

theorem write?_resourced (unread : op.usesSource = false) {source : Option Image} {src : SourceRect}
    (alike : ∀ i, b.Visits clip im i → (b.Covers im i ↔ { b with source, src }.Covers im i))
    (inside : i < im.pixels.size) (old : Rgba) :
    { b with source, src }.write? op im.width im.height clip i old =
      b.write? op im.width im.height clip i old := by
  by_cases visited : b.Visits clip im i
  · rw [write?_of_not_usesSource (b := b) unread, write?_of_not_usesSource unread]
    exact if_congr (alike i visited).symm rfl rfl
  · have missed := write?_of_not_visits (b := { b with source, src }) inside visited op old
    exact missed.trans (write?_of_not_visits inside visited op old).symm

end Blit

namespace Image

variable {im : Image} {b : Blit} {op : Rop} {clip : Clip}

theorem blit_repatterned (known : op.code = b.rop) (unread : op.usesPattern = false)
    (pattern : Ink) : im.blit { b with pattern } clip = im.blit b clip := by
  have same := Blit.write?_of_not_usesPattern (b := b) unread pattern
  unfold blit
  simp only [Rop.ofCode?_eq_some_iff.mpr known, same]

theorem blit_of_not_usesSource (known : op.code = b.rop) (unread : op.usesSource = false) :
    im.blit b clip = .ok (im.writtenCount b op clip,
      im.recolor (b.write? op im.width im.height clip)) := by
  refine blit_of_code known fun used => ?_
  rw [unread] at used
  cases used

theorem blit_resourced (known : op.code = b.rop) (unread : op.usesSource = false)
    {source : Option Image} {src : SourceRect}
    (alike : ∀ i, b.Visits clip im i → (b.Covers im i ↔ { b with source, src }.Covers im i)) :
    im.blit { b with source, src } clip = im.blit b clip := by
  have counted : im.writtenCount { b with source, src } op clip = im.writtenCount b op clip :=
    List.countP_congr fun i member => by
      rw [Blit.write?_resourced unread alike (List.mem_range.mp member)]
  have recolored : im.recolor ({ b with source, src }.write? op im.width im.height clip) =
      im.recolor (b.write? op im.width im.height clip) :=
    recolor_congr fun i old found =>
      Blit.write?_resourced unread alike (Array.getElem?_eq_some_iff.mp found).1 old
  rw [blit_of_not_usesSource known unread, ← counted, ← recolored]
  exact blit_of_not_usesSource known unread

def isWritten (im : Image) (b : Blit) (op : Rop) (clip : Clip) (i : Nat) : Bool :=
  (b.write? op im.width im.height clip i (im.pixels[i]?.getD default)).isSome

theorem isWritten_iff {i : Nat} (member : i ∈ List.range im.pixels.size) :
    im.isWritten b op clip i = true ↔ b.Visits clip im i ∧ b.Covers im i :=
  Blit.isSome_write?_iff_visits (List.mem_range.mp member) op _

/-- A transfer writes as many pixels without its source just when the source lacks none. -/
theorem writtenCount_bare_iff :
    im.writtenCount b op clip = im.writtenCount b.bare op clip ↔
      ∀ i, b.Visits clip im i → b.Covers im i := by
  have bareWrites : ∀ i ∈ List.range im.pixels.size,
      im.isWritten b.bare op clip i = true ↔ b.Visits clip im i := fun i member =>
    (isWritten_iff member).trans (and_iff_left (b.covers_bare im i))
  have among : im.writtenCount b op clip = ((List.range im.pixels.size).filter
      (im.isWritten b.bare op clip)).countP (im.isWritten b op clip) := by
    rw [List.countP_filter]
    refine List.countP_congr fun i member => ?_
    change im.isWritten b op clip i = true ↔ _
    rw [Bool.and_eq_true, isWritten_iff member, bareWrites i member]
    tauto
  have all : im.writtenCount b.bare op clip = ((List.range im.pixels.size).filter
      (im.isWritten b.bare op clip)).length := List.countP_eq_length_filter
  rw [among, all, List.countP_eq_length]
  constructor
  · intro covered i visited
    have member : i ∈ List.range im.pixels.size := List.mem_range.mpr visited.1
    have kept := List.mem_filter.mpr ⟨member, (bareWrites i member).mpr visited⟩
    exact ((isWritten_iff member).mp (covered i kept)).2
  · intro covered i kept
    obtain ⟨member, visited⟩ := List.mem_filter.mp kept
    have visited := (bareWrites i member).mp visited
    exact (isWritten_iff member).mpr ⟨visited, covered i visited⟩

theorem getElem?_blit_of_not_usesSource (unread : op.usesSource = false) (i : Nat) :
    (im.recolor (b.write? op im.width im.height clip)).pixels[i]? =
      if b.Covers im i then (im.recolor (b.bare.write? op im.width im.height clip)).pixels[i]?
      else im.pixels[i]? := by
  simp only [getElem?_recolor, Blit.write?_of_not_usesSource unread (b := b)]
  split
  · rfl
  · exact Option.map_id'

/-- An operation that reads no pattern gives the same for every pattern. One that reads no source
gives the same for every two sources that cover the same of the visited pixels: each pixel that the
source covers comes out as without a source, and the others stay as they are. -/
theorem blit_unread (known : op.code = b.rop) :
    (op.usesPattern = false → ∀ pattern, im.blit { b with pattern } clip = im.blit b clip) ∧
    (op.usesSource = false →
      (∀ source src,
        (∀ i, b.Visits clip im i → (b.Covers im i ↔ { b with source, src }.Covers im i)) →
          im.blit { b with source, src } clip = im.blit b clip) ∧
      ∃ count next whole full, im.blit b clip = .ok (count, next) ∧
        im.blit b.bare clip = .ok (whole, full) ∧
        (count = whole ↔ ∀ i, b.Visits clip im i → b.Covers im i) ∧
        ∀ i : Nat, next.pixels[i]? = if b.Covers im i then full.pixels[i]? else im.pixels[i]?) := by
  refine ⟨fun unread pattern => ?_, fun unread => ⟨fun source src alike => ?_, ?_⟩⟩
  · exact blit_repatterned known unread pattern
  · exact blit_resourced known unread alike
  · exact ⟨_, _, _, _, blit_of_not_usesSource known unread, blit_of_not_usesSource known unread,
      writtenCount_bare_iff, getElem?_blit_of_not_usesSource unread⟩

def stamp : Blit where
  source := some ⟨1, 1, #[⟨0, 0, 255, 255⟩], rfl⟩
  src := ⟨0, 0, 1, 1⟩
  dest := ⟨0, 0, 1, 1⟩
  rop := 0x00F00021
  pattern := .solid ⟨255⟩

/-- Another picture of the same size makes no difference. -/
theorem blit_stamp :
    Rop.code .patCopy = stamp.rop ∧
    Context.square.raster.blit { stamp with source := some ⟨1, 1, #[⟨255, 0, 0, 255⟩], rfl⟩ } none =
      Context.square.raster.blit stamp none := by
  have known : Rop.code .patCopy = stamp.rop := rfl
  refine ⟨known, ((blit_unread known).2 rfl).1 _ _ fun i visited => ?_⟩
  exact Blit.covers_of_same_size (b := stamp) rfl rfl

end Image

end Metafile
