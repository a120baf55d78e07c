import Metafile.Proofs.TransferInputs

/-! # Transfers that undo themselves

Three operations flip the bits of the raster where others are set, or all of them. What they flip
does not depend on the raster, nor does it matter for the choice of the pixels. So a second transfer
of the same kind takes back the first. -/
namespace Metafile

namespace Rop

def inverts : Rop → Bool
  | srcInvert | patInvert | dstInvert => true
  | _ => false

/-- No other operation takes itself back. -/
theorem inverts_iff {op : Rop} :
    op.inverts = true ↔ ∀ s d p, op.combine s (op.combine s d p) p = d := by
  constructor
  · intro inverts s d p
    cases op with
    | srcInvert =>
      change s ^^^ (s ^^^ d) = d
      rw [← UInt8.xor_assoc, UInt8.xor_self, UInt8.zero_xor]
    | patInvert =>
      change p ^^^ (p ^^^ d) = d
      rw [← UInt8.xor_assoc, UInt8.xor_self, UInt8.zero_xor]
    | dstInvert => exact UInt8.not_not
    | _ => cases inverts
  · intro twice
    have unset := twice 0 0 0
    have raised := twice 255 0 255
    have lowered := twice 0 255 0
    have lit := twice 255 255 255
    revert unset raised lowered lit
    cases op <;> decide

end Rop

namespace Blit

variable {op : Rop} {b : Blit} {clip : Clip}

theorem mix_mix (inverts : op.inverts = true) (s p : Rgba) {d : Rgba} (solid : d.alpha = 255) :
    mix op s (mix op s d p) p = d := by
  have twice := Rop.inverts_iff.mp inverts
  unfold mix
  dsimp only
  rw [twice, twice, twice, ← solid]

theorem isSome_write? (b : Blit) (op : Rop) (width height : Nat) (clip : Clip) (i : Nat)
    (old old' : Rgba) : (b.write? op width height clip i old).isSome =
      (b.write? op width height clip i old').isSome := by
  unfold write?
  dsimp only
  split
  · rw [Option.isSome_map, Option.isSome_map]
  · rfl

theorem write?_write? (inverts : op.inverts = true) (width height i : Nat) {old : Rgba}
    (solid : old.alpha = 255) :
    let first := (b.write? op width height clip i old).getD old
    (b.write? op width height clip i first).getD first = old := by
  unfold write?
  dsimp only
  split
  · cases b.sample? (i % width) (i / width) with
    | none => rfl
    | some s => exact mix_mix inverts s _ solid
  · rfl

end Blit

namespace Image

variable {im next : Image} {b : Blit} {op : Rop} {clip : Clip} {count : Nat}

theorem recolor_recolor_write? (solid : im.Opaque) (inverts : op.inverts = true) :
    (im.recolor (b.write? op im.width im.height clip)).recolor
      (b.write? op im.width im.height clip) = im := by
  refine ext_pixels rfl rfl fun i => ?_
  rw [getElem?_recolor, getElem?_recolor]
  cases found : im.pixels[i]? with
  | none => rfl
  | some old =>
    have alpha : old.alpha = 255 := solid old (Array.mem_of_getElem? found)
    exact congrArg some (Blit.write?_write? inverts im.width im.height i alpha)

theorem writtenCount_recolor (color : Nat → Rgba → Option Rgba) :
    (im.recolor color).writtenCount b op clip = im.writtenCount b op clip := by
  have size : (im.recolor color).pixels.size = im.pixels.size := Array.size_mapIdx
  unfold writtenCount
  rw [size]
  exact List.countP_congr fun i _ => by rw [b.isSome_write?]; rfl

theorem blit_size (done : im.blit b clip = .ok (count, next)) :
    next.width = im.width ∧ next.height = im.height := by
  obtain ⟨op, known, sourced⟩ := code_of_blit done
  cases (blit_of_code known sourced).symm.trans done
  exact ⟨rfl, rfl⟩

theorem blit_blit (solid : im.Opaque) (known : op.code = b.rop) (inverts : op.inverts = true)
    (done : im.blit b clip = .ok (count, next)) : next.blit b clip = .ok (count, im) := by
  have sourced : op.usesSource = true → b.source.isSome = true := by
    obtain ⟨op', known', sourced⟩ := code_of_blit done
    cases Option.some.inj ((op.ofCode?_code).symm.trans
      (Rop.ofCode?_eq_some_iff.mpr (known'.trans known.symm)))
    exact sourced
  cases (blit_of_code known sourced).symm.trans done
  rw [blit_of_code known sourced, writtenCount_recolor]
  exact congrArg (fun again => Except.ok (_, again)) (recolor_recolor_write? solid inverts)

/-- Whenever a transfer that inverts is carried out, it can be carried out again, writes as many
pixels and gives back the raster as it was, in memory byte by byte. -/
theorem blit_undone (solid : im.Opaque) (known : op.code = b.rop) (inverts : op.inverts = true)
    (done : im.blit b clip = .ok (count, next)) :
    next.blit b clip = .ok (count, im) ∧
    (clip.Spans im.width im.height →
      b.inPlace? clip im.width im.height im.bytes = some (.ok count, next.bytes) ∧
      b.inPlace? clip im.width im.height next.bytes = some (.ok count, im.bytes)) := by
  have back := blit_blit solid known inverts done
  refine ⟨back, fun spans => ?_⟩
  have first := b.inPlace?_eq spans
  rw [← (blit_size done).1, ← (blit_size done).2] at spans
  have second := b.inPlace?_eq spans
  rw [(blit_size done).1, (blit_size done).2] at second
  rw [first, second, blitBytes, blitBytes, done, back]
  exact ⟨rfl, rfl⟩

/-- The first row of a small white raster is inverted and comes back. -/
theorem blit_undone_spread :
    Context.square.raster.Opaque ∧ Rop.code .srcInvert = spread.rop ∧
    Rop.inverts .srcInvert = true ∧
    ∃ count next,
      Context.square.raster.blit spread (some firstRow) = .ok (count, next) ∧
      next.blit spread (some firstRow) = .ok (count, Context.square.raster) := by
  have white : ∀ x y : Nat, ColorRef.white.toRgba.alpha = 255 := fun _ _ => rfl
  have solid : Context.square.raster.Opaque := generate_isOpaque 2 2 white
  have known : Rop.code .srcInvert = spread.rop := rfl
  have inverts : Rop.inverts .srcInvert = true := rfl
  obtain ⟨count, next, done⟩ : ∃ count next,
      Context.square.raster.blit spread (some firstRow) = .ok (count, next) :=
    ⟨_, _, blit_of_code known fun _ => rfl⟩
  exact ⟨solid, known, inverts, count, next, done, (blit_undone solid known inverts done).1⟩

end Image

end Metafile
