import Mathlib.Data.List.Induction
import Mathlib.Data.Set.Basic
import Metafile.Raster.Mask

/-! # The algebra of clips

A clip stands for the set of pixels that it shows, and a clip without a mask for all the pixels of
the raster. Combining clips with areas is the algebra of these sets. It makes no difference which
clip stands for a set, nor what the bytes of covered pixels are. -/
namespace Metafile

structure Mask.Spans (mask : Mask) (width height : Nat) : Prop where
  width_eq : mask.width = width
  height_eq : mask.height = height

theorem Mask.Spans.filled {mask : Mask} {width height : Nat} (h : mask.Spans width height) :
    mask.values.size = width * height := by
  rw [mask.filled, h.width_eq, h.height_eq]

/-- A mask has only the bytes of pixels that are covered as a whole and of those that are not. -/
def Mask.Sharp (mask : Mask) : Prop := ∀ v ∈ mask.values, v = 0 ∨ v = 255

theorem Mask.level_sharp (covered : Bool) : level covered = 0 ∨ level covered = 255 := by
  cases covered
  · exact Or.inl rfl
  · exact Or.inr rfl

theorem Mask.complement_sharp (mask : Mask) : mask.complement.Sharp := by
  intro v member
  obtain ⟨old, -, rfl⟩ := Array.mem_map.mp member
  exact level_sharp _

def Clip.Spans (clip : Clip) (width height : Nat) : Prop :=
  ∀ mask, clip = some mask → mask.Spans width height

def Clip.Sharp (clip : Clip) : Prop := ∀ mask, clip = some mask → mask.Sharp

namespace Clip

theorem none_spans (width height : Nat) : Clip.Spans none width height := nofun

theorem none_sharp : Clip.Sharp none := nofun

theorem combine_spans {clip : Clip} {area : Mask} {width height : Nat}
    (before : clip.Spans width height) (added : area.Spans width height) (op : ClipOp) :
    Clip.Spans (clip.combine area op) width height := by
  intro mask combined
  cases clip with
  | none =>
    cases op with
    | intersect | replace =>
      cases combined
      exact added
    | union => cases combined
    | xor | difference =>
      cases combined
      exact ⟨added.width_eq, added.height_eq⟩
  | some shown =>
    have old := before shown rfl
    cases op with
    | replace =>
      cases combined
      exact added
    | intersect | union | xor | difference =>
      cases combined
      exact ⟨old.width_eq, old.height_eq⟩

theorem combine_sharp {clip : Clip} {area : Mask} (before : clip.Sharp) (added : area.Sharp)
    (op : ClipOp) : Clip.Sharp (clip.combine area op) := by
  intro mask combined
  cases clip with
  | none =>
    cases op with
    | intersect | replace =>
      cases combined
      exact added
    | union => cases combined
    | xor | difference =>
      cases combined
      exact area.complement_sharp
  | some shown =>
    cases op with
    | replace =>
      cases combined
      exact added
    | intersect | union | xor | difference =>
      cases combined
      intro v member
      obtain ⟨i, inside, rfl⟩ := Array.mem_mapIdx.mp member
      cases area.values[i]? with
      | none => exact before shown rfl _ (Array.getElem_mem inside)
      | some a => exact Mask.level_sharp _

end Clip

def Mask.region (mask : Mask) (count : Nat) : Set (Fin count) := {i | mask.covers i = true}

def Clip.region (clip : Clip) (count : Nat) : Set (Fin count) := {i | clip.shows i = true}

namespace ClipOp

/-- What an operation makes of the set of visible pixels. -/
def change {α : Type} (op : ClipOp) (shown covered : Set α) : Set α :=
  match op with
  | intersect => shown ∩ covered
  | union => shown ∪ covered
  | xor => shown \ covered ∪ covered \ shown
  | difference => shown \ covered
  | replace => covered

end ClipOp

namespace Mask

variable {width height : Nat}

@[simp] theorem level_bne_zero (covered : Bool) : (level covered != 0) = covered := by
  cases covered <;> rfl

theorem covers_eq {mask : Mask} {i : Nat} {v : UInt8} (found : mask.values[i]? = some v) :
    mask.covers i = (v != 0) := by
  rw [covers, found, Option.getD_some]

theorem Spans.exists_byte {mask : Mask} (spans : mask.Spans width height) {i : Nat}
    (inside : i < width * height) : ∃ v, mask.values[i]? = some v := by
  rw [← spans.filled] at inside
  exact ⟨mask.values[i], Array.getElem?_eq_getElem inside⟩

theorem covers_complement {mask : Mask} (spans : mask.Spans width height) {i : Nat}
    (inside : i < width * height) : mask.complement.covers i = !mask.covers i := by
  obtain ⟨v, found⟩ := spans.exists_byte inside
  have turned : mask.complement.values[i]? = some (level (v == 0)) := by
    change (mask.values.map fun v => level (v == 0))[i]? = _
    rw [Array.getElem?_map, found, Option.map_some]
  rw [covers_eq turned, covers_eq found, level_bne_zero, bne, Bool.not_not]

end Mask

namespace Clip

variable {width height : Nat}

theorem shows_combine {clip : Clip} {area : Mask} (before : clip.Spans width height)
    (added : area.Spans width height) (op : ClipOp) {i : Nat} (inside : i < width * height) :
    Clip.shows (clip.combine area op) i = op.keeps (clip.shows i) (area.covers i) := by
  cases clip with
  | none =>
    cases op with
    | intersect | union | replace => rfl
    | difference => exact Mask.covers_complement added inside
    | xor => exact (Mask.covers_complement added inside).trans (Bool.true_bne _).symm
  | some mask =>
    obtain ⟨v, found⟩ := (before mask rfl).exists_byte inside
    have shown : Clip.shows (some mask) i = (v != 0) := Mask.covers_eq found
    cases op with
    | replace => rfl
    | intersect | union | xor | difference =>
      obtain ⟨a, covered⟩ := added.exists_byte inside
      rw [shown, Mask.covers_eq covered]
      refine (Mask.covers_eq ?_).trans (Mask.level_bne_zero _)
      refine Array.getElem?_mapIdx.trans ?_
      rw [found, covered]
      rfl

theorem region_combine {clip : Clip} {area : Mask} (before : clip.Spans width height)
    (added : area.Spans width height) (op : ClipOp) :
    Clip.region (clip.combine area op) (width * height) =
      op.change (clip.region (width * height)) (area.region (width * height)) := by
  ext i
  change Clip.shows (clip.combine area op) i = true ↔ _
  rw [shows_combine before added op i.isLt]
  have shown : i ∈ clip.region (width * height) ↔ clip.shows i = true := Iff.rfl
  have covered : i ∈ area.region (width * height) ↔ area.covers i = true := Iff.rfl
  cases op with
  | intersect => simp [ClipOp.keeps, ClipOp.change, shown, covered]
  | union => simp [ClipOp.keeps, ClipOp.change, shown, covered]
  | difference => simp [ClipOp.keeps, ClipOp.change, shown, covered]
  | replace => simp [ClipOp.keeps, ClipOp.change, covered]
  | xor =>
    rw [ClipOp.change, Set.mem_union, Set.mem_sdiff, Set.mem_sdiff, shown, covered]
    cases clip.shows i <;> cases area.covers i <;> simp [ClipOp.keeps]

end Clip

structure ClipStep where
  area : Mask
  op : ClipOp

namespace Clip

variable {width height : Nat}

def combineAll (clip : Clip) (steps : List ClipStep) : Clip :=
  steps.foldl (fun clip step => clip.combine step.area step.op) clip

def changeAll {count : Nat} (shown : Set (Fin count)) (steps : List ClipStep) : Set (Fin count) :=
  steps.foldl (fun shown step => step.op.change shown (step.area.region count)) shown

/-- The clips that some steps can end in when the clip and the areas may be exchanged, before any
step and behind the last one, for others that stand for the same pixels. -/
inductive EndsIn (width height : Nat) (clip : Clip) : List ClipStep → Clip → Prop where
  | start : EndsIn width height clip [] clip
  | exchange {steps : List ClipStep} {a b : Clip} : EndsIn width height clip steps a →
      b.Spans width height → b.region (width * height) = a.region (width * height) →
      EndsIn width height clip steps b
  | step {steps : List ClipStep} {a : Clip} {step : ClipStep} {area : Mask} :
      EndsIn width height clip steps a → area.Spans width height →
      area.region (width * height) = step.area.region (width * height) →
      EndsIn width height clip (steps ++ [step]) (a.combine area step.op)

theorem EndsIn.region {clip result : Clip} {steps : List ClipStep}
    (spans : clip.Spans width height) (h : EndsIn width height clip steps result) :
    result.Spans width height ∧
      result.region (width * height) = changeAll (clip.region (width * height)) steps := by
  induction h with
  | start => exact ⟨spans, rfl⟩
  | exchange _ other same ih => exact ⟨other, same.trans ih.2⟩
  | step _ added same ih =>
    obtain ⟨before, shown⟩ := ih
    refine ⟨combine_spans before added _, ?_⟩
    rw [region_combine before added, same, shown, changeAll, changeAll, List.foldl_append]
    rfl

theorem endsIn_combineAll (clip : Clip) {steps : List ClipStep}
    (areas : ∀ step ∈ steps, step.area.Spans width height) :
    EndsIn width height clip steps (clip.combineAll steps) := by
  induction steps using List.reverseRecOn with
  | nil => exact .start
  | append_singleton steps step ih =>
    have earlier := ih fun other member => areas other (List.mem_append_left _ member)
    have last := areas step (List.mem_append_right _ (List.mem_singleton.mpr rfl))
    have combined : clip.combineAll (steps ++ [step]) =
        Clip.combine (clip.combineAll steps) step.area step.op := List.foldl_append
    rw [combined]
    exact .step earlier last rfl

/-- Steps of combination come to the operations on sets, one after the other. Whatever clips and
areas stand for the sets in between, the pixels that are shown in the end are the same. -/
theorem region_combineAll {clip : Clip} {steps : List ClipStep} (spans : clip.Spans width height)
    (areas : ∀ step ∈ steps, step.area.Spans width height) :
    Clip.region (clip.combineAll steps) (width * height) =
      changeAll (clip.region (width * height)) steps ∧
    ∀ result, EndsIn width height clip steps result → result.Spans width height ∧
      result.region (width * height) = Clip.region (clip.combineAll steps) (width * height) := by
  have direct := (endsIn_combineAll clip areas).region spans
  refine ⟨direct.2, fun result reached => ?_⟩
  have other := reached.region spans
  exact ⟨other.1, other.2.trans direct.2.symm⟩

def leftHalf : Mask := ⟨2, 2, #[7, 0, 1, 0], rfl⟩

def firstCorner : Mask := ⟨2, 2, #[255, 0, 0, 0], rfl⟩

def halves : List ClipStep := [⟨leftHalf, .xor⟩, ⟨leftHalf, .union⟩, ⟨firstCorner, .difference⟩]

/-- After two steps the mask covers everything, so it may as well be taken away. The bytes of the
left half are not those that filling would leave. -/
theorem region_halves :
    Clip.Spans none 2 2 ∧ (∀ step ∈ halves, step.area.Spans 2 2) ∧
    Clip.region (combineAll none halves) 4 = changeAll (Clip.region none 4) halves ∧
    Clip.region (Clip.combine none firstCorner .difference) 4 =
      Clip.region (combineAll none halves) 4 := by
  have left : leftHalf.Spans 2 2 := ⟨rfl, rfl⟩
  have corner : firstCorner.Spans 2 2 := ⟨rfl, rfl⟩
  have areas : ∀ step ∈ halves, step.area.Spans 2 2 := by
    simp [halves, left, corner]
  have covered : Clip.region none (2 * 2) =
      Clip.region (combineAll none [⟨leftHalf, .xor⟩, ⟨leftHalf, .union⟩]) (2 * 2) := by
    ext i
    change Clip.shows none i = true ↔ Clip.shows (combineAll none _) i = true
    revert i
    decide +kernel
  have united : EndsIn 2 2 none [⟨leftHalf, .xor⟩, ⟨leftHalf, .union⟩]
      (combineAll none [⟨leftHalf, .xor⟩, ⟨leftHalf, .union⟩]) :=
    endsIn_combineAll none (by simp [left])
  have cut : EndsIn 2 2 none halves (Clip.combine none firstCorner .difference) :=
    .step (.exchange united (none_spans 2 2) covered) corner rfl
  obtain ⟨direct, other⟩ := region_combineAll (none_spans 2 2) areas
  exact ⟨none_spans 2 2, areas, direct, (other _ cut).2⟩

end Clip

end Metafile
