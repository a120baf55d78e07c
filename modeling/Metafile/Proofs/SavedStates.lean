import Mathlib.Data.List.Forall2
import Metafile.Playback.SaveStack

/-! # Saved states by index

A saved state is named by its age or by its distance from the newest one. Restoring it takes off the
states above it, and leaves those below. What the states are makes no difference to it. -/
namespace Metafile

namespace SaveStack

variable {σ τ : Type} {s rest : SaveStack σ} {state : σ} {index : Int32}

/-- How many states come off says how far the state lies from the newest one, and how old it is. -/
theorem popCount?_eq_some_iff {depth count : Nat} {index : Int} :
    popCount? depth index = some count ↔
      1 ≤ count ∧ count ≤ depth ∧ (index = -count ∨ index = depth + 1 - count) := by
  unfold popCount?
  dsimp only
  rw [Option.ite_none_right_eq_some, Option.some_inj]
  by_cases relative : index < 0
  · rw [if_pos relative]
    omega
  · rw [if_neg relative]
    omega

theorem depth_of_split {above older : List σ} (split : s.states = above ++ state :: older) :
    s.depth = above.length + 1 + older.length := by
  unfold depth
  rw [split, List.length_append, List.length_cons]
  omega

theorem popTo?_of_count {above older : List σ} (split : s.states = above ++ state :: older)
    (counted : popCount? s.depth index.toInt = some (above.length + 1)) :
    s.popTo? index = some (state, ⟨older⟩) := by
  have dropped : s.states.drop (above.length + 1 - 1) = state :: older := by
    rw [split, Nat.add_sub_cancel, List.drop_left]
  unfold popTo?
  rw [counted, Option.bind_eq_bind, Option.bind_some, dropped]

theorem popTo?_of_age {above older : List σ} (split : s.states = above ++ state :: older)
    (small : s.depth < 0x80000000) :
    s.popTo? (.ofInt (older.length + 1)) = some (state, ⟨older⟩) := by
  have depth := depth_of_split split
  refine popTo?_of_count split (popCount?_eq_some_iff.mpr ?_)
  rw [Int32.toInt_ofInt_of_le (by omega) (by omega)]
  omega

theorem popTo?_of_distance {above older : List σ} (split : s.states = above ++ state :: older)
    (small : s.depth < 0x80000000) :
    s.popTo? (.ofInt (-(s.depth - older.length))) = some (state, ⟨older⟩) := by
  have depth := depth_of_split split
  refine popTo?_of_count split (popCount?_eq_some_iff.mpr ?_)
  rw [Int32.toInt_ofInt_of_le (by omega) (by omega)]
  omega

theorem popTo?_push (s : SaveStack σ) (state : σ) :
    (s.push state).popTo? (-1) = some (state, s) := by
  have newest : (s.push state).states = [] ++ state :: s.states := rfl
  have depth := depth_of_split newest
  refine popTo?_of_count newest (popCount?_eq_some_iff.mpr ⟨Nat.le_refl 1, ?_, Or.inl rfl⟩)
  omega

theorem popTo?_outside (young : ¬ (1 ≤ index.toInt ∧ index.toInt ≤ s.depth))
    (far : ¬ (-s.depth ≤ index.toInt ∧ index.toInt ≤ -1)) : s.popTo? index = none := by
  have uncounted : popCount? s.depth index.toInt = none := by
    refine Option.eq_none_iff_forall_ne_some.mpr fun count counted => ?_
    have := popCount?_eq_some_iff.mp counted
    omega
  unfold popTo?
  rw [uncounted]
  rfl

/-- A restore uncovers a part of the stack. -/
theorem popTo?_suffix (popped : s.popTo? index = some (state, rest)) :
    state :: rest.states <:+ s.states := by
  obtain ⟨count, -, popped⟩ := Option.bind_eq_some_iff.mp popped
  split at popped
  · cases popped
  · rename_i newest older dropped
    cases popped
    rw [← dropped]
    exact List.drop_suffix (count - 1) s.states

theorem popTo?_alike {R : σ → τ → Prop} {s : SaveStack σ} {t : SaveStack τ}
    (alike : List.Forall₂ R s.states t.states) (index : Int32) :
    Option.Rel (fun p q => R p.1 q.1 ∧ List.Forall₂ R p.2.states q.2.states)
      (s.popTo? index) (t.popTo? index) := by
  unfold popTo? depth
  rw [alike.length_eq]
  cases popCount? t.states.length index.toInt with
  | none => exact .none
  | some count =>
    simp only [Option.bind_eq_bind, Option.bind_some]
    have dropped := List.forall₂_drop (count - 1) alike
    generalize s.states.drop (count - 1) = xs, t.states.drop (count - 1) = ys at dropped ⊢
    cases dropped with
    | nil => exact .none
    | cons newest older => exact .some ⟨newest, older⟩

end SaveStack

end Metafile
