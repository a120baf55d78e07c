/-! # Saved states

States are saved on a stack and restored by index. A positive index names a state by its age, 1
being the oldest; a negative one counts back from the newest. The states saved after the restored
one are lost with it.
-/
namespace Metafile

structure SaveStack (σ : Type) where
  states : List σ

namespace SaveStack

variable {σ : Type}

def empty : SaveStack σ := ⟨[]⟩

instance : Inhabited (SaveStack σ) := ⟨empty⟩

def depth (s : SaveStack σ) : Nat := s.states.length

def push (s : SaveStack σ) (state : σ) : SaveStack σ := ⟨state :: s.states⟩

/-- How many states a restore to an index takes off a stack of some depth, if the index is in
range. -/
def popCount? (depth : Nat) (index : Int) : Option Nat :=
  let count := if index < 0 then -index else depth - index + 1
  if index ≠ 0 ∧ 1 ≤ count ∧ count ≤ depth then some count.toNat else none

def popTo? (s : SaveStack σ) (index : Int32) : Option (σ × SaveStack σ) := do
  let count ← popCount? s.depth index.toInt
  match s.states.drop (count - 1) with
  | [] => none
  | state :: older => some (state, ⟨older⟩)

end SaveStack

end Metafile
