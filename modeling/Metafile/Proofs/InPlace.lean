import Metafile.Error

/-! # Changes in place

An operation that changes a state in place may fail halfway, and what it has changed by then stays
changed. Where the operations of this library return a new state or none at all, those in place are
shown to come to the same: the new state, or the old one with nothing changed. -/
namespace Metafile

abbrev InPlace (σ α : Type) := ExceptT Error (StateM σ) α

namespace InPlace

variable {σ α β : Type}

def outcome (operation : InPlace σ α) (s : σ) : Except Error α × σ := operation.run.run s

def check (result : Except Error α) : InPlace σ α := ExceptT.mk (pure result)

/-- Carries out an operation and goes on whether it has failed or not. -/
def settle (operation : InPlace σ α) : InPlace σ (Except Error α) := ExceptT.lift operation.run

/-- The outcome of an operation that returns a new state: without one the state stays as it is. -/
def keep (s : σ) : Except Error (α × σ) → Except Error α × σ
  | .ok (a, next) => (.ok a, next)
  | .error e => (.error e, s)

theorem keep_map (s : σ) (f : α → β) (result : Except Error (α × σ)) :
    keep s (result.map fun (a, next) => (f a, next)) =
      ((keep s result).1.map f, (keep s result).2) := by
  cases result <;> rfl

theorem outcome_map (f : α → β) (operation : InPlace σ α) (s : σ) :
    (f <$> operation).outcome s = ((operation.outcome s).1.map f, (operation.outcome s).2) := by
  rw [outcome, ExceptT.run_map, StateT.run_map]
  rfl

theorem outcome_get (rest : σ → InPlace σ α) (s : σ) :
    outcome (get >>= rest) s = (rest s).outcome s := rfl

theorem outcome_modifyGet (change : σ → α × σ) (rest : α → InPlace σ β) (s : σ) :
    outcome (modifyGet change >>= rest) s = (rest (change s).1).outcome (change s).2 := rfl

theorem outcome_check (result : Except Error α) (s : σ) : (check result).outcome s = (result, s) := rfl

theorem outcome_modify (change : σ → σ) (rest : Unit → InPlace σ β) (s : σ) :
    outcome (modify change >>= rest) s = (rest ()).outcome (change s) := rfl

theorem outcome_settle (operation : InPlace σ α) (rest : Except Error α → InPlace σ β) (s : σ) :
    (operation.settle >>= rest).outcome s =
      (rest (operation.outcome s).1).outcome (operation.outcome s).2 := rfl

theorem outcome_bind (operation : InPlace σ α) (rest : α → InPlace σ β) (s : σ) :
    (operation >>= rest).outcome s = match operation.outcome s with
      | (.ok a, next) => (rest a).outcome next
      | (.error e, next) => (.error e, next) := by
  rw [outcome, ExceptT.run_bind, StateT.run_bind, outcome]
  rcases operation.run.run s with ⟨result, next⟩
  cases result <;> rfl

end InPlace

end Metafile
