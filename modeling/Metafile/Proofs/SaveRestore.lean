import Metafile.Proofs.Drawing
import Metafile.Proofs.NewContext

/-! # Saving and restoring

A saved state stays where it is on the stack as long as the stack does not fall below it. Whatever
is played in between, restoring it gives back the drawing state and the stack from before. -/
namespace Metafile

namespace Context

variable {c : Context} {record : Record}

theorem Settles.savedStates {outcome : Outcome} (settled : c.Settles outcome) :
    outcome.1.saved.states = c.state :: c.saved.states ∨
      outcome.1.saved.states <:+ c.saved.states := by
  cases settled with
  | refused e => exact Or.inr (List.suffix_refl _)
  | changed objects state clip => exact Or.inr (List.suffix_refl _)
  | saved => exact Or.inl rfl
  | restored popped =>
    have below := SaveStack.popTo?_suffix popped
    exact Or.inr ((List.suffix_cons _ _).trans below)

theorem apply_savedStates (c : Context) (record : Record) :
    (c.apply record).1.saved.states = c.state :: c.saved.states ∨
      (c.apply record).1.saved.states <:+ c.saved.states := by
  cases draws : record.draws with
  | true =>
    have same := congrArg SaveStack.states (c.apply_drawn draws).saved
    exact Or.inr ⟨[], same⟩
  | false => exact (c.apply_settles draws).savedStates

theorem apply_keeps {bottom : List DrawState} (kept : bottom <:+ c.saved.states)
    (held : bottom.length ≤ (c.apply record).1.saved.depth) :
    bottom <:+ (c.apply record).1.saved.states := by
  rcases c.apply_savedStates record with pushed | popped
  · rw [pushed]
    exact kept.trans (List.suffix_cons _ _)
  · exact List.suffix_of_suffix_length_le kept popped held

/-- The bottom of the stack stays as long as no record uncovers it. -/
theorem play_keeps {bottom : List DrawState} {records : List Record}
    (kept : bottom <:+ c.saved.states)
    (held : ∀ before, before <+: records → bottom.length ≤ (c.play before).saved.depth) :
    bottom <:+ (c.play records).saved.states := by
  induction records generalizing c with
  | nil => exact kept
  | cons record rest ih =>
    have first : [record] <+: record :: rest := List.prefix_append [record] rest
    have next : bottom <:+ (c.apply record).1.saved.states := apply_keeps kept (held [record] first)
    refine ih next fun before inside => ?_
    exact held (record :: before) (List.cons_prefix_cons.mpr ⟨rfl, inside⟩)

theorem restoreDc_eq {state : DrawState} {saved : SaveStack DrawState} {index : Int32}
    (popped : c.saved.popTo? index = some (state, saved)) :
    c.apply (.restoreDc index) = ({ c with state, saved }, none) := by
  change c.restore index = _
  unfold restore
  rw [popped]

def bracket (c : Context) (records : List Record) : Context := (c.apply .saveDc).1.play records

/-- Saving and restoring put brackets around whatever is played in between. The state may be named
by its age or by its distance from the newest one. -/
theorem restoreDc_bracket (c : Context) (records : List Record)
    (held : ∀ before, before <+: records → c.saved.depth + 1 ≤ (c.bracket before).saved.depth)
    (small : (c.bracket records).saved.depth < 0x80000000) :
    let age := Int32.ofInt (c.saved.depth + 1)
    let distance := Int32.ofInt (-((c.bracket records).saved.depth - c.saved.depth))
    (c.bracket records).apply (.restoreDc age) = (c.bracket records).apply (.restoreDc distance) ∧
      ((c.bracket records).apply (.restoreDc age)).2 = none ∧
      ((c.bracket records).apply (.restoreDc age)).1.state = c.state ∧
      ((c.bracket records).apply (.restoreDc age)).1.saved = c.saved := by
  intro age distance
  have kept : c.state :: c.saved.states <:+ (c.bracket records).saved.states :=
    play_keeps (List.suffix_refl _) held
  obtain ⟨above, split⟩ := kept
  have byAge : (c.bracket records).apply (.restoreDc age) =
      ({ c.bracket records with state := c.state, saved := c.saved }, none) :=
    restoreDc_eq (SaveStack.popTo?_of_age split.symm small)
  have byDistance : (c.bracket records).apply (.restoreDc distance) =
      ({ c.bracket records with state := c.state, saved := c.saved }, none) :=
    restoreDc_eq (SaveStack.popTo?_of_distance split.symm small)
  rw [byAge, byDistance]
  exact ⟨rfl, rfl, rfl, rfl⟩

/-- Saves and restores by both kinds of index, one of them out of range, among changes of the state
and a selection that fails. -/
def nestedSaves : List Record :=
  [.setBkMode 1, .saveDc, .moveToEx ⟨3, 4⟩, .selectObject 9, .saveDc, .restoreDc (-1),
   .restoreDc 7, .restoreDc 2, .saveDc]

theorem restoreDc_nestedSaves :
    (∀ before, before <+: nestedSaves →
      square.saved.depth + 1 ≤ (square.bracket before).saved.depth) ∧
    (square.bracket nestedSaves).saved.depth = 2 ∧
    (square.bracket nestedSaves).apply (.restoreDc 1) =
      (square.bracket nestedSaves).apply (.restoreDc (-2)) ∧
    ((square.bracket nestedSaves).apply (.restoreDc 1)).1.state = square.state ∧
    ((square.bracket nestedSaves).apply (.restoreDc 1)).1.saved = square.saved := by
  have depths : ∀ n < 10, 1 ≤ (square.bracket (nestedSaves.take n)).saved.depth := by decide
  have held : ∀ before, before <+: nestedSaves →
      square.saved.depth + 1 ≤ (square.bracket before).saved.depth := by
    intro before inside
    have short : before.length < 10 := Nat.lt_succ_of_le inside.length_le
    rw [List.prefix_iff_eq_take.mp inside]
    exact depths before.length short
  have depth : (square.bracket nestedSaves).saved.depth = 2 := by decide
  obtain ⟨same, -, state, saved⟩ :=
    restoreDc_bracket square nestedSaves held (by rw [depth]; decide)
  rw [depth] at same
  exact ⟨held, depth, same, state, saved⟩

end Context

end Metafile
