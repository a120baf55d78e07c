import Mathlib.Data.List.Induction
import Metafile.Proofs.SavedStates

/-! # What is restored when

Saving and restoring in any order: a state that is restored is the one that some save has put on the
stack, and no save is answered twice. The states saved between it and the restore are gone with it.
Each save is told from all others by its place among the calls. -/
namespace Metafile

inductive SaveCall (σ : Type) where
  | save (state : σ)
  | restore (index : Int32)

def SaveCall.numbered {σ : Type} (n : Nat) : SaveCall σ → SaveCall (Nat × σ)
  | save state => .save (n, state)
  | restore index => .restore index

namespace SaveStack

variable {σ : Type}

def perform (s : SaveStack σ) : SaveCall σ → Option σ × SaveStack σ
  | .save state => (none, s.push state)
  | .restore index =>
      match s.popTo? index with
      | some (state, rest) => (some state, rest)
      | none => (none, s)

def performAll (s : SaveStack σ) (calls : List (SaveCall σ)) : SaveStack σ :=
  calls.foldl (fun s call => (s.perform call).2) s

def oldestFirst (s : SaveStack σ) : List σ := s.states.reverse

def ofOldestFirst (states : List σ) : SaveStack σ := ⟨states.reverse⟩

def popNewest : StateM (SaveStack σ) (Option σ) :=
  modifyGet fun s => (s.states.head?, ⟨s.states.tail⟩)

def discard : Nat → StateM (SaveStack σ) Unit
  | 0 => return
  | count + 1 => do
      let _ ← popNewest
      discard count

def keepOldest (count : Nat) : StateM (SaveStack σ) Unit :=
  modify fun s => ⟨s.states.drop (s.depth - count)⟩

/-- Takes states off one by one for a negative index, and cuts the stack for a positive one. The
index becomes a number in machine words. -/
def restoreInPlace (index : Int32) : StateM (SaveStack σ) (Option σ) := do
  let depth := (← get).depth
  if index < 0 then
    let count := (-index).toUInt32.toNat
    if count ≤ depth then
      discard (count - 1)
      popNewest
    else return none
  else if 0 < index then
    let position := (index - 1).toUInt32.toNat
    if position < depth then
      keepOldest (position + 1)
      popNewest
    else return none
  else return none

variable {s rest : SaveStack σ} {state : σ} {index : Int32}

theorem perform_restore (popped : s.popTo? index = some (state, rest)) :
    s.perform (.restore index) = (some state, rest) := by
  rw [perform, popped]

theorem perform_restore_of_none (popped : s.popTo? index = none) :
    s.perform (.restore index) = (none, s) := by
  rw [perform, popped]

/-! ## One restore -/

theorem exists_split {n : Nat} (below : n < s.depth) :
    ∃ above state older, s.states = above ++ state :: older ∧ older.length = n ∧
      s.oldestFirst[n]? = some state ∧ (⟨older⟩ : SaveStack σ) = .ofOldestFirst (s.oldestFirst.take n) := by
  have small : n < s.oldestFirst.length := by rwa [oldestFirst, List.length_reverse]
  refine ⟨(s.oldestFirst.drop (n + 1)).reverse, s.oldestFirst[n], (s.oldestFirst.take n).reverse,
    ?_, ?_, List.getElem?_eq_getElem small, rfl⟩
  · have split : s.oldestFirst.take n ++ s.oldestFirst[n] :: s.oldestFirst.drop (n + 1) =
        s.oldestFirst := by
      rw [List.getElem_cons_drop, List.take_append_drop]
    have turned := congrArg List.reverse split
    rw [List.reverse_append, List.reverse_cons, List.append_assoc] at turned
    rw [← s.states.reverse_reverse]
    exact turned.symm
  · rw [List.length_reverse, List.length_take]
    omega

/-- Each index names a state by its age or by its distance from the newest one, or none. -/
structure Indexed (s : SaveStack σ) (index : Int32) : Prop where
  age : ∀ n : Nat, index.toInt = n + 1 → n < s.depth →
    ∃ state, s.oldestFirst[n]? = some state ∧
      s.perform (.restore index) = (some state, .ofOldestFirst (s.oldestFirst.take n))
  distance : -s.depth ≤ index.toInt ∧ index.toInt ≤ -1 →
    s.perform (.restore index) = s.perform (.restore (.ofInt (s.depth + 1 + index.toInt)))
  outside : ¬ (1 ≤ index.toInt ∧ index.toInt ≤ s.depth) →
    ¬ (-s.depth ≤ index.toInt ∧ index.toInt ≤ -1) → s.perform (.restore index) = (none, s)

theorem indexed (small : s.depth < 0x80000000) (index : Int32) : s.Indexed index where
  age := by
    intro n named below
    obtain ⟨above, state, older, split, length, found, rest⟩ := exists_split below
    have same : index = .ofInt (older.length + 1) := by rw [length, ← named, Int32.ofInt_toInt]
    refine ⟨state, found, perform_restore ?_⟩
    rw [same, popTo?_of_age split small, rest]
  distance := by
    rintro ⟨inside, relative⟩
    have below : (s.depth + index.toInt).toNat < s.depth := by omega
    obtain ⟨above, state, older, split, length, -, -⟩ := exists_split below
    have far : index = .ofInt (-(s.depth - older.length)) := by
      have same : -((s.depth : Int) - older.length) = index.toInt := by omega
      rw [same, Int32.ofInt_toInt]
    have age : (s.depth : Int) + 1 + index.toInt = older.length + 1 := by omega
    rw [age, perform_restore (popTo?_of_age split small)]
    rw [far, perform_restore (popTo?_of_distance split small)]
  outside := fun young far => perform_restore_of_none (popTo?_outside young far)

/-! ## One restore in place -/

theorem run_discard (count : Nat) (s : SaveStack σ) :
    (discard count).run s = ((), ⟨s.states.drop count⟩) := by
  induction count generalizing s with
  | zero => rfl
  | succ count ih =>
    change (discard count).run ⟨s.states.tail⟩ = _
    rw [ih, List.drop_tail]

theorem run_popNewest_drop {count : Nat} (counted : popCount? s.depth index.toInt = some count) :
    popNewest.run ⟨s.states.drop (count - 1)⟩ = s.perform (.restore index) := by
  obtain ⟨positive, inside, -⟩ := popCount?_eq_some_iff.mp counted
  cases dropped : s.states.drop (count - 1) with
  | nil =>
    have short := List.drop_eq_nil_iff.mp dropped
    change s.depth ≤ count - 1 at short
    omega
  | cons state older =>
    have popped : s.popTo? index = some (state, ⟨older⟩) := by
      rw [popTo?, counted, Option.bind_eq_bind, Option.bind_some, dropped]
    rw [perform_restore popped]
    rfl

theorem toInt_cases (index : Int32) :
    index.toInt = index.toBitVec.toNat ∧ index.toBitVec.toNat < 0x80000000 ∨
      index.toInt = index.toBitVec.toNat - 0x100000000 ∧ 0x80000000 ≤ index.toBitVec.toNat := by
  have cases : index.toInt = _ := BitVec.toInt_eq_toNat_cond index.toBitVec
  split at cases
  · exact .inl ⟨cases, by omega⟩
  · exact .inr ⟨cases, by omega⟩

/-- The least index, too, has its distance as a number. -/
theorem toNat_neg (relative : index.toInt < 0) : ((-index).toUInt32.toNat : Int) = -index.toInt := by
  have word : (-index).toUInt32.toNat = (-index.toBitVec).toNat := rfl
  have small := index.toBitVec.isLt
  rw [word, BitVec.toNat_neg]
  rcases toInt_cases index with ⟨value, low⟩ | ⟨value, high⟩
  · omega
  · omega

theorem toNat_pred (absolute : 0 < index.toInt) :
    ((index - 1).toUInt32.toNat : Int) = index.toInt - 1 := by
  have word : (index - 1).toUInt32.toNat = (index.toBitVec - 1#32).toNat := rfl
  have small := index.toBitVec.isLt
  have one : (1#32).toNat = 1 := rfl
  rw [word, BitVec.toNat_sub, one]
  rcases toInt_cases index with ⟨value, -⟩ | ⟨value, -⟩
  · omega
  · omega

theorem run_restoreInPlace (s : SaveStack σ) (index : Int32) :
    (restoreInPlace index).run s = s.perform (.restore index) := by
  change StateT.run (if index < 0 then _ else _) s = _
  by_cases relative : index < 0
  · have negative : index.toInt < 0 := Int32.lt_iff_toInt_lt.mp relative
    have count := toNat_neg negative
    rw [if_pos relative]
    by_cases inside : (-index).toUInt32.toNat ≤ s.depth
    · have counted : popCount? s.depth index.toInt = some (-index).toUInt32.toNat :=
        popCount?_eq_some_iff.mpr (by omega)
      rw [if_pos inside, StateT.run_bind, run_discard]
      exact run_popNewest_drop counted
    · rw [if_neg inside]
      exact (perform_restore_of_none (popTo?_outside (by omega) (by omega))).symm
  · have nonnegative : ¬ index.toInt < 0 := fun negative => relative (Int32.lt_iff_toInt_lt.mpr negative)
    rw [if_neg relative]
    by_cases absolute : 0 < index
    · have positive : 0 < index.toInt := Int32.lt_iff_toInt_lt.mp absolute
      have position := toNat_pred positive
      rw [if_pos absolute]
      by_cases inside : (index - 1).toUInt32.toNat < s.depth
      · have counted : popCount? s.depth index.toInt =
            some (s.depth - (index - 1).toUInt32.toNat) :=
          popCount?_eq_some_iff.mpr (by omega)
        rw [if_pos inside]
        exact run_popNewest_drop counted
      · rw [if_neg inside]
        exact (perform_restore_of_none (popTo?_outside (by omega) (by omega))).symm
    · have zero : ¬ 0 < index.toInt := fun positive => absolute (Int32.lt_iff_toInt_lt.mpr positive)
      rw [if_neg absolute]
      exact (perform_restore_of_none (popTo?_outside (by omega) (by omega))).symm

/-! ## Restores among other calls -/

/-- The stack after some calls, each state with the place of the call that has saved it. -/
def numberedRun (calls : List (SaveCall σ)) : SaveStack (Nat × σ) :=
  empty.performAll (calls.mapIdx SaveCall.numbered)

def restored? (before : List (SaveCall σ)) (index : Int32) : Option (Nat × σ) :=
  ((numberedRun before).perform (.restore index)).1

variable {calls before after : List (SaveCall σ)} {call : SaveCall σ} {saved : Nat}

theorem numberedRun_concat (calls : List (SaveCall σ)) (call : SaveCall σ) :
    numberedRun (calls ++ [call]) = ((numberedRun calls).perform (call.numbered calls.length)).2 := by
  unfold numberedRun performAll
  rw [List.mapIdx_concat, List.foldl_append]
  rfl

theorem performAll_concat (s : SaveStack σ) (calls : List (SaveCall σ)) (call : SaveCall σ) :
    s.performAll (calls ++ [call]) = ((s.performAll calls).perform call).2 := List.foldl_append

def Numbers (numbered : SaveStack (Nat × σ)) (s : SaveStack σ) : Prop :=
  List.Forall₂ (fun entry state => entry.2 = state) numbered.states s.states

theorem Numbers.perform {numbered : SaveStack (Nat × σ)} (same : numbered.Numbers s) (n : Nat)
    (call : SaveCall σ) :
    (numbered.perform (call.numbered n)).1.map Prod.snd = (s.perform call).1 ∧
      (numbered.perform (call.numbered n)).2.Numbers (s.perform call).2 := by
  cases call with
  | save state => exact ⟨rfl, .cons rfl same⟩
  | restore index =>
    have popped := popTo?_alike same index
    unfold SaveStack.perform SaveCall.numbered
    dsimp only
    generalize numbered.popTo? index = p, s.popTo? index = q at popped ⊢
    cases popped with
    | none => exact ⟨rfl, same⟩
    | some popped => exact ⟨congrArg some popped.1, popped.2⟩

theorem numberedRun_numbers (calls : List (SaveCall σ)) :
    (numberedRun calls).Numbers (empty.performAll calls) := by
  induction calls using List.reverseRecOn with
  | nil => exact .nil
  | append_singleton calls call ih =>
    rw [numberedRun_concat, performAll_concat]
    exact (ih.perform calls.length call).2

/-- What is on the stack has been saved, and what lies above has been saved later. -/
structure Recorded (calls : List (SaveCall σ)) (s : SaveStack (Nat × σ)) : Prop where
  saves : ∀ entry ∈ s.states, calls[entry.1]? = some (.save entry.2)
  ordered : s.states.Pairwise fun newer older => older.1 < newer.1

theorem Recorded.lt_length {s : SaveStack (Nat × σ)} (recorded : s.Recorded calls)
    {entry : Nat × σ} (member : entry ∈ s.states) : entry.1 < calls.length :=
  (List.getElem?_eq_some_iff.mp (recorded.saves entry member)).1

theorem Recorded.concat {s : SaveStack (Nat × σ)} (recorded : s.Recorded calls)
    (call : SaveCall σ) : s.Recorded (calls ++ [call]) := by
  refine ⟨fun entry member => ?_, recorded.ordered⟩
  rw [List.getElem?_append_left (recorded.lt_length member)]
  exact recorded.saves entry member

theorem Recorded.sublist {s rest : SaveStack (Nat × σ)} (recorded : s.Recorded calls)
    (part : rest.states.Sublist s.states) : rest.Recorded calls :=
  ⟨fun entry member => recorded.saves entry (part.subset member), recorded.ordered.sublist part⟩

theorem Recorded.perform {s : SaveStack (Nat × σ)} (recorded : s.Recorded calls)
    (call : SaveCall σ) :
    (s.perform (call.numbered calls.length)).2.Recorded (calls ++ [call]) := by
  cases call with
  | save state =>
    constructor
    · intro entry member
      rcases List.mem_cons.mp member with rfl | older
      · rw [List.getElem?_concat_length]
      · exact (recorded.concat _).saves entry older
    · exact List.pairwise_cons.mpr ⟨fun entry member => recorded.lt_length member, recorded.ordered⟩
  | restore index =>
    change (s.perform (.restore index)).2.Recorded _
    cases popped : s.popTo? index with
    | none =>
      rw [perform_restore_of_none popped]
      exact recorded.concat _
    | some found =>
      have below := ((List.suffix_cons _ _).trans (popTo?_suffix popped)).sublist
      rw [perform_restore popped]
      exact (recorded.sublist below).concat _

theorem numberedRun_recorded (calls : List (SaveCall σ)) : (numberedRun calls).Recorded calls := by
  induction calls using List.reverseRecOn with
  | nil => exact ⟨fun _ member => absurd member List.not_mem_nil, .nil⟩
  | append_singleton calls call ih =>
    rw [numberedRun_concat]
    exact ih.perform call

theorem mem_perform {s : SaveStack (Nat × σ)} {n : Nat} {entry : Nat × σ}
    (member : entry ∈ (s.perform (call.numbered n)).2.states) : entry ∈ s.states ∨ entry.1 = n := by
  cases call with
  | save state =>
    rcases List.mem_cons.mp member with rfl | older
    · exact Or.inr rfl
    · exact Or.inl older
  | restore index =>
    change entry ∈ (s.perform (.restore index)).2.states at member
    cases popped : s.popTo? index with
    | none =>
      rw [perform_restore_of_none popped] at member
      exact Or.inl member
    | some found =>
      rw [perform_restore popped] at member
      exact Or.inl ((popTo?_suffix popped).subset (List.mem_cons_of_mem _ member))

theorem mem_numberedRun_append {entry : Nat × σ}
    (member : entry ∈ (numberedRun (before ++ after)).states) :
    entry ∈ (numberedRun before).states ∨ before.length ≤ entry.1 := by
  induction after using List.reverseRecOn with
  | nil =>
    rw [List.append_nil] at member
    exact Or.inl member
  | append_singleton after call ih =>
    rw [← List.append_assoc, numberedRun_concat] at member
    rcases mem_perform member with older | newest
    · exact ih older
    · rw [newest, List.length_append]
      exact Or.inr (Nat.le_add_right _ _)

theorem exists_popped {entry : Nat × σ} (given : restored? before index = some entry) :
    ∃ rest, (numberedRun before).popTo? index = some (entry, rest) ∧
      numberedRun (before ++ [.restore index]) = rest := by
  rw [numberedRun_concat]
  change ∃ rest, _ ∧ ((numberedRun before).perform (.restore index)).2 = rest
  unfold restored? at given
  cases popped : (numberedRun before).popTo? index with
  | none =>
    rw [perform_restore_of_none popped] at given
    cases given
  | some found =>
    rw [perform_restore popped] at given ⊢
    cases given
    exact ⟨found.2, rfl, rfl⟩

structure Answers (before : List (SaveCall σ)) (index : Int32) (saved : Nat) (state : σ) :
    Prop where
  saves : before[saved]? = some (.save state)
  discards : ∀ entry ∈ (numberedRun (before ++ [.restore index])).states, entry.1 < saved
  later : ∀ between index' saved' state',
    restored? (before ++ .restore index :: between) index' = some (saved', state') →
    saved' < saved ∨ before.length < saved'

theorem restored?_answers (given : restored? before index = some (saved, state)) :
    Answers before index saved state := by
  obtain ⟨rest, popped, left⟩ := exists_popped given
  have recorded := (numberedRun_recorded before).sublist (popTo?_suffix popped).sublist
  have discards : ∀ entry ∈ (numberedRun (before ++ [.restore index])).states, entry.1 < saved := by
    rw [left]
    exact (List.pairwise_cons.mp recorded.ordered).1
  refine ⟨recorded.saves _ List.mem_cons_self, discards, ?_⟩
  intro between index' saved' state' given'
  obtain ⟨rest', popped', -⟩ := exists_popped given'
  have member := (popTo?_suffix popped').subset List.mem_cons_self
  rw [List.append_cons] at member
  rcases mem_numberedRun_append member with older | newer
  · exact Or.inl (discards _ older)
  · rw [List.length_append] at newer
    exact Or.inr newer

/-- A restore by a positive index gives back the state of that age and keeps the older ones; a
negative index counts from the newest state on, and any other one does nothing. Among whatever
calls, each state comes from a save before: the states saved since then are gone, and a later
restore gives back one that was saved earlier still, or after this restore. -/
theorem restore_answers (small : s.depth < 0x80000000) (index : Int32)
    (before : List (SaveCall σ)) :
    s.Indexed index ∧ (restoreInPlace index).run s = s.perform (.restore index) ∧
    ((empty.performAll before).perform (.restore index)).1 =
      (restored? before index).map Prod.snd ∧
    ∀ saved state, restored? before index = some (saved, state) →
      Answers before index saved state := by
  have same := (numberedRun_numbers before).perform before.length (.restore index)
  exact ⟨indexed small index, run_restoreInPlace s index, same.1.symm,
    fun _ _ given => restored?_answers given⟩

def equalSaves : List (SaveCall Nat) := [.save 5, .save 7, .save 5, .restore (-2), .save 7]

/-- On four states, the least index names none. Among saves of equal states, the restore of the
oldest one gives back the first save. -/
theorem restore_answers_equalSaves :
    (⟨[4, 3, 2, 1]⟩ : SaveStack Nat).depth < 0x80000000 ∧
    (⟨[4, 3, 2, 1]⟩ : SaveStack Nat).Indexed Int32.minValue ∧
    restored? equalSaves 1 = some (0, 5) ∧ Answers equalSaves 1 0 5 := by
  have small : (⟨[4, 3, 2, 1]⟩ : SaveStack Nat).depth < 0x80000000 := by decide
  have given : restored? equalSaves 1 = some (0, 5) := by decide
  obtain ⟨indexed, -⟩ := restore_answers small Int32.minValue equalSaves
  obtain ⟨-, -, -, answers⟩ := restore_answers small 1 equalSaves
  exact ⟨small, indexed, given, answers 0 5 given⟩

end SaveStack

end Metafile
