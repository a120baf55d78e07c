import Mathlib.Data.List.Induction
import Metafile.Proofs.FreeHandle
import Metafile.Proofs.InPlace
import Metafile.Proofs.Realization

/-! # Calls on an object table

Whatever is asked of a table, each selected handle has an object of the kind it is selected for. A
call that is refused leaves the table as it is, also when the table is changed in place, where an
object is taken out before it is known whether there was one. -/
namespace Metafile

inductive TableCall where
  | create (object : GraphicsObject)
  | insert (handle : UInt32) (object : GraphicsObject)
  | delete (handle : UInt32)
  | select (handle : UInt32)
  | deselect (kind : ObjectKind)

inductive TableReply where
  | handle (handle : UInt32)
  | object (object : GraphicsObject)
  | kind (kind : ObjectKind)
  | done

abbrev TableUpdate := InPlace ObjectTable

namespace TableUpdate

def put (handle : UInt32) (object : GraphicsObject) : TableUpdate Unit :=
  modify fun t => { t with entries := (handle, object) :: t.entries.filter (·.1 != handle) }

def take? (handle : UInt32) : TableUpdate (Option GraphicsObject) :=
  modifyGet fun t => (t.get? handle, { t with entries := t.entries.filter (·.1 != handle) })

def create (object : GraphicsObject) : TableUpdate UInt32 := do
  let handle := (← get).freeHandle
  put handle object
  return handle

def insert (handle : UInt32) (object : GraphicsObject) : TableUpdate Unit := do
  if handle = 0 then throw (.unknownHandle 0)
  if (← get).contains handle then throw (.duplicateHandle handle 0)
  put handle object

def delete (handle : UInt32) : TableUpdate GraphicsObject := do
  match ← take? handle with
  | none => throw (.unknownHandle handle)
  | some object =>
    modify fun t => { t with selection := fun kind => (t.selection kind).filter (· != handle) }
    return object

def select (handle : UInt32) : TableUpdate ObjectKind := do
  match (← get).get? handle with
  | none => throw (.unknownHandle handle)
  | some object =>
    modify fun t => t.choose object.kind handle
    return object.kind

def deselect (kind : ObjectKind) : TableUpdate Unit :=
  modify fun t => t.deselect kind

end TableUpdate

def TableCall.inPlace : TableCall → TableUpdate TableReply
  | create object => .handle <$> TableUpdate.create object
  | insert handle object => (fun _ => .done) <$> TableUpdate.insert handle object
  | delete handle => .object <$> TableUpdate.delete handle
  | select handle => .kind <$> TableUpdate.select handle
  | deselect kind => (fun _ => .done) <$> TableUpdate.deselect kind

namespace ObjectTable

abbrev Outcome := Except Error TableReply × ObjectTable

def perform (t : ObjectTable) : TableCall → Outcome
  | .create object => (.ok (.handle (t.create object).1), (t.create object).2)
  | .insert handle object => InPlace.keep t ((t.insert handle object).map fun next => (.done, next))
  | .delete handle =>
      InPlace.keep t ((t.delete handle).map fun (object, next) => (.object object, next))
  | .select handle => InPlace.keep t ((t.select handle).map fun (kind, next) => (.kind kind, next))
  | .deselect kind => (.ok .done, t.deselect kind)

def performAll (t : ObjectTable) (calls : List TableCall) : ObjectTable :=
  calls.foldl (fun t call => (t.perform call).2) t

variable {t : ObjectTable} {handle : UInt32} {object : GraphicsObject}

theorem insert_eq (t : ObjectTable) (handle : UInt32) (object : GraphicsObject) :
    t.insert handle object =
      if handle = 0 then .error (.unknownHandle 0)
      else if t.contains handle then .error (.duplicateHandle handle 0)
      else .ok (t.add handle object) := rfl

end ObjectTable

namespace TableUpdate

variable (handle : UInt32) (t : ObjectTable)

/-- An object is put in place of none, as the handle is not in use. -/
theorem outcome_insert (object : GraphicsObject) :
    (insert handle object).outcome t =
      InPlace.keep t ((t.insert handle object).map fun next => ((), next)) := by
  rw [ObjectTable.insert_eq, insert]
  by_cases zero : handle = 0
  · rw [if_pos zero, if_pos zero]
    rfl
  · rw [if_neg zero, if_neg zero]
    change InPlace.outcome (get >>= _) t = _
    rw [InPlace.outcome_get]
    by_cases used : t.contains handle = true
    · rw [if_pos used, if_pos used]
      rfl
    · have absent : handle ∉ t.handles := by rwa [← ObjectTable.contains_iff]
      rw [if_neg used, if_neg used]
      change (_, { t with entries := (handle, object) :: t.entries.filter (·.1 != handle) }) = _
      rw [ObjectTable.filter_of_absent absent]
      rfl

/-- Taking out an object that is not there has changed nothing. -/
theorem outcome_delete : (delete handle).outcome t = InPlace.keep t (t.delete handle) := by
  rw [ObjectTable.delete_eq, delete, take?, InPlace.outcome_modifyGet]
  cases found : t.get? handle with
  | none =>
    change (_, { t with entries := t.entries.filter (·.1 != handle) }) = _
    rw [ObjectTable.filter_of_absent (ObjectTable.get?_eq_none_iff.mp found)]
    rfl
  | some object => rfl

theorem outcome_select : (select handle).outcome t = InPlace.keep t (t.select handle) := by
  rw [ObjectTable.select_eq, select, InPlace.outcome_get]
  cases t.get? handle <;> rfl

end TableUpdate

namespace ObjectTable

theorem inPlace_eq (t : ObjectTable) (call : TableCall) :
    call.inPlace.outcome t = t.perform call := by
  cases call with
  | create object => rfl
  | insert handle object =>
    rw [TableCall.inPlace, InPlace.outcome_map, TableUpdate.outcome_insert, perform]
    cases t.insert handle object <;> rfl
  | delete handle =>
    rw [TableCall.inPlace, InPlace.outcome_map, TableUpdate.outcome_delete, perform,
      InPlace.keep_map]
  | select handle =>
    rw [TableCall.inPlace, InPlace.outcome_map, TableUpdate.outcome_select, perform,
      InPlace.keep_map]
  | deselect kind => rfl

variable {t : ObjectTable} {handle : UInt32} {object : GraphicsObject}

theorem get?_remove_self : (t.remove handle).get? handle = none :=
  get?_eq_none_iff.mpr fun member => (mem_handles_remove.mp member).2 rfl

theorem mem_handles_iff : handle ∈ t.handles ↔ ∃ object, t.get? handle = some object := by
  rw [← Option.ne_none_iff_exists', ne_eq, get?_eq_none_iff, not_not]

structure Gains (t : ObjectTable) (handle : UInt32) (object : GraphicsObject) (next : ObjectTable) :
    Prop where
  nonzero : handle ≠ 0
  absent : t.get? handle = none
  stored : next.get? handle = some object
  others : ∀ other, other ≠ handle → next.get? other = t.get? other
  selection : next.selection = t.selection

structure Loses (t : ObjectTable) (handle : UInt32) (object : GraphicsObject) (next : ObjectTable) :
    Prop where
  stored : t.get? handle = some object
  absent : next.get? handle = none
  others : ∀ other, other ≠ handle → next.get? other = t.get? other
  ended : ∀ kind, t.selection kind = some handle → next.selection kind = none
  kept : ∀ kind, t.selection kind ≠ some handle → next.selection kind = t.selection kind

structure Reselects (t : ObjectTable) (kind : ObjectKind) (selected : Option UInt32)
    (next : ObjectTable) : Prop where
  objects : next.get? = t.get?
  selected : next.selection kind = selected
  kept : ∀ other, other ≠ kind → next.selection other = t.selection other

/-- What a call may come to. -/
inductive Does (t : ObjectTable) : TableCall → Outcome → Prop where
  | created {handle : UInt32} {object : GraphicsObject} {next : ObjectTable}
      (gains : t.Gains handle object next) :
      t.Does (.create object) (.ok (.handle handle), next)
  | inserted {handle : UInt32} {object : GraphicsObject} {next : ObjectTable}
      (gains : t.Gains handle object next) :
      t.Does (.insert handle object) (.ok .done, next)
  | insertedAtZero {object : GraphicsObject} :
      t.Does (.insert 0 object) (.error (.unknownHandle 0), t)
  | insertedTwice {handle : UInt32} {object other : GraphicsObject}
      (stored : t.get? handle = some other) :
      t.Does (.insert handle object) (.error (.duplicateHandle handle 0), t)
  | deleted {handle : UInt32} {object : GraphicsObject} {next : ObjectTable}
      (loses : t.Loses handle object next) :
      t.Does (.delete handle) (.ok (.object object), next)
  | deletedUnknown {handle : UInt32} (absent : t.get? handle = none) :
      t.Does (.delete handle) (.error (.unknownHandle handle), t)
  | selected {handle : UInt32} {object : GraphicsObject} {next : ObjectTable}
      (stored : t.get? handle = some object)
      (reselects : t.Reselects object.kind (some handle) next) :
      t.Does (.select handle) (.ok (.kind object.kind), next)
  | selectedUnknown {handle : UInt32} (absent : t.get? handle = none) :
      t.Does (.select handle) (.error (.unknownHandle handle), t)
  | deselected {kind : ObjectKind} {next : ObjectTable} (reselects : t.Reselects kind none next) :
      t.Does (.deselect kind) (.ok .done, next)

theorem add_gains (nonzero : handle ≠ 0) (absent : handle ∉ t.handles) :
    t.Gains handle object (t.add handle object) where
  nonzero := nonzero
  absent := get?_eq_none_iff.mpr absent
  stored := get?_add_self
  others := fun _ apart => get?_add apart
  selection := rfl

theorem remove_loses (stored : t.get? handle = some object) :
    t.Loses handle object (t.remove handle) where
  stored := stored
  absent := get?_remove_self
  others := fun _ apart => get?_remove apart
  ended := by
    intro kind chosen
    change (t.selection kind).filter _ = none
    rw [chosen, Option.filter_some, bne_self_eq_false]
    rfl
  kept := by
    intro kind apart
    change (t.selection kind).filter _ = _
    cases chosen : t.selection kind with
    | none => rfl
    | some other =>
      rw [chosen] at apart
      have other_ne : other ≠ handle := fun same => apart (congrArg some same)
      rw [Option.filter_some, if_pos (bne_iff_ne.mpr other_ne)]

theorem choose_reselects (t : ObjectTable) (kind : ObjectKind) (handle : UInt32) :
    t.Reselects kind (some handle) (t.choose kind handle) :=
  ⟨rfl, if_pos rfl, fun _ apart => if_neg apart⟩

theorem deselect_reselects (t : ObjectTable) (kind : ObjectKind) :
    t.Reselects kind none (t.deselect kind) :=
  ⟨rfl, if_pos rfl, fun _ apart => if_neg apart⟩

def HasRoomFor (t : ObjectTable) (call : TableCall) : Prop :=
  ∀ object, call = .create object → t.size < UInt32.size - 1

theorem perform_create (room : t.size < UInt32.size - 1) (object : GraphicsObject) :
    t.perform (.create object) = (.ok (.handle t.freeHandle), t.add t.freeHandle object) := by
  rw [perform, create_eq room]

theorem perform_does {call : TableCall} (room : t.HasRoomFor call) :
    t.Does call (t.perform call) := by
  cases call with
  | create object =>
    have room := room object rfl
    have ⟨nonzero, absent, _⟩ := freeHandle_leastFree room
    rw [perform_create room]
    exact .created (add_gains nonzero absent)
  | insert handle object =>
    change t.Does _ (InPlace.keep t ((t.insert handle object).map _))
    rw [insert_eq]
    split
    · rename_i zero
      rw [zero]
      exact .insertedAtZero
    split
    · rename_i used
      obtain ⟨other, stored⟩ := mem_handles_iff.mp (contains_iff.mp used)
      exact .insertedTwice stored
    · rename_i nonzero absent
      rw [contains_iff] at absent
      exact .inserted (add_gains nonzero absent)
  | delete handle =>
    rw [perform, delete_eq]
    cases stored : t.get? handle with
    | none => exact .deletedUnknown stored
    | some object => exact .deleted (remove_loses stored)
  | select handle =>
    rw [perform, select_eq]
    cases stored : t.get? handle with
    | none => exact .selectedUnknown stored
    | some object => exact .selected stored (t.choose_reselects object.kind handle)
  | deselect kind => exact .deselected (t.deselect_reselects kind)

structure Intact (t : ObjectTable) : Prop where
  zero : 0 ∉ t.handles
  distinct : t.handles.Nodup
  sound : t.Sound

theorem Sound.isSome_selected? (sound : t.Sound) (kind : ObjectKind) :
    (t.selected? kind).isSome = (t.selection kind).isSome := by
  unfold selected?
  cases chosen : t.selection kind with
  | none => rfl
  | some handle =>
    obtain ⟨object, stored, -⟩ := sound kind handle chosen
    rw [Option.bind_some, stored]
    rfl

theorem intact_empty : empty.Intact :=
  ⟨List.not_mem_nil, List.nodup_nil, sound_empty⟩

theorem Intact.add (intact : t.Intact) (nonzero : handle ≠ 0) (absent : handle ∉ t.handles) :
    (t.add handle object).Intact where
  zero := by
    rw [handles_add, List.mem_cons, not_or]
    exact ⟨nonzero.symm, intact.zero⟩
  distinct := List.nodup_cons.mpr ⟨absent, intact.distinct⟩
  sound := intact.sound.add absent

theorem Intact.remove (intact : t.Intact) : (t.remove handle).Intact where
  zero := fun member => intact.zero (mem_handles_remove.mp member).1
  distinct := intact.distinct.sublist (List.filter_sublist.map _)
  sound := intact.sound.remove

theorem Intact.perform (intact : t.Intact) {call : TableCall} (room : t.HasRoomFor call) :
    (t.perform call).2.Intact := by
  cases call with
  | create object =>
    have room := room object rfl
    have ⟨nonzero, absent, _⟩ := freeHandle_leastFree room
    rw [perform_create room]
    exact intact.add nonzero absent
  | insert handle object =>
    change (InPlace.keep t ((t.insert handle object).map _)).2.Intact
    rw [insert_eq]
    split
    · exact intact
    split
    · exact intact
    · rename_i nonzero absent
      rw [contains_iff] at absent
      exact intact.add nonzero absent
  | delete handle =>
    rw [ObjectTable.perform, delete_eq]
    cases t.get? handle with
    | none => exact intact
    | some object => exact intact.remove
  | select handle =>
    rw [ObjectTable.perform, select_eq]
    cases stored : t.get? handle with
    | none => exact intact
    | some object => exact ⟨intact.zero, intact.distinct, intact.sound.choose stored⟩
  | deselect kind => exact ⟨intact.zero, intact.distinct, intact.sound.deselect kind⟩

def Roomy (calls : List TableCall) : Prop :=
  ∀ before call after, calls = before ++ call :: after →
    (empty.performAll before).HasRoomFor call

theorem performAll_concat (t : ObjectTable) (calls : List TableCall) (call : TableCall) :
    t.performAll (calls ++ [call]) = ((t.performAll calls).perform call).2 := List.foldl_append

theorem Roomy.intact {before after : List TableCall} (roomy : Roomy (before ++ after)) :
    (empty.performAll before).Intact := by
  induction before using List.reverseRecOn generalizing after with
  | nil => exact intact_empty
  | append_singleton before call ih =>
    rw [List.append_assoc, List.singleton_append] at roomy
    rw [performAll_concat]
    exact (ih roomy).perform (roomy before call after rfl)

/-- At any place in a run of calls handle zero is not in use, and what is selected is a stored
object of its kind. A call that is refused changes nothing, one that is carried out changes the
objects and the selections that it is about, and changing the table in place comes to the same. -/
theorem performAll_intact {calls before after : List TableCall} (roomy : Roomy calls)
    (split : calls = before ++ after) :
    (empty.performAll before).Intact ∧
    (∀ kind, ((empty.performAll before).selected? kind).isSome =
      ((empty.performAll before).selection kind).isSome) ∧
    ∀ call rest, after = call :: rest →
      (empty.performAll before).Does call ((empty.performAll before).perform call) ∧
      call.inPlace.outcome (empty.performAll before) = (empty.performAll before).perform call := by
  subst split
  have intact := roomy.intact
  refine ⟨intact, intact.sound.isSome_selected?, ?_⟩
  rintro call rest rfl
  exact ⟨perform_does (roomy before call rest rfl), inPlace_eq _ call⟩

def reusedHandle : List TableCall :=
  [.insert 1 (.pen ⟨0, 1, ⟨255⟩⟩), .select 1, .delete 1, .create (.brush ⟨0, ⟨255⟩, 0⟩)]

/-- The brush has the handle of the pen, and a palette is refused it; no pen is selected. -/
theorem performAll_intact_reusedHandle :
    Roomy (reusedHandle ++ [.insert 1 (.palette [])]) ∧ (empty.performAll reusedHandle).Intact ∧
    ((empty.performAll reusedHandle).selected? .pen).isSome = false ∧
    (empty.performAll reusedHandle).Does (.insert 1 (.palette []))
      (.error (.duplicateHandle 1 0), empty.performAll reusedHandle) := by
  have roomy : Roomy (reusedHandle ++ [.insert 1 (.palette [])]) := by
    rintro before call after split object rfl
    simp [reusedHandle, List.cons_eq_append_iff] at split
    rw [split.1]
    decide
  obtain ⟨intact, selected, next⟩ := performAll_intact roomy rfl
  obtain ⟨does, -⟩ := next _ _ rfl
  exact ⟨roomy, intact, (selected .pen).trans rfl, does⟩

end ObjectTable

end Metafile
