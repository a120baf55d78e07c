import Metafile.Playback.Apply

/-! # Steps on objects

What each record about objects does to the context and when it fails, by the handle it names. -/
namespace Metafile

/-- The handle that the record names without creating an object. -/
def Record.namedHandle? : Record → Option UInt32
  | .selectObject handle | .selectPalette handle | .deleteObject handle => some handle
  | _ => none

namespace ObjectTable

def choose (t : ObjectTable) (kind : ObjectKind) (handle : UInt32) : ObjectTable :=
  { t with selection := fun k => if k = kind then some handle else t.selection k }

def remove (t : ObjectTable) (handle : UInt32) : ObjectTable where
  entries := t.entries.filter (·.1 != handle)
  selection := fun kind => (t.selection kind).filter (· != handle)

theorem handles_add (t : ObjectTable) (handle : UInt32) (object : GraphicsObject) :
    (t.add handle object).handles = handle :: t.handles := rfl

theorem mem_handles_remove {t : ObjectTable} {handle other : UInt32} :
    other ∈ (t.remove handle).handles ↔ other ∈ t.handles ∧ other ≠ handle := by
  simp only [handles, remove, List.mem_map, List.mem_filter, bne_iff_ne]
  constructor
  · rintro ⟨entry, ⟨member, kept⟩, rfl⟩
    exact ⟨⟨entry, member, rfl⟩, kept⟩
  · rintro ⟨⟨entry, member, rfl⟩, kept⟩
    exact ⟨entry, ⟨member, kept⟩, rfl⟩

theorem contains_iff {t : ObjectTable} {handle : UInt32} :
    t.contains handle = true ↔ handle ∈ t.handles := List.contains_iff_mem

theorem get?_eq_none_iff {t : ObjectTable} {handle : UInt32} :
    t.get? handle = none ↔ handle ∉ t.handles := by
  simp only [get?, List.lookup_eq_none_iff, handles, List.mem_map, bne_iff_ne]
  constructor
  · rintro other ⟨entry, member, rfl⟩
    exact other entry member rfl
  · rintro absent entry member rfl
    exact absent ⟨entry, member, rfl⟩

theorem get?_add {t : ObjectTable} {handle other : UInt32} {object : GraphicsObject}
    (apart : other ≠ handle) : (t.add handle object).get? other = t.get? other := by
  change List.lookup other ((handle, object) :: t.entries) = _
  rw [List.lookup_cons, beq_eq_false_iff_ne.mpr apart]
  rfl

theorem get?_remove {t : ObjectTable} {handle other : UInt32} (apart : other ≠ handle) :
    (t.remove handle).get? other = t.get? other := by
  change (t.entries.filter _).lookup other = t.entries.lookup other
  induction t.entries with
  | nil => rfl
  | cons entry entries ih =>
    rw [List.lookup_cons, List.filter_cons]
    by_cases gone : entry.1 = handle
    · rw [if_neg (by simpa using gone), beq_eq_false_iff_ne.mpr (gone ▸ apart)]
      exact ih
    · rw [if_pos (by simpa using gone), List.lookup_cons, ih]

theorem get?_choose (t : ObjectTable) (kind : ObjectKind) (handle other : UInt32) :
    (t.choose kind handle).get? other = t.get? other := rfl

theorem select_eq (t : ObjectTable) (handle : UInt32) :
    t.select handle = match t.get? handle with
      | some object => .ok (object.kind, t.choose object.kind handle)
      | none => .error (.unknownHandle handle) := by
  unfold select get
  cases t.get? handle <;> rfl

theorem delete_eq (t : ObjectTable) (handle : UInt32) :
    t.delete handle = match t.get? handle with
      | some object => .ok (object, t.remove handle)
      | none => .error (.unknownHandle handle) := by
  unfold delete get
  cases t.get? handle <;> rfl

end ObjectTable

namespace Context

variable (c : Context) (handle : UInt32)

theorem insertObject_eq (object : GraphicsObject) :
    c.insertObject handle object =
      if handle = 0 then (c, some (.unknownHandle 0))
      else if c.objects.contains handle then (c, some (.duplicateHandle handle 0))
      else ({ c with objects := c.objects.add handle object }, none) := by
  unfold insertObject ObjectTable.insert
  split
  · rfl
  split <;> rfl

theorem selectObject_eq (created : Stock.isStock handle = false) :
    c.selectObject handle = match c.objects.get? handle with
      | some object =>
          ({ c with
              objects := c.objects.choose object.kind handle
              state := c.state.drawWith object }, none)
      | none => (c, some (.unknownHandle handle)) := by
  rw [selectObject, created, ObjectTable.select_eq]
  cases found : c.objects.get? handle with
  | none => rfl
  | some object =>
    have still : (c.objects.choose object.kind handle).get handle = .ok object := by
      unfold ObjectTable.get
      rw [ObjectTable.get?_choose, found]
    change Context.proceed _ ((c.objects.choose object.kind handle).get handle) _ = _
    rw [still]
    rfl

theorem selectPalette_eq (other : handle ≠ Stock.defaultPalette) :
    c.selectPalette handle = match c.objects.get? handle with
      | some object => ({ c with objects := c.objects.choose object.kind handle }, none)
      | none => (c, some (.unknownHandle handle)) := by
  rw [selectPalette, if_neg other, ObjectTable.select_eq]
  cases c.objects.get? handle <;> rfl

theorem deleteObject_eq (created : Stock.isStock handle = false) :
    c.deleteObject handle = match c.objects.get? handle with
      | some _ => ({ c with objects := c.objects.remove handle }, none)
      | none => (c, some (.unknownHandle handle)) := by
  rw [deleteObject, created, ObjectTable.delete_eq]
  cases c.objects.get? handle <;> rfl

theorem selectStock_eq :
    (∃ kind state, c.selectStock handle =
      ({ c with objects := c.objects.deselect kind, state }, none)) ∨
    c.selectStock handle = (c, some (.unknownHandle handle)) := by
  unfold selectStock
  split
  · exact Or.inl ⟨_, _, rfl⟩
  · exact Or.inl ⟨_, _, rfl⟩
  split
  · exact Or.inl ⟨_, _, rfl⟩
  split
  · exact Or.inl ⟨_, _, rfl⟩
  · exact Or.inr rfl

/-- A step that looks a handle up changes the table and maybe what is drawn with, or it does not
find the handle and changes nothing. -/
def LooksUp (outcome : Outcome) : Prop :=
  (∃ objects state, outcome = ({ c with objects, state }, none)) ∨
    outcome = (c, some (.unknownHandle handle))

theorem selectObject_looksUp : c.LooksUp handle (c.selectObject handle) := by
  cases stock : Stock.isStock handle with
  | true =>
    rw [selectObject, stock]
    rcases c.selectStock_eq handle with ⟨kind, state, stocked⟩ | refused
    · exact Or.inl ⟨_, state, stocked⟩
    · exact Or.inr refused
  | false =>
    rw [c.selectObject_eq handle stock]
    split
    · exact Or.inl ⟨_, _, rfl⟩
    · exact Or.inr rfl

theorem selectPalette_looksUp : c.LooksUp handle (c.selectPalette handle) := by
  by_cases default : handle = Stock.defaultPalette
  · rw [selectPalette, if_pos default]
    exact Or.inl ⟨_, _, rfl⟩
  · rw [c.selectPalette_eq handle default]
    split
    · exact Or.inl ⟨_, _, rfl⟩
    · exact Or.inr rfl

theorem deleteObject_looksUp : c.LooksUp handle (c.deleteObject handle) := by
  cases stock : Stock.isStock handle with
  | true =>
    rw [deleteObject, stock]
    exact Or.inl ⟨_, _, rfl⟩
  | false =>
    rw [c.deleteObject_eq handle stock]
    split
    · exact Or.inl ⟨_, _, rfl⟩
    · exact Or.inr rfl

theorem mem_handles_insertObject (object : GraphicsObject) (nonzero : handle ≠ 0)
    (other : UInt32) : other ∈ (c.insertObject handle object).1.objects.handles ↔
      other = handle ∨ other ∈ c.objects.handles := by
  rw [insertObject_eq, if_neg nonzero]
  by_cases used : c.objects.contains handle = true
  · rw [if_pos used]
    constructor
    · exact Or.inr
    · rintro (rfl | member)
      · exact ObjectTable.contains_iff.mp used
      · exact member
  · rw [if_neg used]
    change other ∈ (c.objects.add handle object).handles ↔ _
    rw [ObjectTable.handles_add, List.mem_cons]

theorem selectObject_handles :
    (c.selectObject handle).1.objects.handles = c.objects.handles := by
  cases stock : Stock.isStock handle with
  | true =>
    rw [selectObject, stock]
    rcases c.selectStock_eq handle with ⟨kind, state, stocked⟩ | refused
    · exact congrArg (·.1.objects.handles) stocked
    · exact congrArg (·.1.objects.handles) refused
  | false =>
    rw [c.selectObject_eq handle stock]
    split <;> rfl

theorem selectPalette_handles :
    (c.selectPalette handle).1.objects.handles = c.objects.handles := by
  by_cases default : handle = Stock.defaultPalette
  · rw [selectPalette, if_pos default]
    rfl
  · rw [c.selectPalette_eq handle default]
    split <;> rfl

/-- Deleting takes a handle away; that of a stock object is not in the table to begin with. -/
theorem mem_handles_deleteObject
    (created : ∀ handle ∈ c.objects.handles, Stock.isStock handle = false) (other : UInt32) :
    other ∈ (c.deleteObject handle).1.objects.handles ↔
      other ∈ c.objects.handles ∧ other ≠ handle := by
  cases stock : Stock.isStock handle with
  | true =>
    rw [deleteObject, stock]
    refine (and_iff_left_of_imp ?_).symm
    rintro member rfl
    rw [created other member] at stock
    cases stock
  | false =>
    rw [c.deleteObject_eq handle stock]
    cases found : c.objects.get? handle with
    | some object => exact ObjectTable.mem_handles_remove
    | none =>
      rw [ObjectTable.get?_eq_none_iff] at found
      refine (and_iff_left_of_imp ?_).symm
      rintro member rfl
      exact found member

end Context

end Metafile
