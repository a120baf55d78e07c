import Mathlib.Data.List.Nodup
import Metafile.Proofs.ObjectStep

/-! # Free handles

A new object is stored under the smallest positive handle that is not in use. The search through all
positive handles ends among as many as are in use and one more; only on a full table would it come to
the largest handle, and put the object in the place of another. -/
namespace Metafile

namespace ObjectTable

variable {t : ObjectTable} {handle : UInt32} {object : GraphicsObject} {count : Nat}

def firstHandles (count : Nat) : List UInt32 :=
  (List.range count).map fun n => UInt32.ofNat (n + 1)

theorem toNat_ofNat_succ {n : Nat} (small : count < UInt32.size) (below : n < count) :
    (UInt32.ofNat (n + 1)).toNat = n + 1 :=
  UInt32.toNat_ofNat_of_lt' (by omega)

theorem ofNat_toNat_pred (nonzero : handle ≠ 0) :
    handle.toNat ≠ 0 ∧ UInt32.ofNat (handle.toNat - 1 + 1) = handle := by
  have positive : handle.toNat ≠ 0 := fun zero => nonzero (UInt32.toNat_inj.mp zero)
  refine ⟨positive, ?_⟩
  rw [Nat.sub_add_cancel (by omega), UInt32.ofNat_toNat]

theorem mem_firstHandles_iff (small : count < UInt32.size) :
    handle ∈ firstHandles count ↔ handle ≠ 0 ∧ handle.toNat ≤ count := by
  constructor
  · intro member
    obtain ⟨n, below, rfl⟩ := List.mem_map.mp member
    have value := toNat_ofNat_succ small (List.mem_range.mp below)
    refine ⟨fun zero => ?_, ?_⟩
    · rw [zero] at value
      cases value
    · rw [value]
      exact List.mem_range.mp below
  · rintro ⟨nonzero, le⟩
    obtain ⟨positive, same⟩ := ofNat_toNat_pred nonzero
    exact List.mem_map.mpr ⟨handle.toNat - 1, List.mem_range.mpr (by omega), same⟩

theorem nodup_firstHandles (small : count < UInt32.size) : (firstHandles count).Nodup := by
  refine List.Nodup.map_on (fun n below m below' same => ?_) List.nodup_range
  have values := congrArg UInt32.toNat same
  rw [toNat_ofNat_succ small (List.mem_range.mp below),
    toNat_ofNat_succ small (List.mem_range.mp below')] at values
  exact Nat.succ.inj values

theorem exists_free (t : ObjectTable) (room : t.size < UInt32.size - 1) :
    ∃ handle ∈ firstHandles (t.size + 1), handle ∉ t.handles := by
  by_contra! crowded
  have few := (nodup_firstHandles (by omega)).length_le_of_subset crowded
  rw [firstHandles, handles, List.length_map, List.length_map, List.length_range] at few
  exact absurd few (Nat.not_succ_le_self _)

structure LeastFree (t : ObjectTable) (handle : UInt32) : Prop where
  nonzero : handle ≠ 0
  unused : handle ∉ t.handles
  least : ∀ other, other ≠ 0 → other ∉ t.handles → handle ≤ other

theorem LeastFree.unique {other : UInt32} (free : t.LeastFree handle) (free' : t.LeastFree other) :
    handle = other :=
  UInt32.le_antisymm (free.least other free'.nonzero free'.unused)
    (free'.least handle free.nonzero free.unused)

/-- The first free handle of the positive ones up to some number, and the largest of all handles if
none of these is free. -/
def searchUpTo (t : ObjectTable) (count : Nat) : UInt32 :=
  ((firstHandles count).find? fun handle => !t.contains handle).getD
    (UInt32.ofNat (UInt32.size - 1))

theorem leastFree_of_find? (small : count < UInt32.size)
    (found : (firstHandles count).find? (fun handle => !t.contains handle) = some handle) :
    t.LeastFree handle := by
  have nonzero := ((mem_firstHandles_iff small).mp (List.mem_of_find?_eq_some found)).1
  rw [firstHandles, List.find?_map, Option.map_eq_some_iff] at found
  obtain ⟨n, first, rfl⟩ := found
  obtain ⟨unused, below, passed⟩ := List.find?_range_eq_some.mp first
  rw [List.mem_range] at below
  refine ⟨nonzero, by simpa [← contains_iff] using unused, fun other nonzero' free => ?_⟩
  by_contra smaller
  rw [UInt32.not_le, UInt32.lt_iff_toNat_lt, toNat_ofNat_succ small below] at smaller
  obtain ⟨positive, same⟩ := ofNat_toNat_pred nonzero'
  have used := passed (other.toNat - 1) (by omega)
  simp only [Function.comp_apply, same, Bool.not_not, contains_iff] at used
  exact free used

theorem searchUpTo_leastFree (small : count < UInt32.size)
    (free : ∃ handle ∈ firstHandles count, handle ∉ t.handles) :
    t.LeastFree (t.searchUpTo count) := by
  unfold searchUpTo
  cases found : (firstHandles count).find? fun handle => !t.contains handle with
  | some handle => exact leastFree_of_find? small found
  | none =>
    obtain ⟨handle, member, unused⟩ := free
    have used := List.find?_eq_none.mp found handle member
    rw [Bool.not_eq_true', Bool.not_eq_false, contains_iff] at used
    exact absurd used unused

theorem freeHandle_leastFree (room : t.size < UInt32.size - 1) : t.LeastFree t.freeHandle := by
  have candidates : min (t.size + 1) (UInt32.size - 1) = t.size + 1 := by omega
  have least := searchUpTo_leastFree (by omega) (t.exists_free room)
  rw [← candidates] at least
  exact least

/-- No free handle is missed by searching only among as many as are in use and one more. -/
theorem freeHandle_eq_searchUpTo (t : ObjectTable) :
    t.freeHandle = t.searchUpTo (UInt32.size - 1) := by
  by_cases room : t.size < UInt32.size - 1
  · obtain ⟨handle, member, unused⟩ := t.exists_free room
    have ⟨nonzero, le⟩ := (mem_firstHandles_iff (by omega)).mp member
    have among : handle ∈ firstHandles (UInt32.size - 1) :=
      (mem_firstHandles_iff (by decide)).mpr ⟨nonzero, by omega⟩
    exact (freeHandle_leastFree room).unique
      (searchUpTo_leastFree (by decide) ⟨handle, among, unused⟩)
  · have full : min (t.size + 1) (UInt32.size - 1) = UInt32.size - 1 := by omega
    change t.searchUpTo (min (t.size + 1) (UInt32.size - 1)) = _
    rw [full]

theorem filter_of_absent (absent : handle ∉ t.handles) :
    t.entries.filter (·.1 != handle) = t.entries := by
  refine List.filter_eq_self.mpr fun entry member => bne_iff_ne.mpr ?_
  rintro rfl
  exact absent (List.mem_map.mpr ⟨entry, member, rfl⟩)

theorem create_eq (room : t.size < UInt32.size - 1) (object : GraphicsObject) :
    t.create object = (t.freeHandle, t.add t.freeHandle object) := by
  change (_, { t with entries := _ :: t.entries.filter (·.1 != t.freeHandle) }) = _
  rw [filter_of_absent (freeHandle_leastFree room).unused]
  rfl

theorem get?_add_self : (t.add handle object).get? handle = some object := by
  change List.lookup handle ((handle, object) :: t.entries) = _
  rw [List.lookup_cons, beq_self_eq_true]

/-- As long as a handle is left, a new object gets the least one that is free, which is the one that
a search through all of them ends with. The other objects and the selections stay, and there is one
handle more. -/
theorem create_least (room : t.size < UInt32.size - 1) (object : GraphicsObject) :
    let handle := (t.create object).1
    let next := (t.create object).2
    t.LeastFree handle ∧ handle = t.searchUpTo (UInt32.size - 1) ∧
    next.get? handle = some object ∧ (∀ other, other ≠ handle → next.get? other = t.get? other) ∧
    next.selection = t.selection ∧
    next.handles = handle :: t.handles ∧ next.size = t.size + 1 := by
  intro handle next
  have created : next = t.add handle object := congrArg Prod.snd (create_eq room object)
  rw [created]
  refine ⟨freeHandle_leastFree room, t.freeHandle_eq_searchUpTo, get?_add_self, ?_, rfl, rfl, rfl⟩
  intro other apart
  exact get?_add apart

/-- Handles 1 and 3 are in use, and 2 has been given back. -/
def gappedTable : ObjectTable :=
  ⟨[(3, .palette []), (1, .pen ⟨0, 1, ⟨255⟩⟩)], fun kind => if kind = .pen then some 1 else none⟩

theorem create_least_gapped :
    gappedTable.size < UInt32.size - 1 ∧ gappedTable.LeastFree 2 ∧
    (gappedTable.create (.palette [])).1 = 2 ∧
    (gappedTable.create (.palette [])).2.size = 3 := by
  have room : gappedTable.size < UInt32.size - 1 := by decide
  have created : (gappedTable.create (.palette [])).1 = 2 := by decide
  have ⟨free, _, _, _, _, _, size⟩ := create_least room (.palette [])
  rw [created] at free
  exact ⟨room, free, created, size⟩

end ObjectTable

end Metafile
