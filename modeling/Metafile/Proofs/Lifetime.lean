import Metafile.Document

/-! # Lifetimes of handles

A handle is live after some records when one of them created an object under it and none behind
that deleted it. The list that a reader keeps holds exactly the live handles, so it finds a handle
given out again exactly when it is still live. -/
namespace Metafile

def Record.deletedHandle? : Record → Option UInt32
  | .deleteObject handle => some handle
  | _ => none

theorem Record.ne_deleteObject {record : Record} (idle : record.deletedHandle? = none)
    (handle : UInt32) : record ≠ .deleteObject handle := by
  rintro rfl
  cases idle

/-- The handles that some records have created and not deleted since. -/
def Live (records : List Record) (handle : UInt32) : Prop :=
  ∃ before record after, records = before ++ record :: after ∧
    record.createdHandle? = some handle ∧ .deleteObject handle ∉ after

theorem not_live_nil (handle : UInt32) : ¬ Live [] handle := by
  rintro ⟨before, record, after, split, -, -⟩
  simp at split

theorem live_concat (records : List Record) (record : Record) (handle : UInt32) :
    Live (records ++ [record]) handle ↔
      record.createdHandle? = some handle ∨ Live records handle ∧ record ≠ .deleteObject handle := by
  constructor
  · rintro ⟨before, creator, after, split, creates, kept⟩
    rcases List.eq_nil_or_concat after with rfl | ⟨after, last, rfl⟩
    · obtain ⟨-, same⟩ := List.append_inj' split rfl
      rw [List.cons.inj same |>.1]
      exact Or.inl creates
    · rw [List.concat_eq_append] at split kept
      rw [← List.cons_append, ← List.append_assoc] at split
      obtain ⟨same, lastSame⟩ := List.append_inj' split rfl
      rw [List.mem_append, List.mem_singleton, not_or] at kept
      refine Or.inr ⟨⟨before, creator, after, same, creates, kept.1⟩, ?_⟩
      rw [List.cons.inj lastSame |>.1]
      exact fun deletes => kept.2 deletes.symm
  · rintro (creates | ⟨⟨before, creator, after, rfl, creates, kept⟩, other⟩)
    · exact ⟨records, record, [], rfl, creates, List.not_mem_nil⟩
    · refine ⟨before, creator, after ++ [record], by simp, creates, ?_⟩
      rw [List.mem_append, List.mem_singleton, not_or]
      exact ⟨kept, fun deletes => other deletes.symm⟩

def FreshHandles (records : List Record) : Prop :=
  ∀ before record after handle, records = before ++ record :: after →
    record.createdHandle? = some handle → ¬ Live before handle

theorem freshHandles_nil : FreshHandles [] := by
  intro before record after handle split
  simp at split

theorem FreshHandles.of_append {records more : List Record} (fresh : FreshHandles (records ++ more)) :
    FreshHandles records := by
  rintro before record after handle rfl creates
  exact fresh before record (after ++ more) handle (by simp) creates

theorem freshHandles_concat (records : List Record) (record : Record) :
    FreshHandles (records ++ [record]) ↔ FreshHandles records ∧
      ∀ handle, record.createdHandle? = some handle → ¬ Live records handle := by
  constructor
  · intro fresh
    exact ⟨fresh.of_append, fun handle creates => fresh records record [] handle rfl creates⟩
  · rintro ⟨fresh, last⟩ before creator after handle split creates
    rcases List.eq_nil_or_concat after with rfl | ⟨after, final, rfl⟩
    · obtain ⟨rfl, same⟩ := List.append_inj' split rfl
      rw [List.cons.inj same |>.1] at last
      exact last handle creates
    · rw [List.concat_eq_append, ← List.cons_append, ← List.append_assoc] at split
      exact fresh before creator after handle (List.append_inj' split rfl).1 creates

namespace LiveHandles

def afterAll? (live : LiveHandles) (records : List Record) : Option LiveHandles :=
  records.foldlM after? live

/-- A record creates an object, or deletes one, or leaves the handles alone. -/
theorem after?_cases (live : LiveHandles) (record : Record) :
    (∃ handle, record.createdHandle? = some handle ∧
      live.after? record = if handle ∈ live then none else some (handle :: live)) ∨
    (∃ handle, record = .deleteObject handle ∧
      live.after? record = some (live.filter (· != handle))) ∨
    (record.createdHandle? = none ∧ record.deletedHandle? = none ∧
      live.after? record = some live) := by
  cases record
  case createPen | extCreatePen | createBrushIndirect | createDibPatternBrushPt
      | extCreateFontIndirectW | createPalette => exact Or.inl ⟨_, rfl, rfl⟩
  case deleteObject handle => exact Or.inr (Or.inl ⟨handle, rfl, rfl⟩)
  all_goals exact Or.inr (Or.inr ⟨rfl, rfl, rfl⟩)

theorem after?_eq_none {live : LiveHandles} {record : Record} :
    live.after? record = none ↔ ∃ handle, record.createdHandle? = some handle ∧ handle ∈ live := by
  rcases after?_cases live record with ⟨handle, creates, after⟩ | ⟨handle, rfl, after⟩ |
    ⟨idle, -, after⟩
  · by_cases used : handle ∈ live <;> simp [after, creates, used]
  · simp [after, Record.createdHandle?]
  · simp [after, idle]

theorem mem_after? {live next : LiveHandles} {record : Record}
    (h : live.after? record = some next) (handle : UInt32) :
    handle ∈ next ↔
      record.createdHandle? = some handle ∨ handle ∈ live ∧ record ≠ .deleteObject handle := by
  rcases after?_cases live record with ⟨created, creates, after⟩ | ⟨deleted, rfl, after⟩ |
    ⟨idle, spares, after⟩
  · have spares : record ≠ .deleteObject handle := by
      rintro rfl
      cases creates
    rw [after] at h
    split at h
    · cases h
    · cases h
      simp [creates, spares, eq_comm]
  · rw [after] at h
    cases h
    rw [List.mem_filter, bne_iff_ne]
    constructor
    · rintro ⟨used, other⟩
      exact Or.inr ⟨used, fun same => other (Record.deleteObject.inj same).symm⟩
    · rintro (creates | ⟨used, other⟩)
      · cases creates
      · exact ⟨used, fun same => other (same ▸ rfl)⟩
  · rw [after] at h
    cases h
    simp [idle, Record.ne_deleteObject spares handle]

/-- A list of handles that are in use is exact for the records read so far. -/
def Exact (live : LiveHandles) (done : List Record) : Prop :=
  ∀ handle, handle ∈ live ↔ Live done handle

theorem exact_nil : Exact [] [] := fun handle => by simp [not_live_nil]

theorem Exact.next {live next : LiveHandles} {done : List Record} {record : Record}
    (exact : live.Exact done) (h : live.after? record = some next) :
    next.Exact (done ++ [record]) := by
  intro handle
  rw [mem_after? h, live_concat, exact handle]

theorem Exact.run {live final : LiveHandles} {done records : List Record}
    (exact : live.Exact done) (h : live.afterAll? records = some final) :
    final.Exact (done ++ records) := by
  induction records generalizing live done with
  | nil =>
    cases h
    simpa using exact
  | cons record rest ih =>
    obtain ⟨next, step, run⟩ := Option.bind_eq_some_iff.mp h
    simpa using ih (exact.next step) run

theorem Exact.run_iff_fresh {live : LiveHandles} {done : List Record} (exact : live.Exact done)
    (fresh : FreshHandles done) (records : List Record) :
    (∃ final, live.afterAll? records = some final) ↔ FreshHandles (done ++ records) := by
  induction records generalizing live done with
  | nil =>
    rw [List.append_nil]
    exact ⟨fun _ => fresh, fun _ => ⟨live, rfl⟩⟩
  | cons record rest ih =>
    rw [List.append_cons]
    cases step : live.after? record with
    | none =>
      obtain ⟨handle, creates, used⟩ := after?_eq_none.mp step
      constructor
      · rintro ⟨final, run⟩
        rw [afterAll?, List.foldlM_cons, step] at run
        cases run
      · intro all
        have last := (freshHandles_concat done record).mp all.of_append
        exact absurd ((exact handle).mp used) (last.2 handle creates)
    | some next =>
      have freshNext : FreshHandles (done ++ [record]) := by
        refine (freshHandles_concat done record).mpr ⟨fresh, fun handle creates alive => ?_⟩
        have refused := after?_eq_none.mpr ⟨handle, creates, (exact handle).mpr alive⟩
        rw [step] at refused
        cases refused
      rw [← ih (exact.next step) freshNext]
      simp only [afterAll?, List.foldlM_cons, step, Option.bind_eq_bind, Option.bind_some]

end LiveHandles

end Metafile
