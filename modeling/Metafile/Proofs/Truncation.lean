import Metafile.Proofs.Container
import Metafile.Proofs.ReadFailure

/-! # Truncation

A file that stops before the end of its picture is never read as one. Where a record of it ends, what
is missing is the record that ends the picture; anywhere else the record that was begun is incomplete.
-/
namespace Metafile

namespace Cursor

theorem size_ahead (c : Cursor) : c.ahead.size = c.remaining := by
  simp [ahead, remaining]

theorem absolutePosition_advance (c : Cursor) (n : Nat) :
    (c.advance n).absolutePosition = c.absolutePosition + n := (Nat.add_assoc ..).symm

theorem slice_ahead {c : Cursor} {n : Nat} (inside : c.pos + n ≤ c.data.size) :
    c.ahead.slice 0 n = c.data.slice c.pos n := by
  rw [ahead, Bytes.slice, Array.extract_extract, Bytes.slice, Nat.zero_add, Nat.add_zero,
    Nat.min_eq_left inside]

theorem endsEarly_of_cut {c : Cursor} {w : WholeRecord} {lost rest : Bytes}
    (split : c.ahead ++ lost = w.bytes ++ rest) (cut : c.ahead.size < w.bytes.size) :
    c.EndsEarly := by
  by_cases short : c.remaining < Record.headerSize
  · exact .inl short
  have minimal := w.minimal
  simp only [Record.headerSize, Nat.not_lt] at short minimal
  have head : c.data.slice c.pos 8 = w.bytes.slice 0 8 := by
    rw [← slice_ahead (by rw [remaining] at short; omega),
      ← Bytes.slice_append_left (b := lost) (by rw [size_ahead]; omega), split,
      Bytes.slice_append_left (by omega)]
  have declared : c.recordSize = w.bytes.size := by
    rw [← u32At_size (n := 8) (Nat.le_refl _), head, ← w.declared]
    exact congrArg UInt32.toNat (Bytes.u32At_slice (by omega))
  right
  rw [declared, ← size_ahead]
  exact ⟨w.minimal, cut⟩

/-- What is there of a run of records that was cut off: only a part of its first record, or all of
that and a part of the rest. -/
theorem cut_or_whole {c : Cursor} {w : WholeRecord} {lost rest : Bytes}
    (split : c.ahead ++ lost = w.bytes ++ rest) :
    c.ahead.size < w.bytes.size ∨
    (c.readRecord = .ok (w.record, c.advance w.bytes.size) ∧
      (c.advance w.bytes.size).ahead ++ lost = rest ∧
      c.ahead.size = w.bytes.size + (c.advance w.bytes.size).ahead.size) := by
  by_cases cut : c.ahead.size < w.bytes.size
  · exact .inl cut
  right
  obtain ⟨more, whole, behind⟩ : ∃ more, c.ahead = w.bytes ++ more ∧ rest = more ++ lost := by
    rcases Array.append_eq_append_iff.mp split with ⟨gap, full, rfl⟩ | other
    · have none : gap = #[] := by
        have size := congrArg Array.size full
        rw [Array.size_append] at size
        exact Array.eq_empty_of_size_eq_zero (by omega)
      exact ⟨#[], by simp [full, none], by simp [none]⟩
    · exact other
  obtain ⟨-, -, next⟩ := split_ahead w.size_pos whole
  refine ⟨w.readRecord_of_ahead whole, ?_, ?_⟩
  · rw [next, behind]
  · rw [next, whole, Array.size_append]

end Cursor

namespace WholeRecord

def ends (start : Nat) (records : List WholeRecord) : List Nat :=
  (records.map (·.bytes.size)).scanl (· + ·) start

@[simp] theorem ends_nil (start : Nat) : ends start [] = [start] := List.scanl_nil

@[simp] theorem ends_cons (start : Nat) (w : WholeRecord) (records : List WholeRecord) :
    ends start (w :: records) = start :: ends (start + w.bytes.size) records := List.scanl_cons

theorem le_of_mem_ends {start stop : Nat} {records : List WholeRecord}
    (member : stop ∈ ends start records) : start ≤ stop := by
  induction records generalizing start with
  | nil => exact Nat.le_of_eq (List.mem_singleton.mp member).symm
  | cons w records ih =>
    rw [ends_cons] at member
    rcases List.mem_cons.mp member with rfl | behind
    · exact Nat.le_refl _
    · exact Nat.le_trans (Nat.le_add_right _ _) (ih behind)

end WholeRecord

/-- How reading fails when a file stops at a place: by the lack of the record that ends the picture
where a record ends, and else by the end of data. -/
def FailsAt {α : Type} (stop : Nat) (ends : List Nat) (result : Except Error α) : Prop :=
  (stop ∈ ends → result = .error (.malformedRecord stop RecordType.eof.tag .noEof)) ∧
  (stop ∉ ends → ∃ offset needed available,
    result = .error (.unexpectedEnd offset needed available))

namespace FailsAt

variable {α β : Type} {stop : Nat} {ends : List Nat} {result : Except Error α}

theorem of_mem (member : stop ∈ ends)
    (failed : result = .error (.malformedRecord stop RecordType.eof.tag .noEof)) :
    FailsAt stop ends result :=
  ⟨fun _ => failed, fun other => absurd member other⟩

theorem of_not_mem {c : Cursor} {needed : Nat} (other : stop ∉ ends)
    (failed : result = .error (c.unexpectedEnd needed)) : FailsAt stop ends result :=
  ⟨fun member => absurd member other, fun _ => ⟨_, needed, _, failed⟩⟩

theorem map (f : α → β) (h : FailsAt stop ends result) : FailsAt stop ends (result.map f) := by
  constructor
  · intro member
    rw [h.1 member]
    rfl
  · intro other
    obtain ⟨offset, needed, available, failed⟩ := h.2 other
    refine ⟨offset, needed, available, ?_⟩
    rw [failed]
    rfl

theorem cons {start : Nat} (behind : start < stop) (h : FailsAt stop ends result) :
    FailsAt stop (start :: ends) result := by
  have same : stop ∈ start :: ends ↔ stop ∈ ends := by
    rw [List.mem_cons, or_iff_right (by omega)]
  rw [FailsAt, same]
  exact h

end FailsAt

namespace Document

variable {c : Cursor} {live : LiveHandles}

theorem readBody_of_exhausted (live : LiveHandles) (done : c.ahead.size = 0) :
    readBody c live = .error (.malformedRecord c.absolutePosition RecordType.eof.tag .noEof) := by
  have exhausted : c.isExhausted = true := by
    rw [Cursor.isExhausted, ← Cursor.size_ahead, done]
    rfl
  rw [readBody, if_pos exhausted]

theorem readBody_of_endsEarly (live : LiveHandles) (begun : c.ahead.size ≠ 0)
    (early : c.EndsEarly) : ∃ needed, readBody c live = .error (c.unexpectedEnd needed) := by
  obtain ⟨needed, failed⟩ := Cursor.readRecord_of_endsEarly early
  refine ⟨needed, ?_⟩
  have more : ¬ c.isExhausted = true := by
    rw [Cursor.isExhausted, ← Cursor.size_ahead]
    simpa using begun
  rw [readBody, if_neg more]
  split
  all_goals
    rename_i read
    rw [failed] at read
    cases read
  rfl

theorem readBody_of_first_cut {w : WholeRecord} {ends : List Nat} {lost rest : Bytes}
    (live : LiveHandles) (split : c.ahead ++ lost = w.bytes ++ rest)
    (cut : c.ahead.size < w.bytes.size)
    (behind : ∀ stop ∈ ends, c.absolutePosition + w.bytes.size ≤ stop) :
    FailsAt (c.absolutePosition + c.ahead.size) (c.absolutePosition :: ends)
      (readBody c live) := by
  by_cases done : c.ahead.size = 0
  · rw [done]
    exact .of_mem List.mem_cons_self (readBody_of_exhausted live done)
  · obtain ⟨needed, failed⟩ := readBody_of_endsEarly live done (Cursor.endsEarly_of_cut split cut)
    refine .of_not_mem (fun member => ?_) failed
    rcases List.mem_cons.mp member with start | later
    · omega
    · have past := behind _ later
      omega

theorem readBody_of_cut {final : LiveHandles} {body : List WholeRecord} {tail : WholeRecord}
    {lost : Bytes} (split : c.ahead ++ lost = WholeRecord.concat body ++ tail.bytes)
    (missing : 0 < lost.size) (isOpen : ∀ w ∈ body, ∀ palette, w.record ≠ .eof palette)
    (run : live.afterAll? (body.map (·.record)) = some final) :
    FailsAt (c.absolutePosition + c.ahead.size) (WholeRecord.ends c.absolutePosition body)
      (readBody c live) := by
  induction body generalizing c live with
  | nil =>
    rw [WholeRecord.concat_nil, Array.empty_append] at split
    have size := congrArg Array.size split
    rw [Array.size_append] at size
    rw [WholeRecord.ends_nil]
    have whole : c.ahead ++ lost = tail.bytes ++ #[] := by rw [split, Array.append_empty]
    refine readBody_of_first_cut live whole (by omega) ?_
    intro stop none
    cases none
  | cons w body ih =>
    obtain ⟨after, step, run⟩ := Option.bind_eq_some_iff.mp run
    rw [WholeRecord.concat_cons, Array.append_assoc] at split
    rw [WholeRecord.ends_cons]
    rcases Cursor.cut_or_whole split with cut | ⟨reads, behind, size⟩
    · exact readBody_of_first_cut live split cut fun _ => WholeRecord.le_of_mem_ends
    · have rest := ih behind (fun w hw => isOpen w (by simp [hw])) run
      rw [readBody_of_record reads (isOpen w (by simp)) step]
      rw [Cursor.absolutePosition_advance] at rest
      have filled := w.size_pos
      rw [size, ← Nat.add_assoc]
      exact .cons (by omega) (.map _ rest)

theorem parse_of_endsEarly {data : Bytes} (early : (Cursor.ofBytes data).EndsEarly) :
    ∃ needed, parse data = .error ((Cursor.ofBytes data).unexpectedEnd needed) := by
  by_cases short : (Cursor.ofBytes data).remaining < FixedLayout.width UInt32
  · have failed : (Cursor.ofBytes data).read UInt32 =
        .error ((Cursor.ofBytes data).unexpectedEnd (FixedLayout.width UInt32)) := by
      rw [Cursor.read, Cursor.readBytes_eq, if_pos short]
      rfl
    refine ⟨FixedLayout.width UInt32, ?_⟩
    rw [parse, failed]
    rfl
  · obtain ⟨needed, failed⟩ := Cursor.readRecord_of_endsEarly early
    refine ⟨needed, ?_⟩
    simp only [parse, Cursor.read, Cursor.readBytes_eq, if_neg short, failed]
    rfl

end Document

namespace Container

def recordEnds (c : Container) : List Nat := WholeRecord.ends c.head.bytes.size c.body

theorem parse_of_cut (c : Container) {kept lost : Bytes} (split : kept ++ lost = c.bytes)
    (missing : 0 < lost.size) : FailsAt kept.size c.recordEnds (Document.parse kept) := by
  rw [← Cursor.ahead_ofBytes kept, bytes, Array.append_assoc] at split
  rcases Cursor.cut_or_whole split with cut | ⟨reads, behind, size⟩
  · obtain ⟨needed, failed⟩ := Document.parse_of_endsEarly (Cursor.endsEarly_of_cut split cut)
    rw [Cursor.ahead_ofBytes] at cut
    refine .of_not_mem (fun member => ?_) failed
    have past := WholeRecord.le_of_mem_ends member
    omega
  · obtain ⟨final, run⟩ := (LiveHandles.afterAll?_iff_fresh _).mpr c.fresh
    rw [c.head_record] at reads
    rw [Document.parse_of_header reads]
    have body := Document.readBody_of_cut behind missing c.body_open run
    rw [Cursor.absolutePosition_advance] at body
    rw [Cursor.ahead_ofBytes] at size
    rw [size]
    refine .map _ ?_
    simpa [recordEnds, Cursor.ofBytes, Cursor.absolutePosition] using body

end Container

/-- No file that is read can lose any of its bytes up to the end of the picture without notice. Cut off
where the header or a record of the body ends, it lacks the record that ends the picture; cut off
anywhere else, it ends within a record. -/
theorem Document.parse_truncated {data : Bytes} {d : Document} (parsed : parse data = .ok d) :
    (∃ (c : Container) (rest : Bytes), data = c.bytes ++ rest ∧ c.document = d) ∧
    ∀ (c : Container) (rest : Bytes), data = c.bytes ++ rest → ∀ k < c.bytes.size,
      (k ∈ c.recordEnds → parse (data.slice 0 k) =
        .error (.malformedRecord k RecordType.eof.tag .noEof)) ∧
      (k ∉ c.recordEnds → ∃ offset needed available,
        parse (data.slice 0 k) = .error (.unexpectedEnd offset needed available)) := by
  refine ⟨exists_container parsed, ?_⟩
  rintro c rest rfl k inside
  have split : c.bytes.slice 0 k ++ c.bytes.extract k c.bytes.size = c.bytes := by
    rw [Bytes.slice, Nat.zero_add, Array.extract_append_extract, Nat.min_eq_left (Nat.zero_le _),
      Nat.max_eq_right (Nat.le_of_lt inside), Array.extract_size]
  have missing : 0 < (c.bytes.extract k c.bytes.size).size := by
    rw [Array.size_extract, Nat.min_self]
    omega
  have failed := c.parse_of_cut split missing
  rw [Bytes.size_slice (by omega)] at failed
  rw [Bytes.slice_append_left (by omega)]
  exact failed

/-- The picture with the pen stops behind the selection of the pen, and within its creation. -/
theorem Document.parse_truncated_penFile :
    parse Container.penFile.bytes = .ok Container.penFile.document ∧
    128 ∈ Container.penFile.recordEnds ∧ 100 ∉ Container.penFile.recordEnds ∧
    parse (Container.penFile.bytes.slice 0 128) = .error (.malformedRecord 128 14 .noEof) ∧
    ∃ offset needed available,
      parse (Container.penFile.bytes.slice 0 100) = .error (.unexpectedEnd offset needed available) := by
  have parsed : parse Container.penFile.bytes = .ok Container.penFile.document := by
    have same := Container.penFile.parse #[]
    rwa [Array.append_empty] at same
  have boundary : 128 ∈ Container.penFile.recordEnds := by decide
  have within : 100 ∉ Container.penFile.recordEnds := by decide
  have size : Container.penFile.bytes.size = 180 := by decide +kernel
  obtain ⟨-, failed⟩ := parse_truncated parsed
  have cut := failed Container.penFile #[] Array.append_empty.symm
  exact ⟨parsed, boundary, within, (cut 128 (by omega)).1 boundary, (cut 100 (by omega)).2 within⟩

end Metafile
