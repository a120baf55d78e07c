import Metafile.Proofs.Container
import Metafile.Proofs.NewContext
import Metafile.Render

/-! # Inserted records

A record of an unknown type, or one more header, can be put anywhere into a body. It is kept there
as a record without meaning: no handle is counted for it, and nothing is played. -/
namespace Metafile

section Weave

variable {α β : Type}

/-- A list with more elements put in front of each of its own, and behind the last. -/
def weave (gaps : Nat → List α) : List α → List α
  | [] => gaps 0
  | x :: xs => gaps 0 ++ x :: weave (fun i => gaps (i + 1)) xs

theorem map_weave (f : α → β) (gaps : Nat → List α) (xs : List α) :
    (weave gaps xs).map f = weave (fun i => (gaps i).map f) (xs.map f) := by
  induction xs generalizing gaps with
  | nil => rfl
  | cons x xs ih => simp only [weave, List.map_cons, List.map_append, ih]

theorem mem_weave {gaps : Nat → List α} {xs : List α} {x : α} (member : x ∈ weave gaps xs) :
    (∃ i, x ∈ gaps i) ∨ x ∈ xs := by
  induction xs generalizing gaps with
  | nil => exact Or.inl ⟨0, member⟩
  | cons y xs ih =>
    rcases List.mem_append.mp member with here | member
    · exact Or.inl ⟨0, here⟩
    rcases List.mem_cons.mp member with rfl | later
    · exact Or.inr List.mem_cons_self
    rcases ih later with ⟨i, inGap⟩ | inside
    · exact Or.inl ⟨i + 1, inGap⟩
    · exact Or.inr (List.mem_cons_of_mem _ inside)

variable {σ : Type} {m : Type → Type} [Monad m] [LawfulMonad m] {f : σ → α → m σ}

theorem foldlM_idle {xs : List α} (idle : ∀ x ∈ xs, ∀ s, f s x = pure s) (s : σ) :
    xs.foldlM f s = pure s := by
  induction xs with
  | nil => rfl
  | cons x xs ih =>
    rw [List.foldlM_cons, idle x List.mem_cons_self, pure_bind]
    exact ih fun y later => idle y (List.mem_cons_of_mem _ later)

theorem foldlM_weave {gaps : Nat → List α} (idle : ∀ i, ∀ x ∈ gaps i, ∀ s, f s x = pure s)
    (xs : List α) (s : σ) : (weave gaps xs).foldlM f s = xs.foldlM f s := by
  induction xs generalizing gaps s with
  | nil => exact foldlM_idle (idle 0) s
  | cons x xs ih =>
    rw [weave, List.foldlM_append, foldlM_idle (idle 0), pure_bind, List.foldlM_cons,
      List.foldlM_cons]
    exact bind_congr fun next => ih (fun i => idle (i + 1)) next

end Weave

/-- The bytes of a record that has no meaning behind the header. -/
structure IdleRecord where
  bytes : Bytes
  minimal : Record.headerSize ≤ bytes.size
  declared : (Cursor.ofBytes bytes).recordSize = bytes.size
  idle : RecordType.ofTag? (bytes.u32At 0) = none ∨
    bytes.u32At 0 = RecordType.header.tag ∧ ∃ header, Record.decodeHeader bytes = .ok header

namespace IdleRecord

def skipped (r : IdleRecord) : Record := .skip (r.bytes.u32At 0) (UInt32.ofNat r.bytes.size)

def record (r : IdleRecord) : Record :=
  match Record.decodeWhole r.bytes with
  | .ok record => record
  | .error _ => r.skipped

variable (r : IdleRecord)

theorem decodes : Record.decodeWhole r.bytes = .ok r.record ∧
    (r.record = r.skipped ∨
      r.bytes.u32At 0 = RecordType.header.tag ∧ ∃ header, r.record = .header header) := by
  rcases r.idle with unknown | ⟨tagged, header, read⟩
  · have whole : Record.decodeWhole r.bytes = .ok r.skipped := by
      rw [Record.decodeWhole, Record.decode, unknown]
      rfl
    rw [record, whole]
    exact ⟨rfl, Or.inl rfl⟩
  · have whole : Record.decodeWhole r.bytes = .ok (.header header) := by
      rw [Record.decodeWhole, Record.decode, tagged, RecordType.ofTag?_tag]
      change Record.header <$> Record.decodeHeader r.bytes = _
      rw [read]
      rfl
    rw [record, whole]
    exact ⟨rfl, Or.inr ⟨tagged, header, rfl⟩⟩

def whole : WholeRecord := .ofDecoded r.bytes r.record r.minimal r.declared r.decodes.1

theorem whole_inBody : r.whole.inBody = r.skipped := by
  change Document.inBody r.record r.bytes.size = r.skipped
  rcases r.decodes.2 with same | ⟨tagged, header, same⟩
  · rw [same]
    rfl
  · rw [same, skipped, tagged]
    rfl

theorem after?_record (live : LiveHandles) : live.after? r.record = some live := by
  rcases r.decodes.2 with same | ⟨-, header, same⟩ <;> rw [same] <;> rfl

theorem ne_eof (palette : Palette) : r.record ≠ .eof palette := by
  rcases r.decodes.2 with same | ⟨-, header, same⟩ <;> rw [same] <;> intro ends <;> cases ends

end IdleRecord

namespace Container

def insert (c : Container) (gaps : Nat → List IdleRecord) : Container where
  head := c.head
  body := weave (fun i => (gaps i).map IdleRecord.whole) c.body
  tail := c.tail
  header := c.header
  palette := c.palette
  head_record := c.head_record
  tail_record := c.tail_record
  body_open := by
    intro w member palette
    rcases mem_weave member with ⟨i, inGap⟩ | inside
    · obtain ⟨r, -, rfl⟩ := List.mem_map.mp inGap
      exact r.ne_eof palette
    · exact c.body_open w inside palette
  fresh := by
    obtain ⟨final, run⟩ := (LiveHandles.afterAll?_iff_fresh _).mpr c.fresh
    refine (LiveHandles.afterAll?_iff_fresh _).mp ⟨final, ?_⟩
    rw [map_weave, LiveHandles.afterAll?, foldlM_weave]
    · exact run
    · intro i record inGap live
      obtain ⟨w, among, rfl⟩ := List.mem_map.mp inGap
      obtain ⟨r, -, rfl⟩ := List.mem_map.mp among
      exact r.after?_record live

theorem insert_document (c : Container) (gaps : Nat → List IdleRecord) :
    (c.insert gaps).document =
      { c.document with
        records := weave (fun i => (gaps i).map IdleRecord.skipped) c.document.records } := by
  change Document.mk c.header ((weave _ c.body).map WholeRecord.inBody) c.palette = _
  rw [map_weave]
  simp only [List.map_map, Function.comp_def, IdleRecord.whole_inBody]
  rfl

end Container

namespace Document

def playStep (c : Context) (record : Record) : Except Error Context :=
  match c.apply record with
  | (next, none) => .ok next
  | (next, some e) => if e.isFatal then .error e else .ok next

theorem playAll_eq_foldlM (c : Context) (records : List Record) :
    playAll c records = records.foldlM playStep c := by
  induction records generalizing c with
  | nil => rfl
  | cons record rest ih =>
    rw [List.foldlM_cons, playAll, playStep]
    rcases c.apply record with ⟨next, _ | e⟩
    · exact ih next
    · cases fatal : e.isFatal with
      | true =>
        simp only [fatal]
        rfl
      | false =>
        simp only [fatal]
        exact ih next

/-- Records without meaning can stand anywhere between the header and the end. They are kept where
they stand, and the picture is the same. -/
theorem insert_transparent {data : Bytes} {d : Document} (parsed : parse data = .ok d) :
    (∃ (c : Container) (rest : Bytes), data = c.bytes ++ rest ∧ c.document = d) ∧
    ∀ (c : Container) (rest : Bytes), data = c.bytes ++ rest → ∀ gaps : Nat → List IdleRecord,
      parse ((c.insert gaps).bytes ++ rest) =
        .ok { d with records := weave (fun i => (gaps i).map IdleRecord.skipped) d.records } ∧
      ∀ options fonts rasterizer,
        renderBytes ((c.insert gaps).bytes ++ rest) options fonts rasterizer =
          renderBytes data options fonts rasterizer := by
  refine ⟨exists_container parsed, ?_⟩
  rintro c rest rfl gaps
  have same : c.document = d := Except.ok.inj ((c.parse rest).symm.trans parsed)
  have inserted := (c.insert gaps).parse rest
  rw [c.insert_document, same] at inserted
  refine ⟨inserted, fun options fonts rasterizer => ?_⟩
  unfold renderBytes
  rw [inserted, parsed]
  change render _ options fonts rasterizer = render d options fonts rasterizer
  unfold render
  congr 1
  funext context
  rw [playAll_eq_foldlM, playAll_eq_foldlM, foldlM_weave]
  intro i record inGap before
  obtain ⟨r, -, rfl⟩ := List.mem_map.mp inGap
  rfl

end Document

namespace IdleRecord

def comment : IdleRecord where
  bytes := #[70, 0, 0, 0, 12, 0, 0, 0, 1, 2, 3, 4]
  minimal := by decide
  declared := by decide
  idle := Or.inl rfl

def penHeader : IdleRecord where
  bytes := Container.penFile.head.bytes
  minimal := by decide
  declared := by decide
  idle := Or.inr ⟨by decide, _, rfl⟩

end IdleRecord

/-- The file with a pen, its header once more in front of the pen, and comments in all gaps. -/
def Container.commented : Container :=
  .insert .penFile fun
    | 0 => [.comment, .penHeader]
    | _ => [.comment]

namespace Document

theorem insert_transparent_penFile :
    parse (Container.penFile.bytes ++ #[0xFF]) = .ok Container.penFile.document ∧
    parse (Container.commented.bytes ++ #[0xFF]) =
      .ok { Container.penFile.document with
        records :=
          [.skip 70 12, .skip 1 88, .createPen 1 ⟨0, 1, ⟨255⟩⟩, .skip 70 12, .selectObject 1,
            .skip 70 12, .lineTo ⟨1, 1⟩, .skip 70 12, .deleteObject 1, .skip 70 12] } ∧
    renderBytes (Container.commented.bytes ++ #[0xFF]) .default .bare .sampling =
      renderBytes (Container.penFile.bytes ++ #[0xFF]) .default .bare .sampling := by
  have parsed := Container.penFile.parse #[0xFF]
  obtain ⟨read, rendered⟩ := (insert_transparent parsed).2 Container.penFile #[0xFF] rfl _
  exact ⟨parsed, read, rendered .default .bare .sampling⟩

end Document

end Metafile
