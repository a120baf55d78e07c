import Metafile.Proofs.RecordReader
import Metafile.Proofs.Window

/-! # Reading in a window

When a move or a read of a cursor has been checked beforehand, the cursor's own faults do not come
up. Reading then comes to what decoding comes to: the same value, or the same fault of the record. -/
namespace Metafile

theorem toNat_word {n : Nat} (small : n < 0x8000000000000000) : (UInt64.ofNat n).toNat = n := by
  apply UInt64.toNat_ofNat_of_lt'
  rw [UInt64.size]
  omega

theorem Cursor.seekTo_of_le {c : Cursor} {position : UInt64} (inside : position.toNat ≤ c.data.size)
    (memory : c.data.Addressable) : c.seekTo position = .ok { c with pos := position.toNat } := by
  unfold Bytes.Addressable at memory
  have target : Int64.ofNat c.pos + (position.toInt64 - Int64.ofNat c.pos) = position.toInt64 := by
    grind
  have value : position.toInt64.toInt = position.toNat := by
    change position.toBitVec.toInt = position.toBitVec.toNat
    apply BitVec.toInt_eq_toNat_of_lt
    change 2 * position.toNat < 2 ^ 64
    omega
  have forward : ¬ position.toInt64 < 0 := by
    rw [Int64.lt_iff_toInt_lt, value]
    change ¬ (position.toNat : Int) < 0
    omega
  unfold seekTo seekRelative
  dsimp only
  rw [target, value, Int.toNat_natCast, if_neg]
  rintro (backward | outside)
  · exact forward backward
  · omega

namespace RecordReader

variable {α β : Type}

/-- The outcome of decoding as that of reading in a window, with the cursor left at some place. -/
def landed (w : Bytes) (stop : Nat) (tag : UInt32) (base : Nat) :
    Except RecordFault α → Except Error (α × Cursor)
  | .ok a => .ok (a, ⟨w, stop, base⟩)
  | .error fault => .error (.malformedRecord base tag fault)

/-- Reading from one position of a window to another comes to what decoding comes to. -/
def Lands (w : Bytes) (pos stop : Nat) (reader : RecordReader α)
    (outcome : Except RecordFault α) : Prop :=
  ∀ tag base, reader tag ⟨w, pos, base⟩ = landed w stop tag base outcome

def Follows (w : Bytes) (pos : Nat) (reader : RecordReader α) (outcome : Except RecordFault α) :
    Prop :=
  ∀ tag base, ∃ stop ≤ w.size, reader tag ⟨w, pos, base⟩ = landed w stop tag base outcome

variable {w : Bytes} {pos stop : Nat}

theorem malformed_eq (fault : RecordFault) (tag : UInt32) (base : Nat) :
    (malformed fault : RecordReader α) tag ⟨w, pos, base⟩ =
      .error (.malformedRecord base tag fault) := by
  change Except.error (Error.malformedRecord (base + pos - pos) tag fault) = _
  rw [Nat.add_sub_cancel]

theorem lands_malformed (fault : RecordFault) :
    Lands w pos stop (malformed fault : RecordReader α) (.error fault) :=
  malformed_eq fault

theorem bind_of_landed {reader : RecordReader α} {outcome : Except RecordFault α}
    {rest : α → RecordReader β} {more : α → Except RecordFault β} {tag : UInt32} {base : Nat}
    (read : reader tag ⟨w, pos, base⟩ = landed w stop tag base outcome)
    (onward : ∀ a, outcome = .ok a →
      ∃ last ≤ w.size, rest a tag ⟨w, stop, base⟩ = landed w last tag base (more a)) :
    ∃ last ≤ w.size, (reader >>= rest) tag ⟨w, pos, base⟩ =
      landed w last tag base (outcome >>= more) := by
  cases outcome with
  | error fault =>
    refine ⟨0, Nat.zero_le _, ?_⟩
    change Except.bind (reader tag ⟨w, pos, base⟩) _ = _
    rw [read]
    rfl
  | ok a =>
    obtain ⟨last, inside, finish⟩ := onward a rfl
    refine ⟨last, inside, ?_⟩
    change Except.bind (reader tag ⟨w, pos, base⟩) _ = _
    rw [read]
    exact finish

theorem Lands.bind {reader : RecordReader α} {outcome : Except RecordFault α}
    {rest : α → RecordReader β} {more : α → Except RecordFault β}
    (first : Lands w pos stop reader outcome)
    (second : ∀ a, outcome = .ok a → Follows w stop (rest a) (more a)) :
    Follows w pos (reader >>= rest) (outcome >>= more) := by
  intro tag base
  exact bind_of_landed (first tag base) fun a decoded => second a decoded tag base

theorem Lands.stops {γ : Type} {reader : RecordReader α} {fault : RecordFault}
    {ignored : α → RecordReader β} {unseen : γ → Except RecordFault β}
    (read : Lands w pos stop reader (.error fault)) :
    Follows w pos (reader >>= ignored) (throw fault >>= unseen) := by
  intro tag base
  refine ⟨0, Nat.zero_le _, ?_⟩
  change Except.bind (reader tag ⟨w, pos, base⟩) _ = _
  rw [read]
  rfl

theorem require_lands (outcome : Except RecordFault α) :
    Lands w pos pos (require outcome) outcome := by
  cases outcome with
  | ok a => exact fun _ _ => rfl
  | error fault => exact lands_malformed fault

namespace Follows

theorem of_lands {reader : RecordReader α} {outcome : Except RecordFault α}
    (h : Lands w pos stop reader outcome) (inside : ∀ a, outcome = .ok a → stop ≤ w.size) :
    Follows w pos reader outcome := by
  intro tag base
  cases outcome with
  | error fault => exact ⟨0, Nat.zero_le _, h tag base⟩
  | ok a => exact ⟨stop, inside a rfl, h tag base⟩

theorem pure (inside : pos ≤ w.size) (a : α) : Follows w pos (Pure.pure a) (.ok a) := by
  intro tag base
  exact ⟨pos, inside, rfl⟩

theorem malformed (fault : RecordFault) :
    Follows w pos (RecordReader.malformed fault : RecordReader α) (.error fault) := by
  intro tag base
  exact ⟨0, Nat.zero_le _, lands_malformed fault tag base⟩

theorem bind {reader : RecordReader α} {outcome : Except RecordFault α} {rest : α → RecordReader β}
    {more : α → Except RecordFault β} (first : Follows w pos reader outcome)
    (second : ∀ a stop, stop ≤ w.size → Follows w stop (rest a) (more a)) :
    Follows w pos (reader >>= rest) (outcome >>= more) := by
  intro tag base
  obtain ⟨stop, inside, read⟩ := first tag base
  exact bind_of_landed read fun a _ => second a stop inside tag base

theorem map {reader : RecordReader α} {outcome : Except RecordFault α} (f : α → β)
    (first : Follows w pos reader outcome) : Follows w pos (f <$> reader) (f <$> outcome) := by
  intro tag base
  obtain ⟨stop, inside, read⟩ := first tag base
  refine ⟨stop, inside, ?_⟩
  change Except.bind (reader tag ⟨w, pos, base⟩) _ = _
  rw [read]
  cases outcome <;> rfl

/-- Where both ask the same question, they have to agree for each answer. -/
theorem ite {c : Prop} [Decidable c] {reader other : RecordReader α}
    {outcome otherwise : Except RecordFault α} (yes : c → Follows w pos reader outcome)
    (no : ¬ c → Follows w pos other otherwise) :
    Follows w pos (if c then reader else other) (if c then outcome else otherwise) := by
  by_cases h : c
  · rw [if_pos h, if_pos h]
    exact yes h
  · rw [if_neg h, if_neg h]
    exact no h

theorem yields {reader : RecordReader α} {outcome : Except RecordFault α}
    (read : Follows w pos reader outcome) (f : α → β) :
    Follows w pos (reader >>= fun a => Pure.pure (f a)) (outcome >>= fun a => .ok (f a)) :=
  read.bind fun a _ inside => pure inside (f a)

theorem refuse {c : Prop} [Decidable c] {fault : RecordFault} {ignored : PUnit → RecordReader α}
    {unseen : PUnit → Except RecordFault α} {reader : RecordReader α}
    {outcome : Except RecordFault α} (go : ¬ c → Follows w pos reader outcome) :
    Follows w pos (if c then RecordReader.malformed fault >>= ignored else reader)
      (if c then throw fault >>= unseen else outcome) :=
  ite (fun _ => (lands_malformed fault : Lands w pos pos _ _).stops) go

end Follows

variable (small : w.size < UInt32.size)
include small

theorem seekTo_eq {base : Nat} {position : UInt64} (inside : position.toNat ≤ w.size) :
    (⟨w, pos, base⟩ : Cursor).seekTo position = .ok ⟨w, position.toNat, base⟩ := by
  apply Cursor.seekTo_of_le inside
  exact Nat.lt_trans small (by decide)

theorem fixed_bind {needed : Nat} {rest : Bytes → RecordReader α}
    {more : Unit → Except RecordFault α}
    (onward : needed ≤ w.size → Follows w needed (rest (w.slice 0 needed)) (more ())) :
    Follows w pos (fixed needed >>= rest) (Record.needFixed w needed >>= more) := by
  by_cases cut : w.size < needed
  · have refused : Record.needFixed w needed = .error (.fixedFieldsCut w.size needed) := if_pos cut
    have stopped : ∀ tag base, fixed needed tag ⟨w, pos, base⟩ =
        malformed (.fixedFieldsCut w.size needed) tag ⟨w, pos, base⟩ := fun _ _ => if_pos cut
    intro tag base
    refine ⟨0, Nat.zero_le _, ?_⟩
    change Except.bind (fixed needed tag ⟨w, pos, base⟩) _ = _
    rw [refused, stopped, malformed_eq]
    rfl
  · have enough : needed ≤ w.size := by omega
    have accepted : Record.needFixed w needed = .ok () := if_neg cut
    have read : ∀ tag base, fixed needed tag ⟨w, pos, base⟩ =
        .ok (w.slice 0 needed, ⟨w, needed, base⟩) := by
      intro tag base
      unfold fixed
      rw [if_neg cut, seekTo_eq small (Nat.zero_le _)]
      change (if w.size - 0 < needed then _ else _) = _
      rw [if_neg (by omega)]
      change Except.ok (w.slice 0 needed, (⟨w, 0 + needed, base⟩ : Cursor)) = _
      rw [Nat.zero_add]
    intro tag base
    obtain ⟨stop, inside, finish⟩ := onward enough tag base
    refine ⟨stop, inside, ?_⟩
    change Except.bind (fixed needed tag ⟨w, pos, base⟩) _ = _
    rw [accepted, read]
    exact finish

omit small in
theorem fixedOnly_decode {needed : Nat} {more : Bytes → Except RecordFault α}
    (room : needed ≤ w.size) (same : more (w.slice 0 needed) = more w) :
    (Record.needFixed (w.slice 0 needed) needed >>= fun _ => more (w.slice 0 needed)) = more w := by
  have size : (w.slice 0 needed).size = needed := Bytes.size_slice (by omega)
  rw [Record.needFixed, if_neg (by omega), ← same]
  rfl

theorem fixedOnly_follows {needed : Nat} {decode : Bytes → Except RecordFault α}
    (more : Bytes → Except RecordFault α)
    (shape : ∀ w, decode w = Record.needFixed w needed >>= fun _ => more w)
    (same : more (w.slice 0 needed) = more w) :
    Follows w pos (fixedOnly needed decode) (decode w) := by
  unfold fixedOnly
  rw [shape w]
  refine fixed_bind small fun room => ?_
  rw [shape (w.slice 0 needed), fixedOnly_decode room same]
  exact .of_lands (require_lands _) fun _ _ => room

theorem array_lands (α : Type) [FixedLayout α] (count : UInt32) :
    Lands w pos (pos + count.toNat * FixedLayout.width α) (array α count)
      (Record.arrayFrom α w pos count.toNat) := by
  intro tag base
  unfold array Record.arrayFrom
  change (if w.size - pos < _ then _ else _) = _
  by_cases overrun : w.size - pos < count.toNat * FixedLayout.width α
  · rw [if_pos overrun, if_pos overrun]
    exact lands_malformed _ tag base
  · rw [if_neg overrun, if_neg overrun]
    have word : ¬ UInt64.size ≤ count.toUInt64.toNat * FixedLayout.width α := by
      rw [UInt32.toNat_toUInt64]
      simp only [UInt32.size, UInt64.size] at *
      omega
    unfold Cursor.readArray
    dsimp only
    rw [if_neg word, UInt32.toNat_toUInt64]
    exact if_neg overrun

omit small in
theorem size_of_arrayFrom {α : Type} [FixedLayout α] {count : Nat} {values : List α}
    (inside : pos ≤ w.size) (h : Record.arrayFrom α w pos count = .ok values) :
    pos + count * FixedLayout.width α ≤ w.size := by
  unfold Record.arrayFrom at h
  split at h
  · cases h
  · omega

theorem array_follows (α : Type) [FixedLayout α] (count : UInt32) (inside : pos ≤ w.size) :
    Follows w pos (array α count) (Record.arrayFrom α w pos count.toNat) :=
  .of_lands (array_lands small α count) fun _ decoded => size_of_arrayFrom inside decoded

theorem seekSection_lands (offset : UInt32) :
    Lands w pos offset.toNat (seekSection offset) (Record.checkOffset w offset.toNat) := by
  intro tag base
  unfold seekSection Record.checkOffset
  by_cases outside : offset.toNat < Record.headerSize ∨ w.size < offset.toNat
  · rw [if_pos outside, if_pos outside]
    exact lands_malformed _ tag base
  · rw [if_neg outside, if_neg outside]
    have inside : offset.toUInt64.toNat ≤ w.size := by
      rw [UInt32.toNat_toUInt64]
      omega
    rw [seekTo_eq small inside, UInt32.toNat_toUInt64]
    rfl

omit small in
theorem le_size_of_checkOffset {offset : Nat} {done : Unit}
    (h : Record.checkOffset w offset = .ok done) : offset ≤ w.size := by
  unfold Record.checkOffset at h
  split at h
  · cases h
  · omega

theorem arrayAt_follows (α : Type) [FixedLayout α] (offset count : UInt32) :
    Follows w pos (arrayAt α offset count) (Record.arrayAt α w offset count) := by
  refine (seekSection_lands small offset).bind fun _ placed => ?_
  exact array_follows small α count (le_size_of_checkOffset placed)

theorem bytesAt_follows (offset length : UInt32) :
    Follows w pos (bytesAt offset length) (Record.bytesAt w offset length) := by
  refine (seekSection_lands small offset).bind fun _ placed => ?_
  have inside := le_size_of_checkOffset placed
  intro tag base
  unfold bytes
  change ∃ stop ≤ w.size, (if w.size - offset.toNat < length.toNat then _ else _) = _
  by_cases overrun : w.size - offset.toNat < length.toNat
  · rw [if_pos overrun, if_pos overrun]
    exact ⟨0, Nat.zero_le _, lands_malformed _ tag base⟩
  · rw [if_neg overrun, if_neg overrun]
    exact ⟨offset.toNat + length.toNat, by omega, if_neg overrun⟩

theorem embeddedBitmap_follows (inside : pos ≤ w.size) (f : Record.BitmapFields) :
    Follows w pos (embeddedBitmap f) (Record.embeddedBitmap w f) := by
  unfold embeddedBitmap Record.embeddedBitmap
  refine .ite (fun _ => .pure inside none) fun _ => ?_
  refine .refuse fun _ => ?_
  refine .bind (bytesAt_follows small _ _) fun info stop inside => ?_
  refine .ite (fun _ => ?_) fun _ => ?_
  · exact .yields (.pure inside _) _
  · exact .yields (bytesAt_follows small _ _) _

end RecordReader

end Metafile
