import Metafile.Text.Draw

/-! # Spans of a text

Whatever the code units of a text are, its spans lie one behind the other and take up all of them,
so each entry of the advance array belongs to exactly one span. What the spans stand for is decided
by the surrogate pairs alone. -/
namespace Metafile

namespace Utf16

variable {u high low : UInt16} {units rest : List UInt16} {i : Nat}

def IsSurrogate (u : UInt16) : Prop := IsHighSurrogate u ∨ IsLowSurrogate u

instance (u : UInt16) : Decidable (IsSurrogate u) := inferInstanceAs (Decidable (_ ∨ _))

theorem isHighSurrogate_iff : IsHighSurrogate u ↔ 0xD800 ≤ u.toNat ∧ u.toNat < 0xDC00 := by
  rw [IsHighSurrogate, UInt16.le_iff_toNat_le, UInt16.lt_iff_toNat_lt]
  rfl

theorem isLowSurrogate_iff : IsLowSurrogate u ↔ 0xDC00 ≤ u.toNat ∧ u.toNat < 0xE000 := by
  rw [IsLowSurrogate, UInt16.le_iff_toNat_le, UInt16.lt_iff_toNat_lt]
  rfl

theorem isSurrogate_iff : IsSurrogate u ↔ 0xD800 ≤ u.toNat ∧ u.toNat < 0xE000 := by
  rw [IsSurrogate, isHighSurrogate_iff, isLowSurrogate_iff]
  omega

theorem toNat_ofNat {n : Nat} (valid : n.isValidChar) : (Char.ofNat n).toNat = n := by
  rw [Char.ofNat, dif_pos valid]
  rfl

def pairScalar (high low : UInt16) : Nat :=
  0x10000 + (high.toNat - 0xD800) * 0x400 + (low.toNat - 0xDC00)

theorem le_pairScalar (high low : UInt16) : 0x10000 ≤ pairScalar high low := by
  unfold pairScalar
  omega

theorem toNat_pairChar (isHigh : IsHighSurrogate high) (isLow : IsLowSurrogate low) :
    (pairChar high low).toNat = pairScalar high low := by
  rw [isHighSurrogate_iff] at isHigh
  rw [isLowSurrogate_iff] at isLow
  refine toNat_ofNat (Or.inr ?_)
  omega

theorem unitChar_of_surrogate (surrogate : IsSurrogate u) : unitChar u = replacement :=
  if_pos surrogate

theorem unitChar_of_plain (plain : ¬ IsSurrogate u) : unitChar u = Char.ofNat u.toNat :=
  if_neg plain

theorem toNat_unitChar (plain : ¬ IsSurrogate u) : (unitChar u).toNat = u.toNat := by
  have word : u.toNat < 0x10000 := u.toNat_lt
  rw [unitChar_of_plain plain]
  rw [isSurrogate_iff] at plain
  refine toNat_ofNat ?_
  unfold Nat.isValidChar
  omega

def PairAt (units : List UInt16) (i : Nat) (high low : UInt16) : Prop :=
  units[i]? = some high ∧ units[i + 1]? = some low ∧ IsHighSurrogate high ∧ IsLowSurrogate low

theorem spans_pair (isHigh : IsHighSurrogate high) (isLow : IsLowSurrogate low)
    (rest : List UInt16) :
    spans (high :: low :: rest) = (pairChar high low, 2) :: spans rest := by
  rw [spans, if_pos ⟨isHigh, isLow⟩]

theorem spans_single (single : ∀ low ∈ rest.head?, ¬ (IsHighSurrogate u ∧ IsLowSurrogate low)) :
    spans (u :: rest) = (unitChar u, 1) :: spans rest := by
  cases rest with
  | nil => rfl
  | cons v rest => rw [spans, if_neg (single v rfl)]

theorem spans_filled (units : List UInt16) : ∀ part ∈ spans units, 0 < part.2 := by
  fun_induction spans units with
  | case1 => simp
  | case2 u => simp
  | case3 u v rest pair ih => simpa using ih
  | case4 u v rest single ih => simpa using ih

theorem sum_spans (units : List UInt16) :
    ((spans units).map (·.2)).foldr (· + ·) 0 = units.length := by
  fun_induction spans units with
  | case1 => rfl
  | case2 u => rfl
  | case3 u v rest pair ih =>
    simp only [List.map_cons, List.foldr_cons, ih, List.length_cons]
    omega
  | case4 u v rest single ih =>
    simp only [List.map_cons, List.foldr_cons, ih, List.length_cons]
    omega

def unitCount (c : Char) : Nat := if c.toNat < 0x10000 then 1 else 2

theorem pair_of_halves {offset : Nat} (small : offset < 0x100000)
    (highValue : high.toNat = 0xD800 + offset / 0x400)
    (lowValue : low.toNat = 0xDC00 + offset % 0x400) :
    IsHighSurrogate high ∧ IsLowSurrogate low ∧ pairScalar high low = 0x10000 + offset := by
  refine ⟨isHighSurrogate_iff.mpr ?_, isLowSurrogate_iff.mpr ?_, ?_⟩
  · omega
  · omega
  · unfold pairScalar
    omega

theorem spans_encodeChar (c : Char) (rest : List UInt16) :
    spans (encodeChar c ++ rest) = (c, unitCount c) :: spans rest := by
  have valid : c.toNat < 0xD800 ∨ 0xDFFF < c.toNat ∧ c.toNat < 0x110000 := c.valid
  unfold encodeChar unitCount
  by_cases small : c.toNat < 0x10000
  · have value : (UInt16.ofNat c.toNat).toNat = c.toNat := UInt16.toNat_ofNat_of_lt' small
    have plain : ¬ IsSurrogate (UInt16.ofNat c.toNat) := by
      rw [isSurrogate_iff, value]
      omega
    rw [if_pos small, if_pos small, List.cons_append, List.nil_append,
      spans_single fun low _ pair => plain (Or.inl pair.1), unitChar_of_plain plain, value,
      Char.ofNat_toNat]
  · have word {n : Nat} (h : n < 0x10000) : (UInt16.ofNat n).toNat = n :=
      UInt16.toNat_ofNat_of_lt' h
    have inside : c.toNat - 0x10000 < 0x100000 := by omega
    obtain ⟨isHigh, isLow, scalar⟩ :=
      pair_of_halves inside (word (by omega)) (word (by omega))
    rw [if_neg small, if_neg small, List.cons_append, List.cons_append, List.nil_append,
      spans_pair isHigh isLow]
    have same := toNat_pairChar isHigh isLow
    rw [scalar, Nat.add_sub_cancel' (by omega), Char.toNat_inj] at same
    rw [same]

theorem spans_encode (s : String) : spans (encode s) = s.toList.map fun c => (c, unitCount c) := by
  unfold encode
  induction s.toList with
  | nil => rfl
  | cons c rest ih => rw [List.flatMap_cons, spans_encodeChar, ih, List.map_cons]

def plainChar? (u : UInt16) : Option Char :=
  if IsSurrogate u then none else some (Char.ofNat u.toNat)

/-- The characters of some units, none for an unpaired surrogate. -/
def decoded : List UInt16 → List (Option Char)
  | [] => []
  | [u] => [plainChar? u]
  | u :: v :: rest =>
      if IsHighSurrogate u ∧ IsLowSurrogate v then some (pairChar u v) :: decoded rest
      else plainChar? u :: decoded (v :: rest)

/-- What a span of characters stands for: a surrogate pair as the character that it encodes, and any
other unit as itself, or as the replacement character. -/
inductive Reads (units : List UInt16) : TextSpan → Prop where
  | pair {i : Nat} {high low : UInt16} {c : Char} : PairAt units i high low →
      c.toNat = pairScalar high low → Reads units ⟨.char c, i, i + 2⟩
  | plain {i : Nat} {u : UInt16} {c : Char} : units[i]? = some u → ¬ IsSurrogate u →
      c.toNat = u.toNat → Reads units ⟨.char c, i, i + 1⟩
  | unpaired {i : Nat} {u : UInt16} : units[i]? = some u → IsSurrogate u →
      (∀ high low, ¬ PairAt units i high low) → Reads units ⟨.char '\uFFFD', i, i + 1⟩

theorem reads_pair (pair : PairAt units i high low) :
    Reads units ⟨.char (pairChar high low), i, i + 2⟩ :=
  .pair pair (toNat_pairChar pair.2.2.1 pair.2.2.2)

theorem reads_single (here : units[i]? = some u)
    (single : ∀ low ∈ units[i + 1]?, ¬ (IsHighSurrogate u ∧ IsLowSurrogate low)) :
    Reads units ⟨.char (unitChar u), i, i + 1⟩ := by
  by_cases surrogate : IsSurrogate u
  · rw [unitChar_of_surrogate surrogate]
    refine .unpaired here surrogate fun high low pair => ?_
    obtain ⟨first, second, isHigh, isLow⟩ := pair
    cases here.symm.trans first
    exact single low second ⟨isHigh, isLow⟩
  · exact .plain here surrogate (toNat_unitChar surrogate)

theorem Reads.unique {s t : TextSpan} (hs : Reads units s) (ht : Reads units t)
    (start : s.start = t.start) : s = t := by
  cases hs with
  | pair pair value =>
    obtain ⟨first, second, isHigh, isLow⟩ := pair
    cases ht with
    | pair pair' value' =>
      obtain ⟨first', second', -⟩ := pair'
      cases start
      cases first.symm.trans first'
      cases second.symm.trans second'
      rw [Char.toNat_inj.mp (value.trans value'.symm)]
    | plain here plain =>
      cases start
      cases first.symm.trans here
      exact absurd (Or.inl isHigh) plain
    | unpaired _ _ alone =>
      cases start
      exact absurd ⟨first, second, isHigh, isLow⟩ (alone _ _)
  | plain here plain value =>
    cases ht with
    | pair pair =>
      cases start
      cases here.symm.trans pair.1
      exact absurd (Or.inl pair.2.2.1) plain
    | plain here' _ value' =>
      cases start
      cases here.symm.trans here'
      rw [Char.toNat_inj.mp (value.trans value'.symm)]
    | unpaired here' surrogate =>
      cases start
      cases here.symm.trans here'
      exact absurd surrogate plain
  | unpaired here surrogate alone =>
    cases ht with
    | pair pair =>
      cases start
      exact absurd pair (alone _ _)
    | plain here' plain =>
      cases start
      cases here.symm.trans here'
      exact absurd surrogate plain
    | unpaired =>
      cases start
      rfl

end Utf16

namespace TextSpan

def entries {α : Type} (span : TextSpan) (xs : List α) : List α :=
  (xs.drop span.start).take (span.stop - span.start)

def takes (span : TextSpan) (i : Nat) : Bool := span.start ≤ i && i < span.stop

end TextSpan

/-- Spans one behind the other from a place to another one, none of them empty. -/
def Tiles : Nat → List TextSpan → Nat → Prop
  | start, [], stop => start = stop
  | start, span :: rest, stop => span.start = start ∧ start < span.stop ∧ Tiles span.stop rest stop

namespace Tiles

variable {start stop : Nat} {spans : List TextSpan}

theorem le (tiled : Tiles start spans stop) : start ≤ stop := by
  induction spans generalizing start with
  | nil => exact Nat.le_of_eq tiled
  | cons span rest ih =>
    obtain ⟨-, filled, behind⟩ := tiled
    have := ih behind
    omega

theorem inside (tiled : Tiles start spans stop) :
    ∀ span ∈ spans, start ≤ span.start ∧ span.start < span.stop ∧ span.stop ≤ stop := by
  induction spans generalizing start with
  | nil => simp
  | cons first rest ih =>
    obtain ⟨rfl, filled, behind⟩ := tiled
    intro span member
    rcases List.mem_cons.mp member with rfl | member
    · exact ⟨Nat.le_refl _, filled, behind.le⟩
    · have later := ih behind span member
      omega

theorem countP_takes (tiled : Tiles start spans stop) {i : Nat} (low : start ≤ i)
    (high : i < stop) : spans.countP (·.takes i) = 1 := by
  induction spans generalizing start with
  | nil =>
    have same : start = stop := tiled
    omega
  | cons first rest ih =>
    obtain ⟨rfl, filled, behind⟩ := tiled
    rw [List.countP_cons]
    by_cases here : i < first.stop
    · have none : rest.countP (·.takes i) = 0 := by
        refine List.countP_eq_zero.mpr fun span member => ?_
        have later := (behind.inside span member).1
        simp [TextSpan.takes]
        omega
      rw [none]
      simp [TextSpan.takes, low, here]
    · rw [ih behind (Nat.le_of_not_lt here)]
      simp [TextSpan.takes, here]

theorem flatMap_entries {α : Type} (tiled : Tiles start spans stop) {xs : List α}
    (size : xs.length = stop) : spans.flatMap (·.entries xs) = xs.drop start := by
  induction spans generalizing start with
  | nil =>
    have same : start = stop := tiled
    simp [same, ← size]
  | cons first rest ih =>
    obtain ⟨rfl, filled, behind⟩ := tiled
    rw [List.flatMap_cons, ih behind, TextSpan.entries]
    have moved : xs.drop first.stop = (xs.drop first.start).drop (first.stop - first.start) := by
      rw [List.drop_drop, Nat.add_sub_cancel' (Nat.le_of_lt filled)]
    rw [moved, List.take_append_drop]

end Tiles

theorem tiles_layOut {parts : List (TextUnit × Nat)} (filled : ∀ part ∈ parts, 0 < part.2)
    (start : Nat) :
    Tiles start (layOut start parts) (start + (parts.map (·.2)).foldr (· + ·) 0) := by
  induction parts generalizing start with
  | nil => exact rfl
  | cons part rest ih =>
    have first := filled part (by simp)
    refine ⟨rfl, ?_, ?_⟩
    · change start < start + part.2
      omega
    · have behind := ih (fun p member => filled p (by simp [member])) (start + part.2)
      rw [Nat.add_assoc] at behind
      exact behind

def charPart (span : Char × Nat) : TextUnit × Nat := (.char span.1, span.2)

theorem layOut_charPart (c : Char) (count start : Nat) (rest : List (Char × Nat)) :
    layOut start (((c, count) :: rest).map charPart) =
      ⟨.char c, start, start + count⟩ :: layOut (start + count) (rest.map charPart) := rfl

theorem length_glyphParts (ids : List UInt16) :
    ((ids.map fun id => (TextUnit.glyph id, 1)).map (·.2)).foldr (· + ·) 0 = ids.length := by
  induction ids with
  | nil => rfl
  | cons id rest ih => rw [List.map_cons, List.map_cons, List.foldr_cons, ih, List.length_cons,
      Nat.add_comm]

theorem textSpans_tiles (units : List UInt16) (glyphs : Bool) :
    Tiles 0 (textSpans units glyphs) units.length := by
  unfold textSpans
  cases glyphs with
  | true =>
    have filled : ∀ part ∈ units.map fun id => (TextUnit.glyph id, 1), 0 < part.2 := by simp
    have tiled := tiles_layOut filled 0
    rw [length_glyphParts, Nat.zero_add] at tiled
    exact tiled
  | false =>
    have filled : ∀ part ∈ (Utf16.spans units).map charPart, 0 < part.2 := by
      intro part member
      obtain ⟨span, found, rfl⟩ := List.mem_map.mp member
      exact Utf16.spans_filled units span found
    have tiled := tiles_layOut filled 0
    have total : (((Utf16.spans units).map charPart).map (·.2)).foldr (· + ·) 0 =
        units.length := by
      rw [List.map_map]
      exact Utf16.sum_spans units
    rw [total, Nat.zero_add] at tiled
    exact tiled

theorem textSpans_glyphs (units : List UInt16) :
    textSpans units true = units.mapIdx fun i id => ⟨.glyph id, i, i + 1⟩ := by
  have laid (start : Nat) : layOut start (units.map fun id => (.glyph id, 1)) =
      units.mapIdx fun i id => ⟨.glyph id, start + i, start + i + 1⟩ := by
    induction units generalizing start with
    | nil => rfl
    | cons id rest ih =>
      rw [List.map_cons, layOut, ih, List.mapIdx_cons]
      simp only [Nat.add_assoc, Nat.add_comm 1, Nat.add_zero]
  simpa [textSpans] using laid 0

theorem reads_layOut {units rest : List UInt16} {start : Nat} (left : units.drop start = rest) :
    ∀ span ∈ layOut start ((Utf16.spans rest).map charPart), Utf16.Reads units span := by
  have place (i : Nat) : units[start + i]? = rest[i]? := by rw [← left, List.getElem?_drop]
  have behind (n : Nat) : units.drop (start + n) = rest.drop n := by rw [← left, List.drop_drop]
  fun_induction Utf16.spans rest generalizing start with
  | case1 => simp [layOut]
  | case2 u =>
    intro span member
    rw [List.mem_singleton.mp member]
    exact Utf16.reads_single (place 0) (by simp [place 1])
  | case3 u v rest pair ih =>
    intro span member
    rw [layOut_charPart] at member
    rcases List.mem_cons.mp member with rfl | later
    · exact Utf16.reads_pair ⟨place 0, place 1, pair⟩
    · refine ih (behind 2) (fun i => ?_) (fun n => ?_) span later
      · rw [Nat.add_assoc, place, Nat.add_comm]
        rfl
      · rw [Nat.add_assoc, behind, Nat.add_comm]
        rfl
  | case4 u v rest single ih =>
    intro span member
    rw [layOut_charPart] at member
    rcases List.mem_cons.mp member with rfl | later
    · refine Utf16.reads_single (place 0) fun low next => ?_
      rw [place 1] at next
      cases next
      exact single
    · refine ih (behind 1) (fun i => ?_) (fun n => ?_) span later
      · rw [Nat.add_assoc, place, Nat.add_comm]
        rfl
      · rw [Nat.add_assoc, behind, Nat.add_comm]
        rfl

theorem textSpans_reads (units : List UInt16) :
    ∀ span ∈ textSpans units false, Utf16.Reads units span :=
  reads_layOut (List.drop_zero (l := units))

theorem Tiles.unique {units : List UInt16} {start stop : Nat} {spans spans' : List TextSpan}
    (tiled : Tiles start spans stop) (tiled' : Tiles start spans' stop)
    (reads : ∀ span ∈ spans, Utf16.Reads units span)
    (reads' : ∀ span ∈ spans', Utf16.Reads units span) : spans = spans' := by
  induction spans generalizing start spans' with
  | nil =>
    cases spans' with
    | nil => rfl
    | cons span' rest' =>
      obtain ⟨-, filled, behind⟩ := tiled'
      have same : start = stop := tiled
      have := behind.le
      omega
  | cons span rest ih =>
    obtain ⟨first, filled, behind⟩ := tiled
    cases spans' with
    | nil =>
      have same : start = stop := tiled'
      have := behind.le
      omega
    | cons span' rest' =>
      obtain ⟨first', -, behind'⟩ := tiled'
      have same : span = span' :=
        (reads span (by simp)).unique (reads' span' (by simp)) (first.trans first'.symm)
      subst same
      rw [ih behind behind' (fun s member => reads s (by simp [member]))
        (fun s member => reads' s (by simp [member]))]

/-- The characters of a text one behind the other, each as long as its encoding. -/
def measured (start : Nat) : List (Option Char) → List TextSpan
  | [] => []
  | some c :: rest =>
      ⟨.char c, start, start + Utf16.unitCount c⟩ :: measured (start + Utf16.unitCount c) rest
  | none :: rest => ⟨.char '\uFFFD', start, start + 1⟩ :: measured (start + 1) rest

theorem measured_plainChar (u : UInt16) (start : Nat) (rest : List (Option Char)) :
    measured start (Utf16.plainChar? u :: rest) =
      ⟨.char (Utf16.unitChar u), start, start + 1⟩ :: measured (start + 1) rest := by
  by_cases surrogate : Utf16.IsSurrogate u
  · rw [Utf16.plainChar?, if_pos surrogate, Utf16.unitChar_of_surrogate surrogate]
    rfl
  · have small : (Char.ofNat u.toNat).toNat < 0x10000 := by
      rw [← Utf16.unitChar_of_plain surrogate, Utf16.toNat_unitChar surrogate]
      exact u.toNat_lt
    have one : Utf16.unitCount (Char.ofNat u.toNat) = 1 := if_pos small
    rw [Utf16.plainChar?, if_neg surrogate, Utf16.unitChar_of_plain surrogate, measured, one]

theorem layOut_eq_measured (units : List UInt16) (start : Nat) :
    layOut start ((Utf16.spans units).map charPart) = measured start (Utf16.decoded units) := by
  fun_induction Utf16.spans units generalizing start with
  | case1 => rfl
  | case2 u => exact (measured_plainChar u start []).symm
  | case3 u v rest pair ih =>
    have large : 0x10000 ≤ (Utf16.pairChar u v).toNat := by
      rw [Utf16.toNat_pairChar pair.1 pair.2]
      exact Utf16.le_pairScalar u v
    have two : Utf16.unitCount (Utf16.pairChar u v) = 2 := if_neg (Nat.not_lt.mpr large)
    rw [Utf16.decoded, if_pos pair, measured, two, ← ih, layOut_charPart]
  | case4 u v rest single ih =>
    rw [Utf16.decoded, if_neg single, measured_plainChar, ← ih, layOut_charPart]

theorem map_unit_layOut (parts : List (TextUnit × Nat)) (start : Nat) :
    (layOut start parts).map (·.unit) = parts.map (·.1) := by
  induction parts generalizing start with
  | nil => rfl
  | cons part rest ih => rw [layOut, List.map_cons, ih, List.map_cons]

theorem map_unit_encode (s : String) :
    (textSpans (Utf16.encode s) false).map (·.unit) = s.toList.map .char := by
  change (layOut 0 ((Utf16.spans (Utf16.encode s)).map _)).map (·.unit) = _
  rw [map_unit_layOut, Utf16.spans_encode, List.map_map, List.map_map]
  rfl

theorem DeviceText.advances_glyphs (t : DeviceText) (face : Face) (scale : Float32)
    (full : t.advances.length = t.codeUnits.length) :
    (t.glyphs face scale).map (·.advance) =
      (textSpans t.codeUnits t.glyphIndices).map
        fun span => (span.entries t.advances).foldl (· + ·) (-0.0) := by
  unfold glyphs
  rw [List.map_map]
  refine List.map_congr_left fun span member => ?_
  obtain ⟨-, filled, inside⟩ := (textSpans_tiles _ _).inside span member
  rw [← full] at inside
  have length : (span.entries t.advances).length = span.stop - span.start := by
    rw [TextSpan.entries, List.length_take, List.length_drop]
    omega
  have given : (decide (span.stop ≤ t.advances.length) && !(span.entries t.advances).isEmpty) =
      true := by
    rw [decide_eq_true inside, Bool.true_and, Bool.not_eq_true', List.isEmpty_eq_false_iff,
      ← List.length_pos_iff, length]
    omega
  exact if_pos given

/-- The spans of a text take up its code units one behind the other, and with them the advances.
With glyph numbers they are the single units. Without, they are the one way to lie so that a span is
a surrogate pair or a unit outside of pairs, and they are as long as the characters that a decoder
finds. The text of a string has its characters. -/
theorem textSpans_tile (units : List UInt16) :
    (∀ glyphs, Tiles 0 (textSpans units glyphs) units.length ∧
      (∀ i < units.length, (textSpans units glyphs).countP (·.takes i) = 1) ∧
      ∀ (t : DeviceText) (face : Face) (scale : Float32), t.codeUnits = units →
        t.glyphIndices = glyphs → t.advances.length = units.length →
        (textSpans units glyphs).flatMap (·.entries t.advances) = t.advances ∧
        (t.glyphs face scale).map (·.advance) = (textSpans units glyphs).map
          fun span => (span.entries t.advances).foldl (· + ·) (-0.0)) ∧
    textSpans units true = units.mapIdx (fun i id => ⟨.glyph id, i, i + 1⟩) ∧
    (∀ spans, spans = textSpans units false ↔
      Tiles 0 spans units.length ∧ ∀ span ∈ spans, Utf16.Reads units span) ∧
    textSpans units false = measured 0 (Utf16.decoded units) ∧
    ∀ s : String, (textSpans (Utf16.encode s) false).map (·.unit) = s.toList.map .char := by
  refine ⟨fun glyphs => ?_, textSpans_glyphs units, fun spans => ?_, layOut_eq_measured units 0,
    map_unit_encode⟩
  · have tiled := textSpans_tiles units glyphs
    refine ⟨tiled, fun i inside => tiled.countP_takes (Nat.zero_le i) inside, ?_⟩
    rintro t face scale rfl rfl full
    exact ⟨tiled.flatMap_entries full, t.advances_glyphs face scale full⟩
  · constructor
    · rintro rfl
      exact ⟨textSpans_tiles units false, textSpans_reads units⟩
    · rintro ⟨tiled, reads⟩
      exact tiled.unique (textSpans_tiles units false) reads (textSpans_reads units)

/-- A letter, a surrogate pair, a low surrogate behind it, the replacement character itself and a
high surrogate with nothing behind. -/
def straySurrogates : List UInt16 := [0x61, 0xD83D, 0xDE00, 0xDE00, 0xFFFD, 0xD800]

def strayText : DeviceText where
  codeUnits := straySurrogates
  glyphIndices := false
  advances := [1, 2, 3, 4, 5, 6]
  reference := ⟨0, 0⟩
  align := ⟨0⟩
  escapement := 0
  height := 1
  underline := false
  strikeOut := false
  color := .black
  background := none

def bareFace : Face := ⟨1, 0, 0, fun _ => none, fun _ => none, fun _ => none, none, none⟩

theorem textSpans_tile_strays :
    textSpans straySurrogates false =
      [⟨.char 'a', 0, 1⟩, ⟨.char '😀', 1, 3⟩, ⟨.char '\uFFFD', 3, 4⟩, ⟨.char '\uFFFD', 4, 5⟩,
        ⟨.char '\uFFFD', 5, 6⟩] ∧
    Tiles 0 (textSpans straySurrogates false) 6 ∧
    (2 < straySurrogates.length ∧
      (textSpans straySurrogates false).countP (·.takes 2) = 1) ∧
    (strayText.advances.length = straySurrogates.length ∧
      (textSpans straySurrogates false).flatMap (·.entries strayText.advances) =
        strayText.advances ∧
      (strayText.glyphs bareFace 1).map (·.advance) = (textSpans straySurrogates false).map
        fun span => (span.entries strayText.advances).foldl (· + ·) (-0.0)) ∧
    (textSpans straySurrogates true)[3]? = some ⟨.glyph 0xDE00, 3, 4⟩ := by
  obtain ⟨split, glyphs, -⟩ := textSpans_tile straySurrogates
  obtain ⟨tiled, taken, advanced⟩ := split false
  have second : 2 < straySurrogates.length := by decide
  have full : strayText.advances.length = straySurrogates.length := by decide
  refine ⟨by decide, tiled, ⟨second, taken 2 second⟩,
    ⟨full, advanced strayText bareFace 1 rfl rfl full⟩, ?_⟩
  rw [glyphs]
  rfl

end Metafile
