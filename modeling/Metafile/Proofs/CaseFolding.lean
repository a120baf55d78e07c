import Mathlib.Data.List.DropRight
import Mathlib.Data.Nat.Bitwise
import Metafile.Text.Case

/-! # Small letters

Lowering a text twice does the same as lowering it once, keeps its ends free of blanks, and does not
tell apart texts that agree but for the case of the letters A to Z. -/
namespace Metafile

/-! ## Sets of numbers -/

def bitsOf (numbers : List Nat) : Nat := numbers.foldr (fun n bits => 2 ^ n ||| bits) 0

theorem testBit_bitsOf (numbers : List Nat) (n : Nat) :
    (bitsOf numbers).testBit n = true ↔ n ∈ numbers := by
  induction numbers with
  | nil => simp [bitsOf]
  | cons head rest ih =>
    change (2 ^ head ||| bitsOf rest).testBit n = true ↔ _
    rw [Nat.testBit_or, Bool.or_eq_true, ih, Nat.testBit_two_pow, decide_eq_true_eq,
      List.mem_cons, eq_comm]

/-- A conjunction of large numbers is a single step, however many pairs of elements there are. -/
theorem disjoint_of_bitsOf {xs ys : List Nat} (apart : bitsOf xs &&& bitsOf ys = 0) :
    xs.Disjoint ys := by
  intro n left right
  have both : (bitsOf xs &&& bitsOf ys).testBit n = true := by
    rw [Nat.testBit_and, (testBit_bitsOf xs n).mpr left, (testBit_bitsOf ys n).mpr right]
    rfl
  rw [apart, Nat.zero_testBit] at both
  cases both

def numbersIn (ranges : List (Nat × Nat)) : List Nat :=
  ranges.flatMap fun (first, last) => List.range' first (last + 1 - first)

theorem mem_numbersIn {ranges : List (Nat × Nat)} {n : Nat} :
    n ∈ numbersIn ranges ↔ ∃ range ∈ ranges, range.1 ≤ n ∧ n ≤ range.2 := by
  simp only [numbersIn, List.mem_flatMap, List.mem_range'_1]
  refine exists_congr fun range => and_congr_right fun _ => ?_
  omega

namespace Letter

theorem isIn_iff {ranges : List (Nat × Nat)} {c : Char} :
    isIn ranges c = true ↔ c.toNat ∈ numbersIn ranges := by
  rw [mem_numbersIn, isIn, List.any_eq_true]
  simp only [Bool.and_eq_true, decide_eq_true_eq]

def lowerings : List (Nat × Nat) :=
  CaseTables.lowerRuns.flatMap fun (first, last, step, distance) =>
    (List.range ((last - first) / step + 1)).map fun i =>
      (first + step * i, (((first + step * i : Nat) : Int) + distance).toNat)

def smallLetters : List Nat := lowerings.map (·.2)

/-- What lowering changes in a text. -/
def unsettled : List Nat := dottedCapitalI.toNat :: lowerings.map (·.1)

theorem capital_cases (c : Char) : lower c = c ∨
    ∃ small, (c.toNat, small) ∈ lowerings ∧ lower c = Char.ofNat small := by
  unfold lower
  dsimp only
  split
  · rename_i first last step distance found
    right
    have member := List.mem_of_find?_eq_some found
    have inside := List.find?_some found
    simp only [Bool.and_eq_true, decide_eq_true_eq, beq_iff_eq] at inside
    obtain ⟨⟨low, high⟩, stepped⟩ := inside
    have place : first + step * ((c.toNat - first) / step) = c.toNat := by
      have whole := Nat.div_add_mod (c.toNat - first) step
      omega
    have bound : (c.toNat - first) / step ≤ (last - first) / step :=
      Nat.div_le_div_right (by omega)
    refine ⟨_, List.mem_flatMap.mpr ⟨_, member, List.mem_map.mpr
      ⟨(c.toNat - first) / step, List.mem_range.mpr (by omega), ?_⟩⟩, rfl⟩
    rw [place]
  · exact .inl rfl

theorem isValidChar_of_mem {n : Nat} (small : n ∈ smallLetters) : n.isValidChar := by
  have all : smallLetters.all (fun n => n.blt 0xD800 || Nat.blt 0xDFFF n && n.blt 0x110000) =
      true := by decide +kernel
  have valid := List.all_eq_true.mp all n small
  simp only [Bool.or_eq_true, Bool.and_eq_true, Nat.blt_eq] at valid
  exact valid

theorem smallLetters_disjoint : smallLetters.Disjoint unsettled :=
  disjoint_of_bitsOf (by decide +kernel)

def blanks : List (Nat × Nat) :=
  [(0x09, 0x0D), (0x20, 0x20), (0x85, 0x85), (0xA0, 0xA0), (0x1680, 0x1680),
    (0x2000, 0x200A), (0x2028, 0x2029), (0x202F, 0x202F), (0x205F, 0x205F), (0x3000, 0x3000)]

theorem smallLetters_disjoint_blanks : smallLetters.Disjoint (numbersIn blanks) :=
  disjoint_of_bitsOf (by decide +kernel)

theorem isBlank_iff {c : Char} : isBlank c = true ↔ c.toNat ∈ numbersIn blanks := isIn_iff

theorem lower_cases (c : Char) :
    lower c = c ∨ c.toNat ∈ unsettled ∧ (lower c).toNat ∈ smallLetters := by
  rcases capital_cases c with same | ⟨small, pair, lowered⟩
  · exact .inl same
  · have member : small ∈ smallLetters := List.mem_map.mpr ⟨_, pair, rfl⟩
    refine .inr ⟨List.mem_cons_of_mem _ (List.mem_map.mpr ⟨_, pair, rfl⟩), ?_⟩
    rw [lowered, Char.ofNat, dif_pos (isValidChar_of_mem member)]
    exact member

structure IsSmall (c : Char) : Prop where
  lower : lower c = c
  sigma : c ≠ capitalSigma
  dotted : c ≠ dottedCapitalI

theorem capitalSigma_mem : capitalSigma.toNat ∈ unsettled := by
  rcases lower_cases capitalSigma with same | ⟨capital, -⟩
  · exact absurd same (by decide +kernel)
  · exact capital

theorem isSmall_of_settled {c : Char} (settled : c.toNat ∉ unsettled) : IsSmall c where
  lower := by
    rcases lower_cases c with same | ⟨capital, -⟩
    · exact same
    · exact absurd capital settled
  sigma := by
    rintro rfl
    exact settled capitalSigma_mem
  dotted := by
    rintro rfl
    exact settled List.mem_cons_self

theorem isSmall_of_apart {text : List Char}
    (apart : bitsOf (text.map Char.toNat) &&& bitsOf unsettled = 0) : ∀ c ∈ text, IsSmall c :=
  fun _ member => isSmall_of_settled (disjoint_of_bitsOf apart (List.mem_map_of_mem member))

theorem isSmall_lower {c : Char} (sigma : c ≠ capitalSigma) (dotted : c ≠ dottedCapitalI) :
    IsSmall (lower c) := by
  rcases lower_cases c with same | ⟨-, small⟩
  · rw [same]
    exact ⟨same, sigma, dotted⟩
  · exact isSmall_of_settled (smallLetters_disjoint small)

/-- The letters that special cases of lowering put in. -/
def specials : List Char := [smallSigma, finalSigma, 'i', '\u0307']

theorem isSmall_of_special {c : Char} (special : c ∈ specials) : IsSmall c := by
  have settled : specials.all (fun c => lower c == c && c != capitalSigma && c != dottedCapitalI) =
      true := by decide +kernel
  simp only [List.all_eq_true, Bool.and_eq_true, beq_iff_eq, bne_iff_ne] at settled
  obtain ⟨⟨same, sigma⟩, dotted⟩ := settled c special
  exact ⟨same, sigma, dotted⟩

theorem isBlank_of_special {c : Char} (special : c ∈ specials) : isBlank c = false := by
  have none : specials.any isBlank = false := by decide +kernel
  exact Bool.not_eq_true _ ▸ List.any_eq_false.mp none c special

end Letter

open Letter

/-- What a character becomes, with the text before it, last first, and the text behind it. -/
def lowered (before : List Char) (c : Char) (rest : List Char) : List Char :=
  if c = capitalSigma then
    [if meetsCased before && !meetsCased rest then finalSigma else smallSigma]
  else if c = dottedCapitalI then ['i', '\u0307']
  else [lower c]

theorem lowerFrom_cons (before : List Char) (c : Char) (rest : List Char) :
    lowerFrom before (c :: rest) = lowered before c rest ++ lowerFrom (c :: before) rest := rfl

theorem mem_lowered {before rest : List Char} {c x : Char} (member : x ∈ lowered before c rest) :
    x ∈ specials ∨ c ≠ capitalSigma ∧ c ≠ dottedCapitalI ∧ x = lower c := by
  unfold lowered at member
  by_cases sigma : c = capitalSigma
  · rw [if_pos sigma, List.mem_singleton] at member
    left
    rw [member]
    split <;> decide
  rw [if_neg sigma] at member
  by_cases dotted : c = dottedCapitalI
  · rw [if_pos dotted] at member
    exact .inl (List.mem_cons_of_mem _ (List.mem_cons_of_mem _ member))
  · rw [if_neg dotted, List.mem_singleton] at member
    exact .inr ⟨sigma, dotted, member⟩

theorem lowered_ne_nil (before : List Char) (c : Char) (rest : List Char) :
    lowered before c rest ≠ [] := by
  unfold lowered
  split
  · nofun
  · split <;> nofun

theorem isSmall_lowered {before rest : List Char} {c x : Char}
    (member : x ∈ lowered before c rest) : IsSmall x := by
  rcases mem_lowered member with special | ⟨sigma, dotted, rfl⟩
  · exact isSmall_of_special special
  · exact isSmall_lower sigma dotted

theorem isBlank_lowered {before rest : List Char} {c x : Char} (inked : isBlank c = false)
    (member : x ∈ lowered before c rest) : isBlank x = false := by
  rcases mem_lowered member with special | ⟨-, -, rfl⟩
  · exact isBlank_of_special special
  · rcases lower_cases c with same | ⟨-, small⟩
    · rw [same, inked]
    · rw [← Bool.not_eq_true, isBlank_iff]
      exact smallLetters_disjoint_blanks small

/-! ## Lowering twice -/

theorem isSmall_lowerFrom {before text : List Char} : ∀ x ∈ lowerFrom before text, IsSmall x := by
  induction text generalizing before with
  | nil => nofun
  | cons c rest ih =>
    intro x member
    rw [lowerFrom_cons, List.mem_append] at member
    rcases member with here | behind
    · exact isSmall_lowered here
    · exact ih x behind

theorem lowerFrom_of_small {before text : List Char} (small : ∀ c ∈ text, IsSmall c) :
    lowerFrom before text = text := by
  induction text generalizing before with
  | nil => rfl
  | cons c rest ih =>
    have head := small c List.mem_cons_self
    rw [lowerFrom_cons, lowered, if_neg head.sigma, if_neg head.dotted, head.lower,
      ih fun x member => small x (List.mem_cons_of_mem _ member)]
    rfl

theorem lowercase_of_small {s : String} (small : ∀ c ∈ s.toList, IsSmall c) : lowercase s = s := by
  rw [lowercase, lowerFrom_of_small small, String.ofList_toList]

theorem lowercase_lowercase (s : String) : lowercase (lowercase s) = lowercase s := by
  refine lowercase_of_small fun c member => ?_
  rw [lowercase, String.toList_ofList] at member
  exact isSmall_lowerFrom c member

/-! ## Blanks around a text -/

structure Trimmed (text : List Char) : Prop where
  first : ∀ c ∈ text.head?, isBlank c = false
  last : ∀ c ∈ text.getLast?, isBlank c = false

theorem trimBlanks_eq (s : String) :
    trimBlanks s = String.ofList ((s.toList.dropWhile isBlank).rdropWhile isBlank) := rfl

theorem isBlank_head_dropWhile {text : List Char} {c : Char}
    (first : c ∈ (text.dropWhile isBlank).head?) : isBlank c = false := by
  have inked := List.head?_dropWhile_not isBlank text
  rw [Option.mem_def.mp first] at inked
  exact inked

theorem trimmed_trim (text : List Char) :
    Trimmed ((text.dropWhile isBlank).rdropWhile isBlank) := by
  constructor
  · intro c first
    obtain ⟨rest, front⟩ := List.rdropWhile_prefix isBlank (text.dropWhile isBlank)
    have before : c ∈ (text.dropWhile isBlank).head? := by
      rw [← front, List.head?_append, Option.mem_def.mp first]
      rfl
    exact isBlank_head_dropWhile before
  · intro c last
    rw [List.rdropWhile, List.getLast?_reverse] at last
    exact isBlank_head_dropWhile last

theorem dropWhile_of_head {text : List Char} (first : ∀ c ∈ text.head?, isBlank c = false) :
    text.dropWhile isBlank = text := by
  cases text with
  | nil => rfl
  | cons c rest => rw [List.dropWhile_cons, first c rfl, if_neg Bool.false_ne_true]

theorem trimBlanks_of_trimmed {s : String} (trimmed : Trimmed s.toList) : trimBlanks s = s := by
  have back : ∀ c ∈ s.toList.reverse.head?, isBlank c = false := by
    intro c last
    rw [List.head?_reverse] at last
    exact trimmed.last c last
  rw [trimBlanks_eq, dropWhile_of_head trimmed.first, List.rdropWhile, dropWhile_of_head back,
    List.reverse_reverse, String.ofList_toList]

theorem trimmed_trimBlanks (s : String) : Trimmed (trimBlanks s).toList := by
  rw [trimBlanks_eq, String.toList_ofList]
  exact trimmed_trim s.toList

theorem lowerFrom_ne_nil {before text : List Char} (filled : text ≠ []) :
    lowerFrom before text ≠ [] := by
  obtain ⟨c, rest, rfl⟩ := List.exists_cons_of_ne_nil filled
  rw [lowerFrom_cons]
  exact List.append_ne_nil_of_left_ne_nil (lowered_ne_nil before c rest) _

theorem first_lowerFrom {before text : List Char} (first : ∀ c ∈ text.head?, isBlank c = false) :
    ∀ x ∈ (lowerFrom before text).head?, isBlank x = false := by
  cases text with
  | nil => nofun
  | cons c rest =>
    intro x member
    rw [lowerFrom_cons, List.head?_append_of_ne_nil _ (lowered_ne_nil before c rest)] at member
    exact isBlank_lowered (first c rfl) (List.mem_of_mem_head? member)

theorem last_lowerFrom {before text : List Char} (last : ∀ c ∈ text.getLast?, isBlank c = false) :
    ∀ x ∈ (lowerFrom before text).getLast?, isBlank x = false := by
  induction text generalizing before with
  | nil => nofun
  | cons c rest ih =>
    intro x member
    rw [lowerFrom_cons] at member
    by_cases ended : rest = []
    · rw [ended, lowerFrom, List.append_nil] at member
      rw [ended] at last
      exact isBlank_lowered (last c rfl) (List.mem_of_mem_getLast? member)
    · rw [List.getLast?_append_of_ne_nil _ (lowerFrom_ne_nil ended)] at member
      refine ih (fun c behind => last c ?_) x member
      rw [List.getLast?_cons_of_ne_nil ended]
      exact behind

theorem trimBlanks_lowercase {s : String} (trimmed : Trimmed s.toList) :
    trimBlanks (lowercase s) = lowercase s := by
  refine trimBlanks_of_trimmed ?_
  rw [lowercase, String.toList_ofList]
  exact ⟨first_lowerFrom trimmed.first, last_lowerFrom trimmed.last⟩

/-! ## The letters A to Z -/

def asciiCapitals : List Char := (List.range 26).map fun i => Char.ofNat (65 + i)

theorem toLower_cases (c : Char) : c.toLower = c ∨ c ∈ asciiCapitals := by
  by_cases upper : 65 ≤ c.toNat ∧ c.toNat ≤ 90
  · right
    have place : 65 + (c.toNat - 65) = c.toNat := by omega
    refine List.mem_map.mpr ⟨c.toNat - 65, List.mem_range.mpr (by omega), ?_⟩
    rw [place, Char.ofNat_toNat]
  · left
    unfold Char.toLower
    rw [dif_neg]
    rintro ⟨low, high⟩
    exact upper ⟨UInt32.le_iff_toNat_le.mp low, UInt32.le_iff_toNat_le.mp high⟩

/-- Nothing that counts for lowering tells two characters apart. -/
structure SameLetter (c d : Char) : Prop where
  lower : lower c = lower d
  cased : isCased c = isCased d
  ignorable : isCaseIgnorable c = isCaseIgnorable d
  sigma : c = capitalSigma ↔ d = capitalSigma
  dotted : c = dottedCapitalI ↔ d = dottedCapitalI
  blank : isBlank c = isBlank d

theorem isIn_of_outside {ranges : List (Nat × Nat)} {low high : Nat} {c : Char}
    (outside : ranges.all (fun range => range.2.blt low || high.blt range.1) = true)
    (above : low ≤ c.toNat) (below : c.toNat ≤ high) : isIn ranges c = false := by
  rw [← Bool.not_eq_true, isIn_iff, mem_numbersIn]
  rintro ⟨range, member, first, last⟩
  have apart := List.all_eq_true.mp outside range member
  rw [Bool.or_eq_true, Nat.blt_eq, Nat.blt_eq] at apart
  omega

theorem sameLetter_of_capital {c : Char} (capital : c ∈ asciiCapitals) : SameLetter c.toLower c := by
  have places : asciiCapitals.all (fun c => decide (0x41 ≤ c.toNat ∧ c.toNat ≤ 0x5A) &&
      decide (0x61 ≤ c.toLower.toNat ∧ c.toLower.toNat ≤ 0x7A)) = true := by decide +kernel
  have cased : asciiCapitals.all (fun c => isCased c && isCased c.toLower) = true := by
    decide +kernel
  have plain : asciiCapitals.all (fun c => lower c == c.toLower && c != capitalSigma &&
      c != dottedCapitalI && isBlank c.toLower == isBlank c) = true := by decide +kernel
  simp only [List.all_eq_true, Bool.and_eq_true, decide_eq_true_eq, beq_iff_eq, bne_iff_ne]
    at places cased plain
  obtain ⟨⟨low, high⟩, low', high'⟩ := places c capital
  obtain ⟨⟨⟨lowered, sigma⟩, dotted⟩, blank⟩ := plain c capital
  have small : IsSmall c.toLower := lowered ▸ isSmall_lower sigma dotted
  exact {
    lower := small.lower.trans lowered.symm
    cased := (cased c capital).2.trans (cased c capital).1.symm
    ignorable := (isIn_of_outside (by decide +kernel) low' high').trans
      (isIn_of_outside (by decide +kernel) low high).symm
    sigma := iff_of_false small.sigma sigma
    dotted := iff_of_false small.dotted dotted
    blank := blank }

theorem sameLetter_toLower (c : Char) : SameLetter c.toLower c := by
  rcases toLower_cases c with same | capital
  · rw [same]
    exact ⟨rfl, rfl, rfl, Iff.rfl, Iff.rfl, rfl⟩
  · exact sameLetter_of_capital capital

theorem meetsCased_toLower (text : List Char) :
    meetsCased (text.map Char.toLower) = meetsCased text := by
  have ignorable : isCaseIgnorable ∘ Char.toLower = isCaseIgnorable :=
    funext fun c => (sameLetter_toLower c).ignorable
  unfold meetsCased
  rw [List.dropWhile_map, ignorable, List.head?_map, Option.any_map]
  simp only [(sameLetter_toLower _).cased]

theorem lowered_toLower (before : List Char) (c : Char) (rest : List Char) :
    lowered (before.map Char.toLower) c.toLower (rest.map Char.toLower) = lowered before c rest := by
  have same := sameLetter_toLower c
  unfold lowered
  rw [meetsCased_toLower, meetsCased_toLower, same.lower]
  simp only [same.sigma, same.dotted]

theorem lowerFrom_toLower (before text : List Char) :
    lowerFrom (before.map Char.toLower) (text.map Char.toLower) = lowerFrom before text := by
  induction text generalizing before with
  | nil => rfl
  | cons c rest ih =>
    rw [List.map_cons, lowerFrom_cons, lowered_toLower, lowerFrom_cons, ← ih (c :: before)]
    rfl

theorem lowercase_of_agrees {s t : String} (agrees : agreesInAscii s t = true) :
    lowercase s = lowercase t := by
  have same : s.toList.map Char.toLower = t.toList.map Char.toLower := beq_iff_eq.mp agrees
  have left := lowerFrom_toLower [] s.toList
  rw [same, lowerFrom_toLower] at left
  rw [lowercase, lowercase, left]

theorem trimmed_toLower_iff (text : List Char) :
    Trimmed (text.map Char.toLower) ↔ Trimmed text := by
  have blank : ∀ c : Char, isBlank c.toLower = isBlank c := fun c => (sameLetter_toLower c).blank
  constructor
  · rintro ⟨first, last⟩
    simp only [List.head?_map, List.getLast?_map, Option.mem_map, forall_exists_index, and_imp,
      forall_apply_eq_imp_iff₂, blank] at first last
    exact ⟨first, last⟩
  · rintro ⟨first, last⟩
    constructor
    · simpa only [List.head?_map, Option.mem_map, forall_exists_index, and_imp,
        forall_apply_eq_imp_iff₂, blank] using first
    · simpa only [List.getLast?_map, Option.mem_map, forall_exists_index, and_imp,
        forall_apply_eq_imp_iff₂, blank] using last

theorem trimmed_of_agrees {s t : String} (agrees : agreesInAscii s t = true)
    (trimmed : Trimmed t.toList) : Trimmed s.toList := by
  have same : s.toList.map Char.toLower = t.toList.map Char.toLower := beq_iff_eq.mp agrees
  rw [← trimmed_toLower_iff, same]
  exact (trimmed_toLower_iff _).mpr trimmed

end Metafile
