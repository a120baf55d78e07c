import Mathlib.Tactic.SplitIfs
import Metafile.Bytes.Layout

/-! # Rows turned upside down in place

The first row changes places with the last one, the second with the last but one, and so on up to
the middle. A row that has been exchanged is not touched again, and of an odd number of rows the
middle one stays where it is. -/
namespace Metafile.Bytes

variable {b : Bytes} {stride rows : Nat}

def exchange (b : Bytes) (i j count : Nat) : Bytes :=
  (List.range count).foldl (fun b k => b.swapIfInBounds (i + k) (j + k)) b

def swapRows? (stride bottom : Nat) (b : Bytes) (top : Nat) : Option Bytes :=
  if (top + 1) * stride ≤ bottom * stride ∧ (bottom + 1) * stride ≤ b.size then
    some (b.exchange (top * stride) (bottom * stride) stride)
  else none

def flipRows? (stride : Nat) (b : Bytes) : Option Bytes :=
  if stride = 0 then some b
  else
    let rows := b.size / stride
    (List.range (rows / 2)).foldlM (fun b top => b.swapRows? stride (rows - 1 - top) top) b

/-- Where the byte at a place was before two runs changed places. -/
def cameFrom (i j count m : Nat) : Nat :=
  if i ≤ m ∧ m < i + count then j + (m - i)
  else if j ≤ m ∧ m < j + count then i + (m - j)
  else m

theorem getElem?_swapIfInBounds {i j : Nat} (first : i < b.size) (second : j < b.size) (m : Nat) :
    (b.swapIfInBounds i j)[m]? = b[if m = i then j else if m = j then i else m]? := by
  rw [Array.swapIfInBounds_def, dif_pos first, dif_pos second, Array.getElem?_swap,
    ← Array.getElem?_eq_getElem first, ← Array.getElem?_eq_getElem second]
  split_ifs <;> grind

theorem size_exchange (b : Bytes) (i j count : Nat) : (b.exchange i j count).size = b.size := by
  unfold exchange
  induction count with
  | zero => rfl
  | succ count ih =>
    rw [List.range_succ, List.foldl_append, List.foldl_cons, List.foldl_nil,
      Array.size_swapIfInBounds, ih]

theorem getElem?_exchange {i j count : Nat} (apart : i + count ≤ j) (inside : j + count ≤ b.size)
    (m : Nat) : (b.exchange i j count)[m]? = b[cameFrom i j count m]? := by
  induction count generalizing m with
  | zero =>
    have still : cameFrom i j 0 m = m := by
      rw [cameFrom, if_neg (by omega), if_neg (by omega)]
    rw [still]
    rfl
  | succ count ih =>
    have size := size_exchange b i j count
    have step : b.exchange i j (count + 1) =
        (b.exchange i j count).swapIfInBounds (i + count) (j + count) := by
      rw [exchange, List.range_succ, List.foldl_append]
      rfl
    rw [step, getElem?_swapIfInBounds (by omega) (by omega), ih (by omega) (by omega)]
    congr 1
    unfold cameFrom
    split_ifs <;> omega

theorem in_row_iff {r t k : Nat} (column : k < stride) :
    t * stride ≤ r * stride + k ∧ r * stride + k < t * stride + stride ↔ r = t := by
  constructor
  · rintro ⟨low, high⟩
    have above : r * stride < (t + 1) * stride := by
      rw [Nat.succ_mul]
      omega
    have below : t * stride < (r + 1) * stride := by
      rw [Nat.succ_mul]
      omega
    have notBelow : r < t + 1 := Nat.lt_of_mul_lt_mul_right above
    have notAbove : t < r + 1 := Nat.lt_of_mul_lt_mul_right below
    omega
  · rintro rfl
    omega

theorem cameFrom_row {top bottom r k : Nat} (column : k < stride) :
    cameFrom (top * stride) (bottom * stride) stride (r * stride + k) =
      (if r = top then bottom else if r = bottom then top else r) * stride + k := by
  unfold cameFrom
  simp only [in_row_iff column]
  split_ifs with upper lower
  · rw [upper]
    omega
  · rw [lower]
    omega
  · rfl

/-- Where a row was before the first rows changed places with the last ones. -/
def mirrored (rows count r : Nat) : Nat := if r < count ∨ rows ≤ r + count then rows - 1 - r else r

structure Turned (b : Bytes) (stride rows count : Nat) (next : Bytes) : Prop where
  size : next.size = b.size
  byte : ∀ r k, r < rows → k < stride →
    next[r * stride + k]? = b[mirrored rows count r * stride + k]?

theorem turned_zero (b : Bytes) (stride rows : Nat) : b.Turned stride rows 0 b := by
  refine ⟨rfl, fun r k row column => ?_⟩
  rw [mirrored, if_neg (by omega)]

theorem Turned.swapRows? {next : Bytes} {count : Nat} (turned : b.Turned stride rows count next)
    (whole : b.size = rows * stride) (upper : count < rows / 2) :
    ∃ next', next.swapRows? stride (rows - 1 - count) count = some next' ∧
      b.Turned stride rows (count + 1) next' := by
  have apart : (count + 1) * stride ≤ (rows - 1 - count) * stride :=
    Nat.mul_le_mul_right stride (by omega)
  have inside : (rows - 1 - count + 1) * stride ≤ next.size := by
    rw [turned.size, whole]
    exact Nat.mul_le_mul_right stride (by omega)
  refine ⟨_, if_pos ⟨apart, inside⟩, (size_exchange _ _ _ _).trans turned.size,
    fun r k row column => ?_⟩
  rw [Nat.succ_mul] at apart inside
  rw [getElem?_exchange apart inside, cameFrom_row column]
  have bottom : rows - 1 - count < rows := by omega
  by_cases first : r = count
  · rw [if_pos first, turned.byte _ k bottom column, mirrored, mirrored, if_neg (by omega),
      if_pos (by omega), first]
  · by_cases last : r = rows - 1 - count
    · rw [if_neg first, if_pos last, turned.byte _ k (by omega) column, mirrored, mirrored,
        if_neg (by omega), if_pos (by omega)]
      congr 3
      omega
    · rw [if_neg first, if_neg last, turned.byte _ k row column, mirrored, mirrored]
      have same : r < count ∨ rows ≤ r + count ↔ r < count + 1 ∨ rows ≤ r + (count + 1) := by omega
      simp only [same]

theorem turned_foldlM (whole : b.size = rows * stride) {count : Nat} (upper : count ≤ rows / 2) :
    ∃ next, (List.range count).foldlM
        (fun b top => b.swapRows? stride (rows - 1 - top) top) b = some next ∧
      b.Turned stride rows count next := by
  induction count with
  | zero => exact ⟨b, rfl, turned_zero b stride rows⟩
  | succ count ih =>
    obtain ⟨next, run, turned⟩ := ih (by omega)
    obtain ⟨next', step, turned'⟩ := turned.swapRows? whole (by omega)
    refine ⟨next', ?_, turned'⟩
    rw [List.range_succ, List.foldlM_append, run, Option.bind_eq_bind, Option.bind_some,
      List.foldlM_cons, step]
    rfl

/-- No row is missing, and each comes to its place from below. -/
theorem flipRows?_eq (whole : b.size = rows * stride) :
    ∃ next, b.flipRows? stride = some next ∧ next.size = b.size ∧
      ∀ r k, r < rows → k < stride →
        next[r * stride + k]? = b[(rows - 1 - r) * stride + k]? := by
  by_cases empty : stride = 0
  · refine ⟨b, if_pos empty, rfl, fun r k row column => ?_⟩
    omega
  · have count : b.size / stride = rows := by
      rw [whole]
      exact Nat.mul_div_cancel rows (Nat.pos_of_ne_zero empty)
    obtain ⟨next, run, turned⟩ := turned_foldlM whole (Nat.le_refl (rows / 2))
    refine ⟨next, ?_, turned.size, fun r k row column => ?_⟩
    · rw [flipRows?, if_neg empty, count]
      exact run
    · rw [turned.byte r k row column, mirrored]
      split
      · rfl
      · have middle : rows - 1 - r = r := by omega
        rw [middle]

end Metafile.Bytes
