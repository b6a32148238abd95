import LiveMigration.Dirty
import Mathlib.Tactic.SplitIfs

/-! The runs of a dirty bitmap are its maximal runs. A maximal run has at least one page, all its
    pages are dirty, and the pages right before and right after it are clean or lie outside the
    bitmap. The scan lists every maximal run and nothing else, from the first page to the last,
    and any two runs it lists are apart by at least one clean page.

    The scan is followed through what it has seen: after `i` pages, `n` of them dirty and still
    open, the runs it has yet to report are the maximal runs of `i - n` clean pages followed by `n`
    dirty pages and the rest of the bitmap (`window`). -/

namespace LiveMigration
namespace Dirty

/-- Whether page `j` of a bitmap is dirty; pages past its end are clean. --/
def dirtyAt (bitmap : List UInt8) (j : Nat) : Bool := (bitmap.map isDirty).getD j false

/-- `r` is a maximal run of the pages that `dirty` marks: it has a page, all its pages are marked,
    and the pages right before and right after it are not. --/
structure Run.IsMaximal (dirty : Nat → Bool) (r : Run) : Prop where
  pages_pos : 0 < r.pages
  inside : ∀ j, r.start ≤ j → j < r.start + r.pages → dirty j = true
  clean_before : ∀ j, j + 1 = r.start → dirty j = false
  clean_after : dirty (r.start + r.pages) = false

/-- `r` ends before `r'` starts, with at least one page between them. --/
def Run.Before (r r' : Run) : Prop := r.start + r.pages < r'.start

namespace Run

variable {dirty dirty' : Nat → Bool} {r : Run}

theorem IsMaximal.start_dirty (h : r.IsMaximal dirty) : dirty r.start = true :=
  h.inside r.start (Nat.le_refl _) (Nat.lt_add_of_pos_right h.pages_pos)

/-- Maximality looks only at the run and the page before it, and from there on. --/
theorem IsMaximal.of_agree (h : r.IsMaximal dirty) (hagree : ∀ j, r.start ≤ j + 1 → dirty j = dirty' j) :
    r.IsMaximal dirty' where
  pages_pos := h.pages_pos
  inside j h1 h2 := hagree j (by omega) ▸ h.inside j h1 h2
  clean_before j hj := hagree j (by omega) ▸ h.clean_before j hj
  clean_after := hagree (r.start + r.pages) (by omega) ▸ h.clean_after

end Run

/-! ### What the scan has seen -/

/-- The pages as the scan sees them once `n` dirty pages are open: `a` clean pages, then `n`
    dirty pages, then the rest of the bitmap. --/
def window (a n : Nat) (rest : List Bool) (j : Nat) : Bool :=
  if j < a then false else if j < a + n then true else rest.getD (j - (a + n)) false

section Window
variable {a n j : Nat} {bs : List Bool}

theorem window_of_lt (h : j < a) : window a n bs j = false := by
  simp [window, h]

theorem window_of_mem (h1 : a ≤ j) (h2 : j < a + n) : window a n bs j = true := by
  simp [window, h2, Nat.not_lt.mpr h1]

theorem window_false_end : window a n (false :: bs) (a + n) = false := by
  simp [window]

/-- After the clean page that closes the open pages, the two windows read alike. --/
theorem window_false_of_le (h : a + n ≤ j) : window a n (false :: bs) j = window (a + n + 1) 0 bs j := by
  rcases Nat.eq_or_lt_of_le h with rfl | h
  · simp [window]
  · have hj : j - (a + n) = j - (a + n + 1 + 0) + 1 := by omega
    simp only [window, if_neg (show ¬j < a by omega), if_neg (show ¬j < a + n by omega),
      if_neg (show ¬j < a + n + 1 by omega), hj,
      List.getD_cons_succ]

theorem window_true (a n : Nat) (bs : List Bool) : window a n (true :: bs) = window a (n + 1) bs := by
  funext j
  rcases Nat.lt_or_ge j (a + n) with h | h
  · simp only [window, if_pos h, if_pos (show j < a + (n + 1) by omega)]
  · rcases Nat.eq_or_lt_of_le h with rfl | h
    · simp [window]
    · have hj : j - (a + n) = j - (a + (n + 1)) + 1 := by omega
      simp only [window, if_neg (show ¬j < a by omega), if_neg (show ¬j < a + n by omega),
        if_neg (show ¬j < a + (n + 1) by omega), hj, List.getD_cons_succ]

/-- Past the end the bitmap reads clean, as if one more clean page followed. --/
theorem window_nil (a n : Nat) : window a n [] = window a n [false] := by
  funext j
  unfold window
  split_ifs
  · rfl
  · rfl
  · cases j - (a + n) <;> rfl

theorem window_clean (a j : Nat) : window a 0 [] j = false := by
  unfold window
  split_ifs <;> first | rfl | omega

end Window

/-! ### Maximal runs of a window -/

section Maximal
variable {a n : Nat} {bs : List Bool} {r : Run}

theorem Run.IsMaximal.le_start (h : r.IsMaximal (window a n bs)) : a ≤ r.start :=
  Nat.not_lt.mp fun hlt => Bool.false_ne_true (window_of_lt hlt ▸ h.start_dirty)

/-- The open pages make one maximal run `(a, n)`, and the other maximal runs lie past the clean
    page that closes them. --/
theorem isMaximal_window_false :
    r.IsMaximal (window a n (false :: bs)) ↔ r.IsMaximal (window (a + n + 1) 0 bs) ∨ (0 < n ∧ r = ⟨a, n⟩) := by
  constructor
  · intro h
    by_cases hlo : a + n + 1 ≤ r.start
    · exact .inl (h.of_agree fun j hj => window_false_of_le (by omega))
    · right
      have ha : a ≤ r.start := h.le_start
      have hne : r.start ≠ a + n := fun he => by
        have := h.start_dirty
        rw [he, window_false_end] at this
        cases this
      -- the run stops at the closing clean page, and cannot stop earlier inside the open pages
      have hend : r.start + r.pages ≤ a + n := Nat.not_lt.mp fun hlt => by
        have := h.inside (a + n) (by omega) hlt
        rw [window_false_end] at this
        cases this
      have hend' : a + n ≤ r.start + r.pages := Nat.not_lt.mp fun hlt => by
        have := h.clean_after
        rw [window_of_mem (by omega) hlt] at this
        cases this
      have hstart : r.start = a := Nat.le_antisymm (Nat.not_lt.mp fun hlt => by
        have := h.clean_before (r.start - 1) (by omega)
        rw [window_of_mem (by omega) (by omega)] at this
        cases this) ha
      obtain ⟨s, p⟩ := r
      simp only at hstart hend hend'
      exact ⟨by omega, by rw [hstart, show p = n by omega]⟩
  · rintro (h | ⟨hn, rfl⟩)
    · have hlo : a + n + 1 ≤ r.start := h.le_start
      exact h.of_agree fun j hj => (window_false_of_le (by omega)).symm
    · exact {
        pages_pos := hn
        inside := fun j h1 h2 => window_of_mem h1 (by omega)
        clean_before := fun j hj => window_of_lt (by simp at hj; omega)
        clean_after := window_false_end }

theorem isMaximal_window_nil : r.IsMaximal (window a n []) ↔ 0 < n ∧ r = ⟨a, n⟩ := by
  rw [window_nil, isMaximal_window_false]
  have : ¬r.IsMaximal (window (a + n + 1) 0 []) := fun h => by
    have := h.start_dirty
    rw [window_clean] at this
    cases this
  simp [this]

end Maximal

/-! ### The scan -/

theorem scan_append (i n : Nat) (bs : List Bool) (acc : List Run) : scan i n bs acc = scan i n bs [] ++ acc := by
  induction bs generalizing i n acc with
  | nil => by_cases hn : n = 0 <;> simp [scan, hn]
  | cons b bs ih =>
    cases b with
    | true => exact ih _ _ _
    | false =>
      simp only [scan]
      rw [ih, ih (i + 1) 0 (if n = 0 then [] else _)]
      by_cases hn : n = 0 <;> simp [hn]

theorem mem_scan_iff {i n : Nat} {bs : List Bool} {r : Run} (hn : n ≤ i) :
    r ∈ scan i n bs [] ↔ r.IsMaximal (window (i - n) n bs) := by
  induction bs generalizing i n with
  | nil =>
    rw [isMaximal_window_nil]
    by_cases h0 : n = 0 <;> simp [scan, h0]
    omega
  | cons b bs ih =>
    cases b with
    | true =>
      rw [scan, window_true, show i - n = i + 1 - (n + 1) by omega]
      exact ih (by omega)
    | false =>
      rw [scan, scan_append, List.mem_append, ih (Nat.zero_le _), isMaximal_window_false,
        show i - n + n + 1 = i + 1 - 0 by omega]
      by_cases h0 : n = 0
      · simp [h0]
      · simp [h0, Nat.pos_of_ne_zero h0]

theorem scan_before {i n : Nat} {bs : List Bool} (hn : n ≤ i) : (scan i n bs []).reverse.Pairwise Run.Before := by
  induction bs generalizing i n with
  | nil => by_cases h0 : n = 0 <;> simp [scan, h0]
  | cons b bs ih =>
    cases b with
    | true => exact ih (by omega)
    | false =>
      rw [scan, scan_append, List.reverse_append, List.pairwise_append]
      refine ⟨by by_cases h0 : n = 0 <;> simp [h0], ih (Nat.zero_le _), ?_⟩
      -- the closed run ends at page `i`, and every later run starts after page `i`
      intro x hx y hy
      have hlo : i + 1 - 0 ≤ y.start := ((mem_scan_iff (Nat.zero_le _)).mp (List.mem_reverse.mp hy)).le_start
      by_cases h0 : n = 0
      · simp [h0] at hx
      · simp only [h0, if_false, List.reverse_singleton, List.mem_singleton] at hx
        subst hx
        show i - n + n < y.start
        omega

/-- The runs of a bitmap are exactly its maximal runs of dirty pages. --/
theorem mem_runs_iff {bitmap : List UInt8} {r : Run} : r ∈ runs bitmap ↔ r.IsMaximal (dirtyAt bitmap) := by
  have hw : window 0 0 (bitmap.map isDirty) = dirtyAt bitmap := by
    funext j
    simp [window, dirtyAt]
  rw [runs, List.mem_reverse, mem_scan_iff (Nat.le_refl 0), hw]

/-- The runs come in page order, each ending before the next starts. --/
theorem runs_before (bitmap : List UInt8) : (runs bitmap).Pairwise Run.Before :=
  scan_before (Nat.le_refl 0)

end Dirty
end LiveMigration
