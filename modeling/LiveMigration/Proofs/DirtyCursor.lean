import LiveMigration.Proofs.DirtyRuns
import Mathlib.Data.Nat.Find

/-! The iterator over dirty runs gives the maximal runs of the bitmap, in page order, one per call,
    and then nothing, however often it is called again. For pages of `p > 0` bytes the byte ranges
    it gives cover whole pages, at least one each, ascend with a clean page between neighbours, and
    cover exactly the dirty pages.

    A call is followed through the runs it has not given yet: the runs that start at or after the
    page where its search starts (`fromPage`). The search starts at page 0 or right after a clean
    page (`Ready`), so the first dirty page it finds starts a maximal run, and the dirty pages after
    it are that run; the next search starts after the clean page that closes it. -/

namespace LiveMigration
namespace Dirty

/-! ### Pages of a bitmap -/

section Pages
variable {b : UInt8} {bitmap : List UInt8} {j : Nat}

@[simp]
theorem dirtyAt_nil (j : Nat) : dirtyAt [] j = false := rfl

@[simp]
theorem dirtyAt_cons_zero : dirtyAt (b :: bitmap) 0 = isDirty b := rfl

@[simp]
theorem dirtyAt_cons_succ : dirtyAt (b :: bitmap) (j + 1) = dirtyAt bitmap j := rfl

theorem dirtyAt_drop (i j : Nat) : dirtyAt (bitmap.drop i) j = dirtyAt bitmap (i + j) := by
  simp [dirtyAt, List.getD_eq_getElem?_getD, List.getElem?_drop]

theorem lt_length_of_dirtyAt (h : dirtyAt bitmap j = true) : j < bitmap.length := by
  by_contra hj
  have : (bitmap.map isDirty)[j]? = none := List.getElem?_eq_none (by simp; omega)
  simp [dirtyAt, List.getD_eq_getElem?_getD, this] at h

/-- The search for a dirty page stops at the first one. --/
theorem dirtyAt_of_findIdx?_eq_some {k : Nat} (h : bitmap.findIdx? isDirty = some k) :
    dirtyAt bitmap k = true ∧ ∀ j < k, dirtyAt bitmap j = false := by
  induction bitmap generalizing k with
  | nil => cases h
  | cons b bitmap ih =>
    rw [List.findIdx?_cons] at h
    by_cases hb : isDirty b = true
    · rw [if_pos hb, Option.some_inj] at h
      subst h
      exact ⟨hb, fun j hj => absurd hj (Nat.not_lt_zero j)⟩
    · rw [if_neg hb] at h
      obtain ⟨k', hk', rfl⟩ := Option.map_eq_some_iff.mp h
      obtain ⟨hdirty, hclean⟩ := ih hk'
      refine ⟨hdirty, fun j hj => ?_⟩
      cases j with
      | zero => simpa using hb
      | succ j => exact hclean j (by omega)

theorem dirtyAt_of_findIdx?_eq_none (h : bitmap.findIdx? isDirty = none) (j : Nat) : dirtyAt bitmap j = false := by
  induction bitmap generalizing j with
  | nil => rfl
  | cons b bitmap ih =>
    rw [List.findIdx?_cons] at h
    by_cases hb : isDirty b = true
    · rw [if_pos hb] at h
      cases h
    · rw [if_neg hb, Option.map_eq_none_iff] at h
      cases j with
      | zero => simpa using hb
      | succ j => exact ih h j

/-- The dirty pages at the front of a bitmap, and the clean page (or the end) after them. --/
theorem dirtyAt_takeWhile (bitmap : List UInt8) :
    (∀ j < (bitmap.takeWhile isDirty).length, dirtyAt bitmap j = true) ∧
      dirtyAt bitmap (bitmap.takeWhile isDirty).length = false := by
  induction bitmap with
  | nil => exact ⟨fun j hj => absurd hj (Nat.not_lt_zero j), rfl⟩
  | cons b bitmap ih =>
    rw [List.takeWhile_cons]
    by_cases hb : isDirty b = true
    · rw [if_pos hb, List.length_cons]
      refine ⟨fun j hj => ?_, ih.2⟩
      cases j with
      | zero => exact hb
      | succ j => exact ih.1 j (by omega)
    · rw [if_neg hb]
      exact ⟨fun j hj => absurd hj (Nat.not_lt_zero j), by simpa using hb⟩

end Pages

/-! ### The runs not given yet -/

/-- The runs that start at page `i` or later. --/
def fromPage (i : Nat) (rs : List Run) : List Run := rs.filter fun r => i ≤ r.start

@[simp]
theorem fromPage_zero (rs : List Run) : fromPage 0 rs = rs := by
  simp [fromPage]

/-- Among runs in page order, the first that starts at page `i` or later is followed by the runs
    that start past the page after it. --/
theorem fromPage_eq_cons {i : Nat} {r : Run} {rs : List Run} (hs : rs.Pairwise Run.Before) (hr : r ∈ rs)
    (hi : i ≤ r.start) (hfirst : ∀ r' ∈ rs, i ≤ r'.start → r.start ≤ r'.start) :
    fromPage i rs = r :: fromPage (r.start + r.pages + 1) rs := by
  induction rs with
  | nil => cases hr
  | cons a rs ih =>
    rw [List.pairwise_cons] at hs
    have hlater : ∀ r' ∈ rs, a.start + a.pages < r'.start := fun r' h => hs.1 r' h
    by_cases ha : i ≤ a.start
    · -- `a` comes first, so it is `r`, and every later run starts past the page after it
      have hra : r = a := by
        rcases List.mem_cons.mp hr with h | h
        · exact h
        · have h1 := hlater r h
          have h2 := hfirst a List.mem_cons_self ha
          omega
      subst hra
      have hkeep : fromPage i rs = fromPage (r.start + r.pages + 1) rs := by
        refine List.filter_congr fun r' h => ?_
        have := hlater r' h
        simp only [decide_eq_decide]
        omega
      have hself : ¬r.start + r.pages + 1 ≤ r.start := by omega
      simp only [fromPage, List.filter_cons, ha, hself, decide_true, decide_false, if_true, if_false,
        Bool.false_eq_true]
      exact congrArg (r :: ·) hkeep
    · have hr' : r ∈ rs := (List.mem_cons.mp hr).resolve_left fun h => ha (h ▸ hi)
      have hnext : ¬r.start + r.pages + 1 ≤ a.start := by omega
      simp only [fromPage, List.filter_cons, ha, hnext, decide_false, Bool.false_eq_true, if_false]
      exact ih hs.2 hr' fun r' h => hfirst r' (List.mem_cons_of_mem a h)

/-- Once a run is given, the runs left are those after it. --/
theorem fromPage_of_eq_cons {i : Nat} {r : Run} {rs rs' : List Run} (hs : rs.Pairwise Run.Before)
    (h : fromPage i rs = r :: rs') : fromPage (r.start + r.pages + 1) rs = rs' := by
  obtain ⟨hmem, hi⟩ := List.mem_filter.mp (h ▸ List.mem_cons_self : r ∈ fromPage i rs)
  have hsorted : (r :: rs').Pairwise Run.Before := h ▸ hs.filter _
  have hcons := fromPage_eq_cons hs hmem (by simpa using hi) fun r' hr' hle => by
    have : r' ∈ r :: rs' := h ▸ List.mem_filter.mpr ⟨hr', by simpa using hle⟩
    rcases List.mem_cons.mp this with rfl | h'
    · exact Nat.le_refl _
    · have := (List.pairwise_cons.mp hsorted).1 r' h'
      unfold Run.Before at this
      omega
  rw [h, List.cons.injEq] at hcons
  exact hcons.2.symm

/-! ### One call -/

namespace Cursor

/-- The search starts at the first page or right after a clean page. --/
def Ready (c : Cursor) : Prop := c.nextPage = 0 ∨ dirtyAt c.bitmap (c.nextPage - 1) = false

theorem ready_cursor (bitmap : List UInt8) (p : Nat) : (cursor bitmap p).Ready := .inl rfl

variable {c : Cursor}

/-- A search that stops `k` pages in has found page `nextPage + k`, dirty, after clean pages. --/
theorem found_dirty {k : Nat} (hk : (c.bitmap.drop c.nextPage).findIdx? isDirty = some k) :
    dirtyAt c.bitmap (c.nextPage + k) = true ∧
      ∀ j, c.nextPage ≤ j → j < c.nextPage + k → dirtyAt c.bitmap j = false := by
  obtain ⟨hdirty, hclean⟩ := dirtyAt_of_findIdx?_eq_some hk
  rw [dirtyAt_drop] at hdirty
  refine ⟨hdirty, fun j h1 h2 => ?_⟩
  have := hclean (j - c.nextPage) (by omega)
  rwa [dirtyAt_drop, Nat.add_sub_cancel' h1] at this

/-- From a ready cursor, the page a search finds starts a maximal run, and the dirty pages counted
    after it are that run. --/
theorem isMaximal_found (hc : c.Ready) {k : Nat} (hk : (c.bitmap.drop c.nextPage).findIdx? isDirty = some k) :
    Run.IsMaximal (dirtyAt c.bitmap)
      ⟨c.nextPage + k, ((c.bitmap.drop (c.nextPage + k)).takeWhile isDirty).length⟩ := by
  obtain ⟨hdirty, hclean⟩ := found_dirty hk
  obtain ⟨hrun, hend⟩ := dirtyAt_takeWhile (c.bitmap.drop (c.nextPage + k))
  rw [dirtyAt_drop] at hend
  have hpos : 0 < ((c.bitmap.drop (c.nextPage + k)).takeWhile isDirty).length :=
    Nat.pos_of_ne_zero fun h0 => by
      rw [h0, Nat.add_zero, hdirty] at hend
      cases hend
  refine ⟨hpos, fun j h1 h2 => ?_, fun j hj => ?_, hend⟩
  · have := hrun (j - (c.nextPage + k)) (by simp only at h1 h2; omega)
    rwa [dirtyAt_drop, Nat.add_sub_cancel' h1] at this
  · -- the page before the run is clean: found so by the search, or the page before the search
    simp only at hj
    by_cases hk0 : k = 0
    · subst hk0
      rcases hc with h0 | hprev
      · omega
      · rwa [show j = c.nextPage - 1 by omega]
    · exact hclean j (by omega) (by omega)

/-- A call from a ready cursor gives nothing and changes nothing when no run is left to give. --/
theorem next_of_fromPage_nil (hc : c.Ready) (h : fromPage c.nextPage (runs c.bitmap) = []) :
    c.next = (none, c) := by
  unfold next
  split
  · rfl
  · split
    · rfl
    · rename_i k hk
      have hr := mem_runs_iff.mpr (isMaximal_found hc hk)
      have : _ ∈ fromPage c.nextPage (runs c.bitmap) := List.mem_filter.mpr ⟨hr, by simp⟩
      rw [h] at this
      cases this

/-- A call from a ready cursor gives the first run left to give, and moves the search past the clean
    page that closes it. --/
theorem next_of_fromPage_cons (hc : c.Ready) {r : Run} {rs : List Run}
    (h : fromPage c.nextPage (runs c.bitmap) = r :: rs) :
    c.next = (some (r.toRange c.pageSize), { c with nextPage := r.start + r.pages + 1 }) := by
  have hr : r ∈ fromPage c.nextPage (runs c.bitmap) := h ▸ List.mem_cons_self
  obtain ⟨hrun, hge⟩ := List.mem_filter.mp hr
  have hdirty := (mem_runs_iff.mp hrun).start_dirty
  unfold next
  split
  · have := lt_length_of_dirtyAt hdirty
    simp at hge
    omega
  · split
    · rename_i hk
      have := dirtyAt_of_findIdx?_eq_none hk (r.start - c.nextPage)
      simp at hge
      rw [dirtyAt_drop, Nat.add_sub_cancel' hge, hdirty] at this
      cases this
    · rename_i k hk
      -- the run found is the first run left, which is `r`
      have hfound := isMaximal_found hc hk
      have hcons := fromPage_eq_cons (runs_before c.bitmap) (mem_runs_iff.mpr hfound)
        (Nat.le_add_right c.nextPage k) fun r' hr' hle => by
          have := (mem_runs_iff.mp hr').start_dirty
          by_contra hlt
          rw [(found_dirty hk).2 r'.start hle (by simp only at hlt ⊢; omega)] at this
          cases this
      rw [h, List.cons.injEq] at hcons
      obtain ⟨rfl, -⟩ := hcons
      rfl

/-- The cursor after a call is ready again. --/
theorem ready_next_of_cons {r : Run} {rs : List Run}
    (h : fromPage c.nextPage (runs c.bitmap) = r :: rs) :
    Cursor.Ready { c with nextPage := r.start + r.pages + 1 } :=
  .inr (mem_runs_iff.mp (List.mem_filter.mp (h ▸ List.mem_cons_self)).1).clean_after

/-- A call that gives nothing leaves the cursor as it was, so every later call gives nothing too. --/
theorem next_fused (h : c.next.1 = none) : c.next.2 = c := by
  unfold next at h ⊢
  split
  · rfl
  · split
    · rfl
    · rename_i hlen _ k hk
      simp [hlen, hk] at h

/-! ### Successive calls -/

/-- What `k` successive calls answer. --/
def calls : Nat → Cursor → List (Option Range)
  | 0, _ => []
  | k + 1, c => c.next.1 :: c.next.2.calls k

/-- From a ready cursor, call `i` gives the `i`-th run left to give, or nothing once none is left. --/
theorem calls_of_ready (hc : c.Ready) (k : Nat) :
    c.calls k = (List.range k).map fun i =>
      ((fromPage c.nextPage (runs c.bitmap)).map (Run.toRange c.pageSize))[i]? := by
  induction k generalizing c with
  | zero => rfl
  | succ k ih =>
    rw [List.range_succ_eq_map, List.map_cons, List.map_map]
    match h : fromPage c.nextPage (runs c.bitmap) with
    | [] =>
      rw [calls, next_of_fromPage_nil hc h, ih hc, h]
      simp only [List.map_nil, List.getElem?_nil, Function.comp_def]
    | r :: rs =>
      have hrest := fromPage_of_eq_cons (runs_before c.bitmap) h
      rw [calls, next_of_fromPage_cons hc h, ih (ready_next_of_cons h), hrest]
      simp only [List.map_cons, List.getElem?_cons_zero, List.getElem?_cons_succ, Function.comp_def,
        Nat.succ_eq_add_one]

end Cursor

/-- Call `i` of the iterator gives the byte range of the `i`-th run, or nothing past the last run. --/
theorem calls_cursor (bitmap : List UInt8) (p k : Nat) :
    (cursor bitmap p).calls k = (List.range k).map fun i => ((runs bitmap).map (Run.toRange p))[i]? := by
  have h := Cursor.calls_of_ready (Cursor.ready_cursor bitmap p) k
  rwa [show (cursor bitmap p).nextPage = 0 from rfl, fromPage_zero] at h

example : (cursor [0x08, 0xFF, 0x07, 0x08] 4096).calls 4 = [some ⟨0, 8192⟩, some ⟨12288, 4096⟩, none, none] := by
  decide

/-! ### Byte ranges -/

theorem dirtyAt_of_length_le {bitmap : List UInt8} {j : Nat} (h : bitmap.length ≤ j) : dirtyAt bitmap j = false :=
  Bool.eq_false_iff.mpr fun hd => absurd (lt_length_of_dirtyAt hd) (Nat.not_lt.mpr h)

/-- A dirty page lies in a maximal run: from the first page from which every page up to it is
    dirty, up to the first clean page after it, which exists since pages past the end are clean. --/
theorem exists_isMaximal_of_dirtyAt {bitmap : List UInt8} {j : Nat} (h : dirtyAt bitmap j = true) :
    ∃ r : Run, r.IsMaximal (dirtyAt bitmap) ∧ r.start ≤ j ∧ j < r.start + r.pages := by
  have hs : ∃ s, ∀ t, s ≤ t → t ≤ j → dirtyAt bitmap t = true :=
    ⟨j, fun t h1 h2 => Nat.le_antisymm h2 h1 ▸ h⟩
  have he : ∃ e, j < e ∧ dirtyAt bitmap e = false :=
    ⟨max (j + 1) bitmap.length, by omega, dirtyAt_of_length_le (Nat.le_max_right _ _)⟩
  have hsj : Nat.find hs ≤ j := Nat.find_min' hs fun t h1 h2 => Nat.le_antisymm h2 h1 ▸ h
  have hje : j < Nat.find he := (Nat.find_spec he).1
  refine ⟨⟨Nat.find hs, Nat.find he - Nat.find hs⟩, ⟨by simp only; omega, fun t h1 h2 => ?_, fun t ht => ?_, ?_⟩,
    hsj, by simp only; omega⟩
  · simp only at h1 h2
    by_cases htj : t ≤ j
    · exact Nat.find_spec hs t h1 htj
    · -- past `j`, every page before the first clean one is dirty
      have := Nat.find_min he (show t < Nat.find he by omega)
      simpa [show j < t by omega] using this
  · -- the page before the start is clean, or the run could start earlier
    simp only at ht
    have hmin := Nat.find_min hs (show t < Nat.find hs by omega)
    by_contra hdirty
    refine hmin fun u h1 h2 => ?_
    rcases Nat.eq_or_lt_of_le h1 with rfl | hlt
    · simpa using hdirty
    · exact Nat.find_spec hs u (by omega) h2
  · simp only [show Nat.find hs + (Nat.find he - Nat.find hs) = Nat.find he by omega]
    exact (Nat.find_spec he).2

/-- A page is dirty exactly when it lies in one of the runs. --/
theorem dirtyAt_iff_mem_runs {bitmap : List UInt8} {j : Nat} :
    dirtyAt bitmap j = true ↔ ∃ r ∈ runs bitmap, r.start ≤ j ∧ j < r.start + r.pages := by
  constructor
  · intro h
    obtain ⟨r, hr, h1, h2⟩ := exists_isMaximal_of_dirtyAt h
    exact ⟨r, mem_runs_iff.mpr hr, h1, h2⟩
  · rintro ⟨r, hr, h1, h2⟩
    exact (mem_runs_iff.mp hr).inside j h1 h2

/-- How byte ranges lay out the dirty pages of a bitmap, for pages of `p` bytes: each range is whole
    pages and at least one, neighbours have a clean page between them, and a page lies in a range
    exactly when it is dirty. --/
structure Tiles (bitmap : List UInt8) (p : Nat) (rs : List Range) : Prop where
  len_pos : ∀ r ∈ rs, 0 < r.len
  aligned : ∀ r ∈ rs, p ∣ r.offset ∧ p ∣ r.len
  apart : rs.Pairwise fun r r' => ∃ j, dirtyAt bitmap j = false ∧ r.offset + r.len ≤ j * p ∧ j * p < r'.offset
  covers : ∀ j, dirtyAt bitmap j = true ↔ ∃ r ∈ rs, r.offset ≤ j * p ∧ j * p < r.offset + r.len

/-- For pages of a positive size, the byte ranges of the runs lay out the dirty pages. --/
theorem tiles_runs (bitmap : List UInt8) {p : Nat} (hp : 0 < p) :
    Tiles bitmap p ((runs bitmap).map (Run.toRange p)) where
  len_pos := by
    simp only [List.mem_map, forall_exists_index, and_imp, forall_apply_eq_imp_iff₂]
    exact fun r hr => Nat.mul_pos (mem_runs_iff.mp hr).pages_pos hp
  aligned := by
    simp only [List.mem_map, forall_exists_index, and_imp, forall_apply_eq_imp_iff₂]
    exact fun r _ => ⟨Nat.dvd_mul_left p r.start, Nat.dvd_mul_left p r.pages⟩
  apart := by
    rw [List.pairwise_map]
    refine (runs_before bitmap).imp_of_mem fun {r r'} hr _ hbefore => ?_
    -- the clean page that closes `r` lies before `r'`
    refine ⟨r.start + r.pages, (mem_runs_iff.mp hr).clean_after, ?_, ?_⟩
    · simp [Run.toRange, Nat.add_mul]
    · exact (Nat.mul_lt_mul_right hp).mpr hbefore
  covers j := by
    rw [dirtyAt_iff_mem_runs]
    simp only [List.mem_map, exists_exists_and_eq_and, Run.toRange, ← Nat.add_mul,
      Nat.mul_le_mul_right_iff hp, Nat.mul_lt_mul_right hp]

/-- The iterator over a bitmap's dirty runs. Each call gives the byte range of the next maximal run
    of dirty pages, in page order, and once a call gives nothing every later call gives nothing.
    For pages of a positive size the ranges lay out the dirty pages; for pages of size zero each
    run still gives one empty range at offset zero. --/
theorem cursor_gives_maximal_runs (bitmap : List UInt8) (p : Nat) :
    (∀ r, r ∈ runs bitmap ↔ r.IsMaximal (dirtyAt bitmap)) ∧ (runs bitmap).Pairwise Run.Before ∧
    (∀ k, (cursor bitmap p).calls k = (List.range k).map fun i => ((runs bitmap).map (Run.toRange p))[i]?) ∧
    (∀ c : Cursor, c.next.1 = none → c.next.2 = c) ∧
    (0 < p → Tiles bitmap p ((runs bitmap).map (Run.toRange p))) ∧
    (p = 0 → (runs bitmap).map (Run.toRange p) = List.replicate (runs bitmap).length ⟨0, 0⟩) := by
  refine ⟨fun r => mem_runs_iff, runs_before bitmap, calls_cursor bitmap p, fun c => Cursor.next_fused,
    tiles_runs bitmap, ?_⟩
  rintro rfl
  have hzero : Run.toRange 0 = fun _ => ⟨0, 0⟩ := funext fun r => by simp [Run.toRange]
  rw [hzero, List.map_const']

end Dirty
end LiveMigration
