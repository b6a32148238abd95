import LiveMigration.Ram.Guest

/-! # The prefetch walk over guest RAM

The prefetch worker touches one word of every page of the RAM block, from offset 0 up, and stops at
the first touch that fails. Its loop runs while the offset is below the block size and moves a page
at a time; pages of no bytes are turned away before it, which is what makes it end. So it touches
the offsets `0, p, …, (n - 1) * p`, where `n` is the block size divided by the page size `p` and
rounded up (`pageCount`): a block that is no whole number of pages has a last, partial page, and it
is touched too. When `k * p` is the first of those offsets whose touch fails, the walk tries it,
goes no further, and ends in its fault; the offsets whose touch went through are those before it
(`prefetch_touches_pages_in_order`).

The loop is read from any offset on (`touchFrom_of_ok`, `touchFrom_of_fault`), by induction along
its own recursion, with `pageCount_eq_succ` saying what one page less leaves to walk. -/

namespace LiveMigration
namespace GuestRam

/-! ### Pages -/

/-- The offsets of `count` pages of `page` bytes, from `offset` on. --/
def pagesFrom (offset page count : Nat) : List Nat := (List.range count).map fun i => offset + i * page

/-- How many pages of `page` bytes start below `size`: the size divided by the page, rounded up. --/
def pageCount (size page : Nat) : Nat := (size + page - 1) / page

theorem pagesFrom_succ (offset page count : Nat) :
    pagesFrom offset page (count + 1) = offset :: pagesFrom (offset + page) page count := by
  simp only [pagesFrom, List.range_succ_eq_map, List.map_cons, List.map_map, Nat.zero_mul, Nat.add_zero,
    List.cons.injEq, true_and]
  refine List.map_congr_left fun i _ => ?_
  simp only [Function.comp_apply, Nat.succ_mul]
  omega

theorem pagesFrom_succ_right (offset page count : Nat) :
    pagesFrom offset page (count + 1) = pagesFrom offset page count ++ [offset + count * page] := by
  simp [pagesFrom, List.range_succ]

theorem mem_pagesFrom {offset page count o : Nat} :
    o ∈ pagesFrom offset page count ↔ ∃ i < count, offset + i * page = o := by
  simp [pagesFrom]

theorem pageCount_zero {page : Nat} (hpage : 0 < page) : pageCount 0 page = 0 :=
  Nat.div_eq_of_lt (by omega)

/-- With bytes left to walk, one page less leaves one page fewer, a partial last page included. --/
theorem pageCount_eq_succ {rest page : Nat} (hpage : 0 < page) (hrest : 0 < rest) :
    pageCount rest page = pageCount (rest - page) page + 1 := by
  by_cases hle : rest ≤ page
  · -- what is left fits in one page
    rw [Nat.sub_eq_zero_of_le hle, pageCount_zero hpage]
    exact Nat.div_eq_of_lt_le (by omega) (by omega)
  · have hsplit : rest + page - 1 = (rest - page + page - 1) + page := by omega
    rw [pageCount, hsplit, Nat.add_div_right _ hpage]
    rfl

/-- One page on from an offset below `size`, one page fewer is left. --/
theorem pageCount_next {size page offset : Nat} (hpage : 0 < page) (hlt : offset < size) :
    pageCount (size - offset) page = pageCount (size - (offset + page)) page + 1 := by
  rw [pageCount_eq_succ hpage (by omega), Nat.sub_add_eq]

/-! ### The loop -/

section Loop
variable {ram : GuestRam} {size page : Nat} {hpage : 0 < page}

/-- The `i + 1`-th page from `offset` is the `i`-th from the page after it. --/
theorem page_after (offset i : Nat) : offset + (i + 1) * page = offset + page + i * page := by
  rw [Nat.succ_mul]
  omega

/-- When no touch fails, the loop touches every page below `size` from `offset` on and counts them. --/
theorem touchFrom_of_ok {offset pages : Nat}
    (hok : ∀ i < pageCount (size - offset) page, ram.touch (offset + i * page) = .ok ()) :
    ram.touchFrom size page hpage offset pages =
      (pagesFrom offset page (pageCount (size - offset) page), .ok (pages + pageCount (size - offset) page)) := by
  fun_induction ram.touchFrom size page hpage offset pages with
  | case1 offset pages hlt e hfail =>
    -- the first page is among those whose touch goes through
    have hfirst := hok 0 (by rw [pageCount_next hpage hlt]; omega)
    rw [Nat.zero_mul, Nat.add_zero, hfail] at hfirst
    cases hfirst
  | case2 offset pages hlt _ rest ih =>
    have hcount := pageCount_next hpage hlt
    have hrest : rest = (pagesFrom (offset + page) page (pageCount (size - (offset + page)) page),
        .ok (pages + 1 + pageCount (size - (offset + page)) page)) :=
      ih fun i hi => by
        rw [← page_after]
        exact hok (i + 1) (by omega)
    rw [hrest, hcount, pagesFrom_succ, Nat.add_right_comm pages 1, Nat.add_assoc]
  | case3 offset pages hge =>
    rw [Nat.sub_eq_zero_of_le (Nat.le_of_not_lt hge), pageCount_zero hpage]
    rfl

/-- When the `k`-th page from `offset` is the first whose touch fails, the loop touches the pages up
    to it, no further, and ends in its fault. --/
theorem touchFrom_of_fault {offset pages k : Nat} {e : GuestRamError} (hk : k < pageCount (size - offset) page)
    (hok : ∀ i < k, ram.touch (offset + i * page) = .ok ()) (hfail : ram.touch (offset + k * page) = .error e) :
    ram.touchFrom size page hpage offset pages = (pagesFrom offset page (k + 1), .error e) := by
  fun_induction ram.touchFrom size page hpage offset pages generalizing k with
  | case1 offset pages _ e' htouch =>
    cases k with
    | zero =>
      rw [Nat.zero_mul, Nat.add_zero, htouch] at hfail
      cases hfail
      rw [pagesFrom_succ]
      rfl
    | succ k =>
      have hfirst := hok 0 (by omega)
      rw [Nat.zero_mul, Nat.add_zero, htouch] at hfirst
      cases hfirst
  | case2 offset pages hlt htouch rest =>
    rename_i ih
    cases k with
    | zero =>
      rw [Nat.zero_mul, Nat.add_zero, htouch] at hfail
      cases hfail
    | succ k =>
      -- the failing page is the `k`-th from the next offset
      have hk' : k < pageCount (size - (offset + page)) page := by
        rw [pageCount_next hpage hlt] at hk
        omega
      have hrest : rest = (pagesFrom (offset + page) page (k + 1), .error e) :=
        ih hk' (fun i hi => by rw [← page_after]; exact hok (i + 1) (by omega)) (by rwa [← page_after])
      rw [hrest, pagesFrom_succ offset page (k + 1)]
  | case3 offset pages hge =>
    rw [Nat.sub_eq_zero_of_le (Nat.le_of_not_lt hge), pageCount_zero hpage] at hk
    omega

end Loop

/-! ### The walk -/

section Walk
variable {ram : GuestRam} {page : Nat}

theorem touchAll_of_span {s : RamSpan} (hs : ram.span = some s) (hpage : 0 < page) :
    ram.touchAll page = ram.touchFrom s.size page hpage 0 0 := by
  simp only [touchAll, hs, Nat.pos_iff_ne_zero.mp hpage, ↓reduceDIte]

theorem spawnRamTouch_touched (ram : GuestRam) (page : Nat) :
    (spawnRamTouch ram page).touched = (ram.touchAll page).1.filter fun o => (ram.touch o).isOk := rfl

/-- Offsets whose touch goes through are all kept as touched. --/
theorem filter_isOk_pagesFrom {count : Nat} (hok : ∀ i < count, ram.touch (i * page) = .ok ()) :
    (pagesFrom 0 page count).filter (fun o => (ram.touch o).isOk) = pagesFrom 0 page count := by
  rw [List.filter_eq_self]
  intro o ho
  obtain ⟨i, hi, rfl⟩ := mem_pagesFrom.mp ho
  rw [Nat.zero_add, hok i hi]
  rfl

end Walk

/-- The prefetch walk over guest RAM. Without a RAM block it touches nothing and fails; with pages
    of no bytes it touches nothing and counts no page. Otherwise, with `n` the block size divided by
    the page size and rounded up, it touches `0, page, …, (n - 1) * page` in order and counts `n`
    pages, and the worker keeps them all as touched, unless a touch fails: when `k * page` is the
    first of them to fail, the walk touches the offsets up to it, no further, and ends in its fault,
    and the worker keeps the `k` offsets before it as touched. The worker ends as the walk does. --/
theorem prefetch_touches_pages_in_order (ram : GuestRam) (page : Nat) :
    (ram.span = none → ram.touchAll page = ([], .error .noRamBlock)) ∧
    (∀ s, ram.span = some s → page = 0 → ram.touchAll page = ([], .ok 0)) ∧
    (∀ s, ram.span = some s → 0 < page → (∀ i < pageCount s.size page, ram.touch (i * page) = .ok ()) →
      ram.touchAll page = (pagesFrom 0 page (pageCount s.size page), .ok (pageCount s.size page)) ∧
      (spawnRamTouch ram page).touched = pagesFrom 0 page (pageCount s.size page)) ∧
    (∀ s k e, ram.span = some s → 0 < page → k < pageCount s.size page →
      (∀ i < k, ram.touch (i * page) = .ok ()) → ram.touch (k * page) = .error e →
      ram.touchAll page = (pagesFrom 0 page (k + 1), .error e) ∧
      (spawnRamTouch ram page).touched = pagesFrom 0 page k) ∧
    (spawnRamTouch ram page).result = (ram.touchAll page).2 := by
  refine ⟨fun hs => by simp only [touchAll, hs], fun s hs hzero => by simp only [touchAll, hs, hzero, ↓reduceDIte],
    fun s hs hpage hok => ?_, fun s k e hs hpage hk hok hfail => ?_, rfl⟩
  · have hwalk : ram.touchAll page = (pagesFrom 0 page (pageCount s.size page), .ok (pageCount s.size page)) := by
      rw [touchAll_of_span hs hpage, touchFrom_of_ok (by simpa using hok), Nat.sub_zero, Nat.zero_add]
    refine ⟨hwalk, ?_⟩
    rw [spawnRamTouch_touched, hwalk]
    exact filter_isOk_pagesFrom hok
  · have hwalk : ram.touchAll page = (pagesFrom 0 page (k + 1), .error e) := by
      rw [touchAll_of_span hs hpage]
      exact touchFrom_of_fault (by rwa [Nat.sub_zero]) (by simpa using hok) (by rwa [Nat.zero_add])
    refine ⟨hwalk, ?_⟩
    -- the last offset tried is the one that failed
    have hlast : [k * page].filter (fun o => (ram.touch o).isOk) = [] := by
      rw [List.filter_cons, hfail]
      rfl
    rw [spawnRamTouch_touched, hwalk, pagesFrom_succ_right, List.filter_append, filter_isOk_pagesFrom hok,
      Nat.zero_add, hlast, List.append_nil]

/-- A block of four pages whose third page fails to touch: the walk touches three pages and the
    worker keeps the first two. --/
theorem prefetch_stops_at_third_page :
    (∀ i < 2, (failingAt (some ⟨0x7000_0000, 4 * 4096⟩) (some 8192)).touch (i * 4096) = .ok ()) ∧
    (failingAt (some ⟨0x7000_0000, 4 * 4096⟩) (some 8192)).touchAll 4096 =
      (pagesFrom 0 4096 3, .error (.outOfRange 8192)) ∧
    (spawnRamTouch (failingAt (some ⟨0x7000_0000, 4 * 4096⟩) (some 8192)) 4096).touched = pagesFrom 0 4096 2 := by
  have hok : ∀ i < 2, (failingAt (some ⟨0x7000_0000, 4 * 4096⟩) (some 8192)).touch (i * 4096) = .ok () := by
    intro i hi
    simp only [failingAt, Option.some.injEq]
    rw [if_neg (by omega)]
  exact ⟨hok, (prefetch_touches_pages_in_order _ 4096).2.2.2.1 _ 2 _ rfl (by decide) (by decide) hok rfl⟩

end GuestRam
end LiveMigration
