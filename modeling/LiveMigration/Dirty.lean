/-! Dirty pages. A dirty bitmap has one byte per guest page, and a page is dirty when bit 3 of its
    byte (`0x08`) is set. The bitmap is read as maximal runs of dirty pages, from the first page to
    the last; a run becomes the byte range of its pages. The scan keeps the length of the run that
    is open and pushes each finished run, so it walks the bitmap once. The iterator (`Cursor`) finds
    the runs one at a time instead, searching from the page after the last run it gave. -/

namespace LiveMigration
namespace Dirty

/-- A page is dirty when bit 3 of its byte is set. --/
def isDirty (b : UInt8) : Bool := b &&& 0x08 != 0

/-- A run of dirty pages: its first page and how many pages it has. --/
structure Run where
  start : Nat
  pages : Nat
deriving DecidableEq, Repr

/-- Scans the pages from page `i`, with `n` dirty pages open just before it; each finished run is
    pushed onto `acc`, the last one first. --/
def scan : Nat → Nat → List Bool → List Run → List Run
  | i, n, [], acc => if n = 0 then acc else ⟨i - n, n⟩ :: acc
  | i, n, true :: bs, acc => scan (i + 1) (n + 1) bs acc
  | i, n, false :: bs, acc => scan (i + 1) 0 bs (if n = 0 then acc else ⟨i - n, n⟩ :: acc)

/-- The maximal runs of dirty pages, in page order. --/
def runs (bitmap : List UInt8) : List Run := (scan 0 0 (bitmap.map isDirty) []).reverse

/-- A byte range of guest RAM. --/
structure Range where
  offset : Nat
  len : Nat
deriving DecidableEq, Repr

/-- The byte range of a run of pages of `pageSize` bytes. --/
def Run.toRange (pageSize : Nat) (r : Run) : Range := ⟨r.start * pageSize, r.pages * pageSize⟩

/-- The byte ranges of the maximal runs of dirty pages. --/
def ranges (bitmap : List UInt8) (pageSize : Nat) : List Range :=
  (runs bitmap).map (Run.toRange pageSize)

theorem runs_nil : runs [] = [] := rfl

/-- The iterator over the dirty runs: the bitmap, the page size, and the page where the next search
    starts. --/
structure Cursor where
  bitmap : List UInt8
  pageSize : Nat
  nextPage : Nat
deriving DecidableEq, Repr

/-- The iterator at the first page. --/
def cursor (bitmap : List UInt8) (pageSize : Nat) : Cursor := ⟨bitmap, pageSize, 0⟩

/-- The next run: the first dirty page at or after `nextPage` and the dirty pages that follow it.
    The search then resumes past the clean page that closed the run, which may lie past the end of
    the bitmap; a search that starts past the end, or finds no dirty page, answers nothing and
    leaves the iterator as it was. --/
def Cursor.next (c : Cursor) : Option Range × Cursor :=
  if c.bitmap.length < c.nextPage then (none, c)
  else
    match (c.bitmap.drop c.nextPage).findIdx? isDirty with
    | none => (none, c)
    | some k =>
      let start := c.nextPage + k
      let pages := ((c.bitmap.drop start).takeWhile isDirty).length
      (some ⟨start * c.pageSize, pages * c.pageSize⟩, { c with nextPage := start + pages + 1 })

end Dirty
end LiveMigration
