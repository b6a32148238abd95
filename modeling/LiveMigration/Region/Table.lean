import LiveMigration.Region.Basic
import LiveMigration.Ram.Span

/-! The region table: the regions of a configuration, in the order they were added, at most one per
    domain and identifier. Binding lays the regions back to back into the guest RAM block, from its
    first byte and in table order; it is refused, and the table kept, when the regions together
    need more bytes than the block has. The total is a sum held at the largest 64-bit value. -/

namespace LiveMigration

open Text

/-- Regions in the order they were added. --/
structure RegionTable where
  regions : List Region := []
deriving DecidableEq

namespace RegionTable

/-- The empty table. --/
def empty : RegionTable := {}

/-- The region with this domain and identifier. --/
def find? (t : RegionTable) (d : DomainId) (id : Nat) : Option Region :=
  t.regions.find? fun r => r.domain = d && r.id = id

/-- How many regions there are. --/
def size (t : RegionTable) : Nat := t.regions.length

/-- Adds a region at the end, unless its domain already has one with its identifier. --/
def insert (t : RegionTable) (r : Region) : Except RegionError RegionTable :=
  if (t.find? r.domain r.id).isSome then .error (.duplicateRegion r.domain r.id)
  else .ok ⟨t.regions ++ [r]⟩

/-- A sum held at the largest 64-bit value. --/
def saturatingAdd (a b : Nat) : Nat := min (a + b) wordMax

/-- The bytes all regions need together, held at the largest 64-bit value. --/
def totalSize (t : RegionTable) : Nat :=
  t.regions.foldl (fun acc r => saturatingAdd acc r.size) 0

/-- Gives each region in turn the base `next`, moving `next` past it. --/
def layOut : Nat → List Region → List Region
  | _, [] => []
  | next, r :: rs => { r with base := next } :: layOut (next + r.size) rs

/-- Lays the regions back to back from the start of the block, if they fit. --/
def bind (t : RegionTable) (span : RamSpan) : Except RegionError RegionTable :=
  if t.totalSize > span.size then .error (.exceedsRam t.totalSize span.size)
  else .ok ⟨layOut span.hostAddr t.regions⟩

theorem layOut_length (next : Nat) (rs : List Region) : (layOut next rs).length = rs.length := by
  induction rs generalizing next with
  | nil => rfl
  | cons r rs ih => simp [layOut, ih]

end RegionTable

end LiveMigration
