/-! The guest RAM block as the host sees it: where it is mapped and how many bytes it has. A range
    of the block is given by an offset and a length; it lies inside when its end, computed without
    wrapping, is at most the size. -/

namespace LiveMigration

/-- The size of a guest page, the default unit of dirty tracking and region sizes. --/
def guestPageSize : Nat := 4096

/-- The host mapping of the guest RAM block. --/
structure RamSpan where
  hostAddr : Nat
  size : Nat
deriving DecidableEq, Repr

namespace RamSpan

/-- Whether `offset + len` fits in a 64-bit word and reaches no further than the block. --/
def containsRange (s : RamSpan) (offset len : Nat) : Bool :=
  offset + len < Nat.pow 2 64 && offset + len ≤ s.size

theorem containsRange_iff {s : RamSpan} {offset len : Nat} (hs : s.size < Nat.pow 2 64) :
    s.containsRange offset len = true ↔ offset + len ≤ s.size := by
  simp only [containsRange, Bool.and_eq_true, decide_eq_true_eq]
  constructor
  · exact fun h => h.2
  · intro h; exact ⟨by omega, h⟩

end RamSpan

end LiveMigration
