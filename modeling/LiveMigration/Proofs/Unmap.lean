import LiveMigration.Session

/-! Unmapping stays inside guest RAM. When the RAM block ends below 2^64, a range reaches the engine
    exactly when it ends inside the block: the engine then gets one request for the host addresses
    of the range, which lie inside the block and cannot overflow, and the attempt is counted. A range
    that ends past the block is refused with its offset, length and the block's size, and nothing
    changes. -/

namespace LiveMigration
namespace Live

/-- A range ending inside the block passes the bounds check when the block ends below 2^64. --/
theorem containsRange_of_le {s : RamSpan} {offset len : Nat}
    (hspan : s.hostAddr + s.size < Nat.pow 2 64) (h : offset + len ≤ s.size) :
    s.containsRange offset len = true := by
  have h64 : Nat.pow 2 64 = 18446744073709551616 := rfl
  simp only [RamSpan.containsRange, Bool.and_eq_true, decide_eq_true_eq]
  omega

/-- A range ending past the block fails the bounds check. --/
theorem containsRange_of_lt {s : RamSpan} {offset len : Nat} (h : s.size < offset + len) :
    s.containsRange offset len = false := by
  simp only [RamSpan.containsRange, Bool.and_eq_false_iff, decide_eq_false_iff_not]
  omega

theorem unmapRange_within_span (l : Live) (offset len : Nat)
    (hspan : l.session.span.hostAddr + l.session.span.size < Nat.pow 2 64) :
    (offset + len ≤ l.session.span.size →
      (l.unmapRange offset len).2.engine = (l.engine.unmapRange
        ⟨l.session.domain, l.session.span.hostAddr + offset, len, l.session.unmapOwners⟩).2 ∧
      (l.unmapRange offset len).1 = (l.engine.unmapRange
        ⟨l.session.domain, l.session.span.hostAddr + offset, len, l.session.unmapOwners⟩).1.mapError
          SessionError.engine ∧
      (l.unmapRange offset len).2.control.metrics.count .unmapCount =
        l.control.metrics.count .unmapCount + 1 ∧
      l.session.span.hostAddr ≤ l.session.span.hostAddr + offset ∧
      l.session.span.hostAddr + offset + len ≤ l.session.span.hostAddr + l.session.span.size ∧
      l.session.span.hostAddr + offset + len < Nat.pow 2 64) ∧
    (l.session.span.size < offset + len →
      l.unmapRange offset len = (.error (.rangeOutOfBounds offset len l.session.span.size), l)) := by
  have h64 : Nat.pow 2 64 = 18446744073709551616 := rfl
  refine ⟨fun h => ?_, fun h => ?_⟩
  · have hc := containsRange_of_le hspan h
    refine ⟨?_, ?_, ?_, by omega, by omega, by omega⟩ <;> unfold unmapRange <;>
      simp only [hc, Bool.not_true, Bool.false_eq_true, ↓reduceIte] <;> split <;>
      rename_i hE <;> (try rw [hE]) <;> rfl
  · unfold unmapRange
    simp only [containsRange_of_lt h, Bool.not_false, ↓reduceIte]

/-- A session of the migration destination over 16 KiB of guest RAM at 0x1000, with no peers. --/
def sample : Live where
  session := { handle := 7, role := .master, domain := DomainId.liveMigration,
               localNode := NodeId.master, nodes := Registry.empty, regions := RegionTable.empty,
               span := ⟨0x1000, 0x4000⟩, unmapOwners := OwnerList.empty, timer := none,
               pageSize := guestPageSize }
  engine := {}
  control := {}

theorem unmapRange_sample_page :
    sample.session.span.hostAddr + sample.session.span.size < Nat.pow 2 64 ∧
    ((0 + 4096 ≤ sample.session.span.size →
      (sample.unmapRange 0 4096).2.engine = (sample.engine.unmapRange
        ⟨sample.session.domain, sample.session.span.hostAddr + 0, 4096, sample.session.unmapOwners⟩).2 ∧
      (sample.unmapRange 0 4096).1 = (sample.engine.unmapRange
        ⟨sample.session.domain, sample.session.span.hostAddr + 0, 4096,
          sample.session.unmapOwners⟩).1.mapError SessionError.engine ∧
      (sample.unmapRange 0 4096).2.control.metrics.count .unmapCount =
        sample.control.metrics.count .unmapCount + 1 ∧
      sample.session.span.hostAddr ≤ sample.session.span.hostAddr + 0 ∧
      sample.session.span.hostAddr + 0 + 4096 ≤
        sample.session.span.hostAddr + sample.session.span.size ∧
      sample.session.span.hostAddr + 0 + 4096 < Nat.pow 2 64) ∧
    (sample.session.span.size < 0 + 4096 →
      sample.unmapRange 0 4096 =
        (.error (.rangeOutOfBounds 0 4096 sample.session.span.size), sample))) :=
  ⟨by decide, unmapRange_within_span sample 0 4096 (by decide)⟩

end Live
end LiveMigration
