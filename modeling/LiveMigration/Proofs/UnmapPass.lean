import LiveMigration.Session
import LiveMigration.Proofs.DirtyRuns
import LiveMigration.Proofs.Unmap

/-! An unmap pass over the dirty runs of a bitmap. The ranges are sent in order; the pass sends
    every range up to the first one that lies outside guest RAM or that the engine fails, and
    nothing after it. A full pass answers how many ranges it sent and starts a prefetch worker,
    which counts when the system starts its thread; a pass that stops answers why and starts none. The counters grow by what the engine was asked,
    failed and unmapped, and nothing else changes.

    One step (`unmapRange_fits_ok`, `unmapRange_fits_error`, `unmapRange_outside`) says what
    a single range does; the run (`unmapAll_outcome`) follows by induction over the ranges. -/

namespace LiveMigration

/-! ### Counters of the unmap path -/

namespace Metrics

/-- The counters after `calls` engine requests, `fails` of them failed, that unmapped `bytes`. --/
def countUnmaps (m : Metrics) (calls fails bytes : Nat) : Metrics :=
  ((m.add .unmapCount calls.toUInt64).add .unmapFails fails.toUInt64).add .unmappedBytes bytes.toUInt64

@[simp]
theorem add_zero (m : Metrics) (p : CounterPath) : m.add p 0 = m := by
  cases p <;> simp [add, update, Counter.add]

theorem countUnmaps_eq (m : Metrics) (calls fails bytes : Nat) :
    m.countUnmaps calls fails bytes =
      { m with unmapCount := m.unmapCount.add calls.toUInt64, unmapFails := m.unmapFails.add fails.toUInt64,
               unmappedBytes := m.unmappedBytes.add bytes.toUInt64 } := rfl

@[simp]
theorem countUnmaps_zero (m : Metrics) : m.countUnmaps 0 0 0 = m := by
  simp [countUnmaps_eq, Counter.add]

theorem countUnmaps_countUnmaps (m : Metrics) (c f b c' f' b' : Nat) :
    (m.countUnmaps c f b).countUnmaps c' f' b' = m.countUnmaps (c + c') (f + f') (b + b') := by
  simp only [countUnmaps_eq, Counter.add, UInt64.ofNat_add, Nat.toUInt64_eq, UInt64.add_assoc]

end Metrics

namespace Live

/-! ### One range -/

/-- The request a session sends for a byte range of guest RAM. --/
def request (l : Live) (r : Dirty.Range) : UnmapRequest :=
  ⟨l.session.domain, l.session.span.hostAddr + r.offset, r.len, l.session.unmapOwners⟩

/-- The range ends inside guest RAM. --/
def Fits (l : Live) (r : Dirty.Range) : Prop := r.offset + r.len ≤ l.session.span.size

/-- The engine fails the unmap it is asked `k` requests from now. --/
def FailsAt (l : Live) (k : Nat) : Prop := l.engine.failUnmapAt = some (l.engine.unmaps.size + k)

/-- The bytes of a list of ranges. --/
def bytes : List Dirty.Range → Nat
  | [] => 0
  | r :: rs => r.len + bytes rs

variable {l : Live} {r : Dirty.Range}

theorem unmapRange_outside (h : ¬l.Fits r) :
    l.unmapRange r.offset r.len = (.error (.rangeOutOfBounds r.offset r.len l.session.span.size), l) := by
  unfold unmapRange
  simp only [containsRange_of_lt (Nat.lt_of_not_le h), Bool.not_false, ↓reduceIte]

/-- The session after the engine unmapped a range: the engine recorded the request, and the
    counters count one more request and its bytes. --/
def afterUnmap (l : Live) (r : Dirty.Range) : Live :=
  { l with engine := { l.engine with unmaps := l.engine.unmaps.push (l.request r) },
           control := { l.control with metrics := l.control.metrics.countUnmaps 1 0 r.len } }

theorem unmapRange_fits_ok (hS : l.session.span.size < Nat.pow 2 64) (h : l.Fits r) (hok : ¬l.FailsAt 0) :
    l.unmapRange r.offset r.len = (.ok (), l.afterUnmap r) := by
  have hc : l.session.span.containsRange r.offset r.len = true := by
    simp only [RamSpan.containsRange, Bool.and_eq_true, decide_eq_true_eq]
    exact ⟨Nat.lt_of_le_of_lt h hS, h⟩
  have he : l.engine.unmapRange (l.request r) = (.ok (), { l.engine with unmaps := l.engine.unmaps.push (l.request r) }) := by
    unfold Engine.unmapRange
    rw [if_neg (show l.engine.failUnmapAt ≠ some l.engine.unmaps.size from hok)]
  unfold unmapRange
  simp only [hc, Bool.not_true, Bool.false_eq_true, ↓reduceIte]
  rw [show (⟨_, _, _, _⟩ : UnmapRequest) = l.request r from rfl, he]
  simp [afterUnmap, Metrics.countUnmaps, Metrics.inc]

theorem unmapRange_fits_error (hS : l.session.span.size < Nat.pow 2 64) (h : l.Fits r) (hfail : l.FailsAt 0) :
    l.unmapRange r.offset r.len =
      (.error (.engine (.unmap (l.request r).addr r.len .ioFailure)),
        { l with control := { l.control with metrics := l.control.metrics.countUnmaps 1 1 0 } }) := by
  have hc : l.session.span.containsRange r.offset r.len = true := by
    simp only [RamSpan.containsRange, Bool.and_eq_true, decide_eq_true_eq]
    exact ⟨Nat.lt_of_le_of_lt h hS, h⟩
  have he : l.engine.unmapRange (l.request r) = (.error (.unmap (l.request r).addr r.len .ioFailure), l.engine) := by
    unfold Engine.unmapRange
    rw [if_pos (show l.engine.failUnmapAt = some l.engine.unmaps.size from hfail)]
    rfl
  unfold unmapRange
  simp only [hc, Bool.not_true, Bool.false_eq_true, ↓reduceIte]
  rw [show (⟨_, _, _, _⟩ : UnmapRequest) = l.request r from rfl, he]
  simp [Metrics.countUnmaps, Metrics.inc]

/-! ### What an unmap leaves for the next one -/

@[simp]
theorem afterUnmap_session : (l.afterUnmap r).session = l.session := rfl

@[simp]
theorem afterUnmap_request : (l.afterUnmap r).request = l.request := rfl

/-- The engine counts its unmaps, so its next failure comes one request sooner. --/
theorem afterUnmap_failsAt (k : Nat) : (l.afterUnmap r).FailsAt k ↔ l.FailsAt (k + 1) := by
  simp only [FailsAt, afterUnmap, Array.size_push, Nat.add_assoc, Nat.add_comm 1 k]

theorem afterUnmap_countUnmaps (c f b : Nat) :
    (l.afterUnmap r).control.metrics.countUnmaps c f b = l.control.metrics.countUnmaps (c + 1) f (r.len + b) := by
  simp only [afterUnmap, Metrics.countUnmaps_countUnmaps, Nat.add_comm 1, Nat.zero_add]

/-! ### A pass over ranges -/

/-- The ranges `done` all lie inside guest RAM, and the engine takes each of them. --/
def Takes (l : Live) (done : List Dirty.Range) : Prop :=
  (∀ r ∈ done, l.Fits r) ∧ ∀ k < done.length, ¬l.FailsAt k

/-- How a pass ends after sending `done`: the next range lies outside guest RAM, or the engine fails
    it, or nothing is left. The counters grow by the requests, failures and bytes of the pass. --/
def Ends (l : Live) (n : Nat) (done rest : List Dirty.Range) (out : Except SessionError Nat × Live) : Prop :=
  (rest = [] ∧ out.1 = .ok (n + done.length) ∧
    out.2.control = { l.control with metrics := l.control.metrics.countUnmaps done.length 0 (bytes done) }) ∨
  (∃ r rest', rest = r :: rest' ∧ ¬l.Fits r ∧
    out.1 = .error (.rangeOutOfBounds r.offset r.len l.session.span.size) ∧
    out.2.control = { l.control with metrics := l.control.metrics.countUnmaps done.length 0 (bytes done) }) ∨
  (∃ r rest', rest = r :: rest' ∧ l.Fits r ∧ l.FailsAt done.length ∧
    out.1 = .error (.engine (.unmap (l.request r).addr r.len .ioFailure)) ∧
    out.2.control = { l.control with metrics := l.control.metrics.countUnmaps (done.length + 1) 1 (bytes done) })

/-- An unmap leaves the system's threads as they were. --/
theorem unmapRange_threadsRefused (offset len : Nat) :
    (l.unmapRange offset len).2.threadsRefused = l.threadsRefused := by
  unfold unmapRange
  dsimp only
  split
  · rfl
  · split <;> rfl

theorem unmapAll_threadsRefused (rs : List Dirty.Range) (n : Nat) :
    (l.unmapAll rs n).2.threadsRefused = l.threadsRefused := by
  induction rs generalizing l n with
  | nil => rfl
  | cons r rs ih =>
    have hstep := unmapRange_threadsRefused (l := l) r.offset r.len
    unfold unmapAll
    split <;> rename_i l' h <;> rw [h] at hstep
    · rw [ih]
      exact hstep
    · exact hstep

theorem unmapAll_cons_of_fits (hS : l.session.span.size < Nat.pow 2 64) (h : l.Fits r) (hok : ¬l.FailsAt 0)
    (rs : List Dirty.Range) (n : Nat) : l.unmapAll (r :: rs) n = (l.afterUnmap r).unmapAll rs (n + 1) := by
  rw [unmapAll, unmapRange_fits_ok hS h hok]

theorem Takes.cons {done : List Dirty.Range} (h : l.Fits r) (hok : ¬l.FailsAt 0) (ht : (l.afterUnmap r).Takes done) :
    l.Takes (r :: done) := by
  refine ⟨fun r' hr' => ?_, fun k hk => ?_⟩
  · rcases List.mem_cons.mp hr' with rfl | hr'
    · exact h
    · exact ht.1 r' hr'
  · cases k with
    | zero => exact hok
    | succ k => exact fun hk' => ht.2 k (by simpa using hk) ((afterUnmap_failsAt k).mpr hk')

theorem bytes_cons (done : List Dirty.Range) : bytes (r :: done) = r.len + bytes done := rfl

/-- A pass that ends after `done` from the state after `r` ends after `r :: done` from before it. --/
theorem Ends.cons {n : Nat} {done rest : List Dirty.Range} {out : Except SessionError Nat × Live}
    (h : (l.afterUnmap r).Ends (n + 1) done rest out) : l.Ends n (r :: done) rest out := by
  rcases h with ⟨hrest, hres, hctl⟩ | ⟨r', rest', hrest, hf, hres, hctl⟩ | ⟨r', rest', hrest, hf, hk, hres, hctl⟩
  · refine .inl ⟨hrest, by rw [hres, List.length_cons, Nat.add_assoc, Nat.add_comm 1], ?_⟩
    rw [hctl, afterUnmap_countUnmaps, bytes_cons, List.length_cons]
    rfl
  · refine .inr (.inl ⟨r', rest', hrest, hf, hres, ?_⟩)
    rw [hctl, afterUnmap_countUnmaps, bytes_cons, List.length_cons]
    rfl
  · refine .inr (.inr ⟨r', rest', hrest, hf, (afterUnmap_failsAt _).mp hk, hres, ?_⟩)
    rw [hctl, afterUnmap_countUnmaps, bytes_cons, List.length_cons]
    rfl

/-- A pass sends its ranges in order up to the first one that lies outside guest RAM or that the
    engine fails, and the engine records exactly the requests it took. --/
theorem unmapAll_outcome (hS : l.session.span.size < Nat.pow 2 64) (rs : List Dirty.Range) (n : Nat) :
    ∃ done rest, rs = done ++ rest ∧ l.Takes done ∧
      (l.unmapAll rs n).2.session = l.session ∧
      (l.unmapAll rs n).2.engine = { l.engine with unmaps := l.engine.unmaps ++ (done.map l.request).toArray } ∧
      l.Ends n done rest (l.unmapAll rs n) := by
  induction rs generalizing l n with
  | nil =>
    refine ⟨[], [], rfl, ⟨by simp, by simp⟩, rfl, by simp [unmapAll], .inl ⟨rfl, by simp [unmapAll], ?_⟩⟩
    simp [unmapAll, bytes]
  | cons r rs ih =>
    by_cases hf : l.Fits r
    · by_cases hk : l.FailsAt 0
      · -- the engine fails the first range
        refine ⟨[], r :: rs, rfl, ⟨by simp, by simp⟩, ?_, ?_, .inr (.inr ⟨r, rs, rfl, hf, hk, ?_, ?_⟩)⟩ <;>
          simp [unmapAll, unmapRange_fits_error hS hf hk, bytes]
      · -- the first range goes through, and the rest is a pass from the state after it
        obtain ⟨done, rest, hrs, ht, hsess, heng, hend⟩ := ih (l := l.afterUnmap r) (n := n + 1) hS
        rw [unmapAll_cons_of_fits hS hf hk]
        refine ⟨r :: done, rest, by rw [hrs]; rfl, ht.cons hf hk, hsess, ?_, hend.cons⟩
        rw [heng, afterUnmap_request]
        simp [afterUnmap]
    · refine ⟨[], r :: rs, rfl, ⟨by simp, by simp⟩, ?_, ?_, .inr (.inl ⟨r, rs, rfl, hf, ?_, ?_⟩)⟩ <;>
        simp [unmapAll, unmapRange_outside hf, bytes]

/-! ### A pass over a bitmap -/

/-- The ending of a pass reads only its answer and the phase controller. --/
theorem Ends.congr {n : Nat} {done rest : List Dirty.Range} {out out' : Except SessionError Nat × Live}
    (h : l.Ends n done rest out) (h1 : out'.1 = out.1) (h2 : out'.2.control = out.2.control) :
    l.Ends n done rest out' := by
  unfold Ends
  rw [h1, h2]
  exact h

section Bitmap
variable (l : Live) (bitmap : List UInt8)

theorem unmapBitmap_fst :
    (l.unmapBitmap bitmap).1 = (l.unmapAll (Dirty.ranges bitmap l.session.pageSize) 0).1 := by
  unfold unmapBitmap
  split <;> rename_i h <;> rw [h]

theorem unmapBitmap_control :
    (l.unmapBitmap bitmap).2.control = (l.unmapAll (Dirty.ranges bitmap l.session.pageSize) 0).2.control := by
  unfold unmapBitmap
  split <;> rename_i h <;> rw [h]
  exact startPrefetch_control _

theorem unmapBitmap_engine :
    (l.unmapBitmap bitmap).2.engine = (l.unmapAll (Dirty.ranges bitmap l.session.pageSize) 0).2.engine := by
  unfold unmapBitmap
  split <;> rename_i h <;> rw [h]
  exact startPrefetch_engine _

/-- A full pass starts one prefetch worker when the system starts its thread, and a pass that stops
    starts none. --/
theorem unmapBitmap_session :
    (l.unmapBitmap bitmap).2.session =
      { (l.unmapAll (Dirty.ranges bitmap l.session.pageSize) 0).2.session with
        prefetchWorkers := (l.unmapAll (Dirty.ranges bitmap l.session.pageSize) 0).2.session.prefetchWorkers +
          if (l.unmapAll (Dirty.ranges bitmap l.session.pageSize) 0).1.toBool = true ∧ l.threadsRefused = false
          then 1 else 0 } := by
  have ht := unmapAll_threadsRefused (l := l) (Dirty.ranges bitmap l.session.pageSize) 0
  unfold unmapBitmap startPrefetch
  split
  · rename_i n l' h
    have ht' : l'.threadsRefused = l.threadsRefused := by rw [h] at ht; exact ht
    rw [h]
    -- a full pass: the worker counts exactly when its thread starts
    cases hr : l.threadsRefused <;> simp [ht', hr, Except.toBool]
  · rename_i e l' h
    rw [h]
    rfl

end Bitmap

/-- Unmapping a dirty bitmap. Its runs are its maximal runs of dirty pages, in page order. The pass
    sends the byte ranges of the runs `done` and stops at the first run of `rest`, if any, which lies
    outside guest RAM or which the engine fails; the engine records exactly the requests of `done`.
    Only a full pass starts a prefetch worker, and it counts when the system starts its thread. --/
theorem unmapBitmap_outcome (l : Live) (bitmap : List UInt8)
    (hspan : l.session.span.hostAddr + l.session.span.size < Nat.pow 2 64) :
    (∀ r, r ∈ Dirty.runs bitmap ↔ r.IsMaximal (Dirty.dirtyAt bitmap)) ∧
    (Dirty.runs bitmap).Pairwise Dirty.Run.Before ∧
    ∃ done rest, Dirty.runs bitmap = done ++ rest ∧
      l.Takes (done.map (Dirty.Run.toRange l.session.pageSize)) ∧
      (l.unmapBitmap bitmap).2.engine =
        { l.engine with
          unmaps := l.engine.unmaps ++ (done.map fun r => l.request (r.toRange l.session.pageSize)).toArray } ∧
      l.Ends 0 (done.map (Dirty.Run.toRange l.session.pageSize)) (rest.map (Dirty.Run.toRange l.session.pageSize))
        (l.unmapBitmap bitmap) ∧
      (l.unmapBitmap bitmap).2.session =
        { l.session with
          prefetchWorkers := l.session.prefetchWorkers + if rest = [] ∧ l.threadsRefused = false then 1 else 0 } := by
  have hS : l.session.span.size < Nat.pow 2 64 := Nat.lt_of_le_of_lt (Nat.le_add_left _ _) hspan
  obtain ⟨done, rest, hrs, ht, hsess, heng, hend⟩ :=
    l.unmapAll_outcome hS (Dirty.ranges bitmap l.session.pageSize) 0
  obtain ⟨done, rest, hruns, rfl, rfl⟩ := List.map_eq_append_iff.mp hrs
  refine ⟨fun r => Dirty.mem_runs_iff, Dirty.runs_before bitmap, done, rest, hruns, ht, ?_,
    hend.congr (unmapBitmap_fst l bitmap) (unmapBitmap_control l bitmap), ?_⟩
  · rw [unmapBitmap_engine, heng, List.map_map]
    rfl
  · -- the pass completes exactly when no run is left over
    have hok : (l.unmapAll (Dirty.ranges bitmap l.session.pageSize) 0).1.toBool = true ↔ rest = [] := by
      rcases hend with ⟨hrest, hres, -⟩ | ⟨r, rest', hrest, -, hres, -⟩ | ⟨r, rest', hrest, -, -, hres, -⟩
      · simp [hres, Except.toBool, List.map_eq_nil_iff.mp hrest]
      · obtain ⟨r, rest', rfl, -, -⟩ := List.map_eq_cons_iff.mp hrest
        simp [hres, Except.toBool]
      · obtain ⟨r, rest', rfl, -, -⟩ := List.map_eq_cons_iff.mp hrest
        simp [hres, Except.toBool]
    rw [unmapBitmap_session, hsess]
    simp only [hok]

/-- A client session over twelve pages of guest RAM whose engine fails the second unmap it is asked. --/
def firstFailure : Live where
  session := { handle := 5, role := .client, domain := DomainId.liveMigration, localNode := NodeId.migrationClient,
               nodes := Registry.empty, regions := RegionTable.empty, span := ⟨0x7f0000000000, 12 * guestPageSize⟩,
               unmapOwners := ⟨[NodeId.migrationClient], by decide⟩, timer := none, pageSize := guestPageSize }
  engine := { fd := 5, failUnmapAt := some 1 }
  control := {}

theorem unmapBitmap_firstFailure :
    firstFailure.session.span.hostAddr + firstFailure.session.span.size < Nat.pow 2 64 ∧
    (∀ r, r ∈ Dirty.runs [8, 0, 8, 0, 8, 0, 8, 0, 0, 0, 0, 0] ↔ r.IsMaximal (Dirty.dirtyAt [8, 0, 8, 0, 8, 0, 8, 0, 0, 0, 0, 0])) ∧
    (Dirty.runs [8, 0, 8, 0, 8, 0, 8, 0, 0, 0, 0, 0]).Pairwise Dirty.Run.Before ∧
    ∃ done rest, Dirty.runs [8, 0, 8, 0, 8, 0, 8, 0, 0, 0, 0, 0] = done ++ rest ∧
      firstFailure.Takes (done.map (Dirty.Run.toRange firstFailure.session.pageSize)) ∧
      (firstFailure.unmapBitmap [8, 0, 8, 0, 8, 0, 8, 0, 0, 0, 0, 0]).2.engine =
        { firstFailure.engine with
          unmaps := firstFailure.engine.unmaps ++
            (done.map fun r => firstFailure.request (r.toRange firstFailure.session.pageSize)).toArray } ∧
      firstFailure.Ends 0 (done.map (Dirty.Run.toRange firstFailure.session.pageSize))
        (rest.map (Dirty.Run.toRange firstFailure.session.pageSize)) (firstFailure.unmapBitmap [8, 0, 8, 0, 8, 0, 8, 0, 0, 0, 0, 0]) ∧
      (firstFailure.unmapBitmap [8, 0, 8, 0, 8, 0, 8, 0, 0, 0, 0, 0]).2.session =
        { firstFailure.session with
          prefetchWorkers := firstFailure.session.prefetchWorkers +
            if rest = [] ∧ firstFailure.threadsRefused = false then 1 else 0 } :=
  ⟨by decide, unmapBitmap_outcome firstFailure [8, 0, 8, 0, 8, 0, 8, 0, 0, 0, 0, 0] (by decide)⟩

end Live

end LiveMigration
