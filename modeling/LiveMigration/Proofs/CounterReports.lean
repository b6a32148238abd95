import LiveMigration.Metrics
import Mathlib.Data.List.Induction

/-! Counters report what was added since their last report. Take any history of calls on a metrics
    log: adding to a counter, reading it, serializing the counters, setting the destination, and
    writing a report line to it. As long as no counter's running total passes `2^64 - 1`, a counter
    reads its running total, and every serialization (a direct one, or a write once the destination
    is set) reports for each counter exactly what was added to it since the previous serialization.
    So the snapshot a counter keeps never passes its total, and nothing added is lost or reported
    twice. A write before the destination is set answers `false` and changes nothing, and only the
    first setting of the destination succeeds; a later one changes nothing.

    One call changes a counter in one of two ways: a serialization takes its snapshot, and any
    other call adds to its total what it adds (`get_call`). The facts about a history follow by
    induction on the history, one call at a time from its end. -/

namespace LiveMigration

namespace Counter

variable (c : Counter) (n : UInt64)

@[simp] theorem add_total : (c.add n).total = c.total + n := rfl
@[simp] theorem add_flushed : (c.add n).flushed = c.flushed := rfl
@[simp] theorem flush_total : c.flush.total = c.total := rfl
@[simp] theorem flush_flushed : c.flush.flushed = c.total := rfl

@[simp] theorem add_zero' : c.add 0 = c := by
  simp [add]

theorem delta_toNat (h : c.flushed.toNat ≤ c.total.toNat) : c.delta.toNat = c.total.toNat - c.flushed.toNat :=
  UInt64.toNat_sub_of_le _ _ (UInt64.le_iff_toNat_le.mpr h)

end Counter

theorem toNat_add_toUInt64 {a : UInt64} {n : Nat} (h : a.toNat + n < UInt64.size) :
    (a + n.toUInt64).toNat = a.toNat + n := by
  rw [UInt64.toNat_add, Nat.toUInt64_eq, UInt64.toNat_ofNat_of_lt' (by omega)]
  exact Nat.mod_eq_of_lt h

namespace Metrics

theorem get_add (m : Metrics) (p q : CounterPath) (n : UInt64) :
    (m.add q n).get p = if q = p then (m.get p).add n else m.get p := by
  by_cases h : q = p
  · subst h
    simp [add]
  · simp [add, h, get_update_of_ne _ _ (Ne.symm h)]

theorem get_empty (p : CounterPath) : ({} : Metrics).get p = {} := by
  cases p <;> rfl

theorem get_flush (m : Metrics) (p : CounterPath) : m.flush.get p = (m.get p).flush := by
  cases p <;> rfl

/-- Counters that gained `amount p` each, from nothing. --/
def gained (amount : CounterPath → Nat) : Metrics where
  unmapCount := ⟨(amount .unmapCount).toUInt64, 0⟩
  unmapFails := ⟨(amount .unmapFails).toUInt64, 0⟩
  unmappedBytes := ⟨(amount .unmappedBytes).toUInt64, 0⟩
  prefetchCount := ⟨(amount .prefetchCount).toUInt64, 0⟩
  prefetchFails := ⟨(amount .prefetchFails).toUInt64, 0⟩
  pagesTouched := ⟨(amount .pagesTouched).toUInt64, 0⟩
  timerExpirations := ⟨(amount .timerExpirations).toUInt64, 0⟩
  postCopyEntries := ⟨(amount .postCopyEntries).toUInt64, 0⟩
  missedLogCount := ⟨(amount .missedLogCount).toUInt64, 0⟩

theorem gained_delta (amount : CounterPath → Nat) (p : CounterPath) :
    ((gained amount).get p).delta = (amount p).toUInt64 := by
  cases p <;> simp [gained, get, Counter.delta]

/-- A report line shows the counters' deltas and nothing else of them. --/
theorem render_congr {m m' : Metrics} (h : ∀ p, (m.get p).delta = (m'.get p).delta) (t : Nat) :
    m.render t = m'.render t := by
  unfold render
  simp only [h]

end Metrics

namespace MetricsLog

/-! ### Calls -/

/-- A call on a metrics log. Serializing and writing stamp the report with the clock. --/
inductive Call where
  | add (p : CounterPath) (n : UInt64)
  | inc (p : CounterPath)
  | count (p : CounterPath)
  | serialize (timestampMs : Nat)
  | init
  | write (timestampMs : Nat)
deriving DecidableEq, Repr

/-- What a call answers. --/
inductive Reply where
  | done
  | count (n : UInt64)
  | line (text : String)
  | init (result : Except MetricsError Unit)
  | wrote (written : Bool)

/-- Carries out a call; a failed setting of the destination changes nothing. --/
def call (l : MetricsLog) : Call → Reply × MetricsLog
  | .add p n => (.done, { l with metrics := l.metrics.add p n })
  | .inc p => (.done, { l with metrics := l.metrics.inc p })
  | .count p => (.count (l.metrics.count p), l)
  | .serialize t =>
    let (line, m) := l.metrics.report t
    (.line line, { l with metrics := m })
  | .init =>
    match l.init with
    | .ok l' => (.init (.ok ()), l')
    | .error e => (.init (.error e), l)
  | .write t =>
    let (written, l') := l.write t
    (.wrote written, l')

/-- The metrics log after a history of calls, from a fresh one. --/
def after (h : List Call) : MetricsLog := h.foldl (fun l c => (l.call c).2) {}

theorem after_nil : after [] = {} := rfl

theorem after_append_call (h : List Call) (c : Call) : after (h ++ [c]) = ((after h).call c).2 := by
  simp [after, List.foldl_append]

/-- What a call adds to counter `p`. --/
def Call.added (p : CounterPath) : Call → Nat
  | .add q n => if q = p then n.toNat else 0
  | .inc q => if q = p then 1 else 0
  | _ => 0

/-- What a history adds to counter `p`. --/
def added (p : CounterPath) : List Call → Nat
  | [] => 0
  | c :: h => c.added p + added p h

theorem added_append (p : CounterPath) (h h' : List Call) : added p (h ++ h') = added p h + added p h' := by
  induction h with
  | nil => simp [added]
  | cons c h ih => simp [added, ih, Nat.add_assoc]

theorem added_singleton (p : CounterPath) (c : Call) : added p [c] = c.added p := rfl

/-- A call serializes the counters after the history `before`: a direct serialization does, and a
    write does once the destination is set. --/
def Call.Serializes (before : List Call) : Call → Prop
  | .serialize _ => True
  | .write _ => .init ∈ before
  | _ => False

/-- Whether a call serializes the counters of a log. --/
def Call.flushes (l : MetricsLog) : Call → Bool
  | .serialize _ => true
  | .write _ => l.lines.isSome
  | _ => false

/-! ### One call -/

section OneCall
variable (l : MetricsLog) (c : Call) (p : CounterPath)

/-- A call adds to a counter's total what it adds, and a serialization then takes the counter's
    snapshot. --/
theorem get_call :
    ((l.call c).2.metrics.get p) =
      if c.flushes l then ((l.metrics.get p).add (c.added p).toUInt64).flush
      else (l.metrics.get p).add (c.added p).toUInt64 := by
  cases c with
  | add q n =>
    by_cases h : q = p
    · simp [call, Call.flushes, Call.added, Metrics.get_add, h, UInt64.ofNat_toNat]
    · simp [call, Call.flushes, Call.added, Metrics.get_add, h]
  | inc q =>
    by_cases h : q = p
    · simp [call, Call.flushes, Call.added, Metrics.inc, Metrics.get_add, h]
    · simp [call, Call.flushes, Call.added, Metrics.inc, Metrics.get_add, h]
  | count q => simp [call, Call.flushes, Call.added]
  | serialize t => simp [call, Call.flushes, Call.added, Metrics.report, Metrics.get_flush]
  | init =>
    simp only [call, init, Call.flushes, Call.added]
    cases hl : l.lines <;> simp
  | write t =>
    simp only [call, write, Call.flushes]
    split
    · rename_i hl
      simp [hl, Call.added]
    · rename_i ls hl
      simp [hl, Metrics.report, Metrics.get_flush, Call.added]

theorem lines_isSome_call :
    (l.call c).2.lines.isSome = (l.lines.isSome || c = .init) := by
  cases c with
  | init =>
    simp only [call, init]
    cases h : l.lines <;> simp [h]
  | write t =>
    simp only [call, write]
    cases h : l.lines <;> simp [h]
  | _ => simp [call]

end OneCall

/-! ### Histories -/

/-- The destination is set exactly when the history sets it. --/
theorem lines_isSome_after (h : List Call) : (after h).lines.isSome = decide (.init ∈ h) := by
  induction h using List.reverseRecOn with
  | nil => rfl
  | append_singleton h c ih =>
    rw [after_append_call, lines_isSome_call, ih]
    by_cases hc : c = .init
    · simp [hc]
    · simp [hc, Ne.symm hc]

theorem flushes_after_iff (h : List Call) (c : Call) : c.flushes (after h) = true ↔ c.Serializes h := by
  cases c <;> simp [Call.flushes, Call.Serializes, lines_isSome_after]

/-- No counter's running total passes `2^64 - 1` along the history. --/
def Bounded (h : List Call) : Prop := ∀ p, added p h < UInt64.size

theorem Bounded.of_append {h h' : List Call} (hb : Bounded (h ++ h')) : Bounded h := fun p =>
  Nat.lt_of_le_of_lt (by rw [added_append]; exact Nat.le_add_right _ _) (hb p)

/-- A counter's total is everything added to it, and its snapshot never passes the total. --/
theorem total_after {h : List Call} (hb : Bounded h) (p : CounterPath) :
    ((after h).metrics.get p).total.toNat = added p h ∧
      ((after h).metrics.get p).flushed.toNat ≤ ((after h).metrics.get p).total.toNat := by
  induction h using List.reverseRecOn with
  | nil => simp [after_nil, Metrics.get_empty, added]
  | append_singleton h c ih =>
    obtain ⟨htotal, hflushed⟩ := ih hb.of_append
    have hsum : added p h + c.added p < UInt64.size := by
      have := hb p
      rwa [added_append, added_singleton] at this
    have hadd := toNat_add_toUInt64 (htotal ▸ hsum)
    rw [after_append_call, get_call, added_append, added_singleton]
    split
    · simp only [Counter.flush_total, Counter.flush_flushed, Counter.add_total]
      exact ⟨hadd.trans (by rw [htotal]), Nat.le_refl _⟩
    · simp only [Counter.add_total, Counter.add_flushed, hadd, htotal]
      exact ⟨trivial, by omega⟩

/-! ### What a serialization reports -/

/-- The history `older` is empty or ends in a serialization. --/
def Reported (older : List Call) : Prop := older = [] ∨ ∃ o c, older = o ++ [c] ∧ c.Serializes o

/-- No call of `recent`, made after `older`, serializes. --/
def Unreported (older recent : List Call) : Prop :=
  ∀ a c b, recent = a ++ c :: b → ¬c.Serializes (older ++ a)

theorem Unreported.of_append {older recent : List Call} {c : Call} (h : Unreported older (recent ++ [c])) :
    Unreported older recent ∧ ¬c.Serializes (older ++ recent) :=
  ⟨fun a d b hr => h a d (b ++ [c]) (by simp [hr]), h recent c [] rfl⟩

/-- At the start and right after a serialization, every snapshot is the total. --/
theorem flushed_after_reported {older : List Call} (h : Reported older) (p : CounterPath) :
    ((after older).metrics.get p).flushed = ((after older).metrics.get p).total := by
  rcases h with rfl | ⟨o, c, rfl, hc⟩
  · simp [after_nil, Metrics.get_empty]
  · rw [after_append_call, get_call, if_pos ((flushes_after_iff o c).mpr hc)]
    rfl

/-- What a counter shows in its next report is what was added to it since the last serialization. --/
theorem delta_after {older recent : List Call} (hr : Reported older) (hu : Unreported older recent)
    (hb : Bounded (older ++ recent)) (p : CounterPath) :
    ((after (older ++ recent)).metrics.get p).delta.toNat = added p recent := by
  induction recent using List.reverseRecOn with
  | nil => simp [Counter.delta, flushed_after_reported hr, added]
  | append_singleton recent c ih =>
    rw [← List.append_assoc] at hb ⊢
    obtain ⟨hu', hc⟩ := hu.of_append
    obtain ⟨htotal, hflushed⟩ := total_after hb.of_append p
    have hsum : added p (older ++ recent) + c.added p < UInt64.size := by
      have := hb p
      rwa [added_append _ (older ++ recent), added_singleton] at this
    have hadd := toNat_add_toUInt64 (htotal ▸ hsum)
    have hdelta := ih hu' hb.of_append
    rw [Counter.delta_toNat _ hflushed, htotal] at hdelta
    -- the call does not serialize, so it only adds to the total
    rw [after_append_call, get_call, if_neg (mt (flushes_after_iff _ c).mp hc),
      Counter.delta_toNat _ (by simp only [Counter.add_total, Counter.add_flushed, hadd]; omega),
      Counter.add_total, Counter.add_flushed, hadd, htotal, added_append p recent [c], added_singleton]
    omega

example : ((after [.add .unmapCount 3, .serialize 1, .inc .unmapCount, .write 2]).metrics.get .unmapCount).delta = 1 := by
  decide

/-- The line a serialization reports: the counters with the amounts added since the last one. --/
theorem render_after {older recent : List Call} (hr : Reported older) (hu : Unreported older recent)
    (hb : Bounded (older ++ recent)) (t : Nat) :
    (after (older ++ recent)).metrics.render t = (Metrics.gained fun p => added p recent).render t := by
  refine Metrics.render_congr (fun p => ?_) t
  have hlt : added p recent < UInt64.size :=
    Nat.lt_of_le_of_lt (by rw [added_append]; exact Nat.le_add_left _ _) (hb p)
  rw [Metrics.gained_delta, ← UInt64.toNat_inj, delta_after hr hu hb, Nat.toUInt64_eq,
    UInt64.toNat_ofNat_of_lt' hlt]

/-! ### Setting the destination and writing -/

section Destination
variable {h : List Call}

theorem call_write_of_unset (t : Nat) (hi : .init ∉ h) : (after h).call (.write t) = (.wrote false, after h) := by
  have hl : (after h).lines = none := by
    simpa [hi] using lines_isSome_after h
  simp [call, write, hl]

theorem call_write_of_set (t : Nat) (hi : .init ∈ h) :
    ∃ ls, (after h).lines = some ls ∧
      (after h).call (.write t) = (.wrote true, ⟨(after h).metrics.flush, some (ls.push ((after h).metrics.render t))⟩) := by
  obtain ⟨ls, hl⟩ := Option.isSome_iff_exists.mp (by simpa [hi] using lines_isSome_after h)
  exact ⟨ls, hl, by simp [call, write, hl, Metrics.report]⟩

theorem call_init :
    (after h).call .init = if .init ∈ h then (.init (.error .alreadyInitialized), after h)
      else (.init (.ok ()), { after h with lines := some #[] }) := by
  by_cases hi : .init ∈ h
  · obtain ⟨ls, hl⟩ := Option.isSome_iff_exists.mp (by simpa [hi] using lines_isSome_after h)
    simp [call, init, hl, hi]
  · have hl : (after h).lines = none := by
      simpa [hi] using lines_isSome_after h
    simp [call, init, hl, hi]

end Destination

/-! ### Every history -/

/-- Along any history in which no counter's total passes `2^64 - 1`: a counter reads its running
    total; its snapshot never passes its total; a serialization, direct or by a write once the
    destination is set, reports for every counter what was added to it since the last
    serialization; a write before the destination is set answers `false` and changes nothing; and
    setting the destination succeeds only the first time, a later attempt changing nothing. --/
theorem counters_report_since_last (h : List Call) (hb : Bounded h) :
    (∀ p, ((after h).metrics.count p).toNat = added p h) ∧
    (∀ p, ((after h).metrics.get p).flushed ≤ ((after h).metrics.get p).total) ∧
    (∀ older recent, h = older ++ recent → Reported older → Unreported older recent → ∀ t,
      ((after h).call (.serialize t)).1 = .line ((Metrics.gained fun p => added p recent).render t) ∧
      (.init ∈ h → ∃ ls, (after h).lines = some ls ∧
        (after h).call (.write t) =
          (.wrote true, ⟨(after h).metrics.flush, some (ls.push ((Metrics.gained fun p => added p recent).render t))⟩))) ∧
    (∀ t, .init ∉ h → (after h).call (.write t) = (.wrote false, after h)) ∧
    (after h).call .init = if .init ∈ h then (.init (.error .alreadyInitialized), after h)
      else (.init (.ok ()), { after h with lines := some #[] }) := by
  refine ⟨fun p => (total_after hb p).1, fun p => UInt64.le_iff_toNat_le.mpr (total_after hb p).2,
    ?_, fun t hi => call_write_of_unset t hi, call_init⟩
  rintro older recent rfl hr hu t
  refine ⟨by rw [← render_after hr hu hb t]; rfl, fun hi => ?_⟩
  obtain ⟨ls, hl, hw⟩ := call_write_of_set t hi
  exact ⟨ls, hl, by rw [hw, render_after hr hu hb t]⟩

/-- A history that adds, serializes, adds again, sets the destination and writes. --/
def sampleCalls : List Call := [.add .unmapCount 3, .add .unmappedBytes 0x3000, .serialize 1, .inc .unmapCount, .init]

theorem counters_report_since_last_sample :
    Bounded sampleCalls ∧
    (∀ p, ((after sampleCalls).metrics.count p).toNat = added p sampleCalls) ∧
    (∀ p, ((after sampleCalls).metrics.get p).flushed ≤ ((after sampleCalls).metrics.get p).total) ∧
    (∀ older recent, sampleCalls = older ++ recent → Reported older → Unreported older recent → ∀ t,
      ((after sampleCalls).call (.serialize t)).1 = .line ((Metrics.gained fun p => added p recent).render t) ∧
      (.init ∈ sampleCalls → ∃ ls, (after sampleCalls).lines = some ls ∧
        (after sampleCalls).call (.write t) =
          (.wrote true, ⟨(after sampleCalls).metrics.flush,
            some (ls.push ((Metrics.gained fun p => added p recent).render t))⟩))) ∧
    (∀ t, .init ∉ sampleCalls → (after sampleCalls).call (.write t) = (.wrote false, after sampleCalls)) ∧
    (after sampleCalls).call .init = if .init ∈ sampleCalls then (.init (.error .alreadyInitialized), after sampleCalls)
      else (.init (.ok ()), { after sampleCalls with lines := some #[] }) := by
  have hb : Bounded sampleCalls := by
    intro p
    cases p <;> decide
  exact ⟨hb, counters_report_since_last sampleCalls hb⟩

end MetricsLog

end LiveMigration
