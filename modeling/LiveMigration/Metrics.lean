import LiveMigration.OsError

/-! Metrics: counters of the unmap path, the prefetch walks, the phase controller and the logger.
    A counter keeps its running total and the total at the last flush, and reports the difference;
    reporting flushes it. Totals are 64-bit words that wrap. A report is one JSON line: the
    timestamp, then one object per group, in a fixed order. -/

namespace LiveMigration

/-- A running total and the total at the last flush. --/
structure Counter where
  total : UInt64 := 0
  flushed : UInt64 := 0
deriving DecidableEq, Repr

namespace Counter

/-- Adds to the total. --/
def add (c : Counter) (n : UInt64) : Counter := { c with total := c.total + n }

/-- What was added since the last flush. --/
def delta (c : Counter) : UInt64 := c.total - c.flushed

/-- Marks the total as reported. --/
def flush (c : Counter) : Counter := { c with flushed := c.total }

end Counter

/-- The counters of one program run. --/
structure Metrics where
  unmapCount : Counter := {}
  unmapFails : Counter := {}
  unmappedBytes : Counter := {}
  prefetchCount : Counter := {}
  prefetchFails : Counter := {}
  pagesTouched : Counter := {}
  timerExpirations : Counter := {}
  postCopyEntries : Counter := {}
  missedLogCount : Counter := {}
deriving DecidableEq, Repr

/-- A counter by its group and name. --/
inductive CounterPath where
  | unmapCount | unmapFails | unmappedBytes
  | prefetchCount | prefetchFails | pagesTouched
  | timerExpirations | postCopyEntries
  | missedLogCount
deriving DecidableEq, Repr

namespace CounterPath

/-- Every counter, in report order. --/
def all : List CounterPath :=
  [.unmapCount, .unmapFails, .unmappedBytes, .prefetchCount, .prefetchFails, .pagesTouched,
    .timerExpirations, .postCopyEntries, .missedLogCount]

/-- The group of a counter in a report. --/
def group : CounterPath → String
  | .unmapCount | .unmapFails | .unmappedBytes => "unmap"
  | .prefetchCount | .prefetchFails | .pagesTouched => "prefetch"
  | .timerExpirations | .postCopyEntries => "phase"
  | .missedLogCount => "logger"

/-- The name of a counter in its group. --/
def name : CounterPath → String
  | .unmapCount => "unmap_count" | .unmapFails => "unmap_fails"
  | .unmappedBytes => "unmapped_bytes" | .prefetchCount => "prefetch_count"
  | .prefetchFails => "prefetch_fails" | .pagesTouched => "pages_touched"
  | .timerExpirations => "timer_expirations" | .postCopyEntries => "post_copy_entries"
  | .missedLogCount => "missed_log_count"

/-- A counter from `group.name`. --/
def read? (s : String) : Option CounterPath := all.find? fun p => p.group ++ "." ++ p.name = s

end CounterPath

namespace Metrics

/-- The counter at a path. --/
def get (m : Metrics) : CounterPath → Counter
  | .unmapCount => m.unmapCount | .unmapFails => m.unmapFails
  | .unmappedBytes => m.unmappedBytes | .prefetchCount => m.prefetchCount
  | .prefetchFails => m.prefetchFails | .pagesTouched => m.pagesTouched
  | .timerExpirations => m.timerExpirations | .postCopyEntries => m.postCopyEntries
  | .missedLogCount => m.missedLogCount

/-- Changes the counter at a path. --/
def update (m : Metrics) (p : CounterPath) (f : Counter → Counter) : Metrics :=
  match p with
  | .unmapCount => { m with unmapCount := f m.unmapCount }
  | .unmapFails => { m with unmapFails := f m.unmapFails }
  | .unmappedBytes => { m with unmappedBytes := f m.unmappedBytes }
  | .prefetchCount => { m with prefetchCount := f m.prefetchCount }
  | .prefetchFails => { m with prefetchFails := f m.prefetchFails }
  | .pagesTouched => { m with pagesTouched := f m.pagesTouched }
  | .timerExpirations => { m with timerExpirations := f m.timerExpirations }
  | .postCopyEntries => { m with postCopyEntries := f m.postCopyEntries }
  | .missedLogCount => { m with missedLogCount := f m.missedLogCount }

@[simp]
theorem get_update_self (m : Metrics) (p : CounterPath) (f : Counter → Counter) :
    (m.update p f).get p = f (m.get p) := by
  cases p <;> rfl

theorem get_update_of_ne (m : Metrics) {p q : CounterPath} (f : Counter → Counter) (h : q ≠ p) :
    (m.update p f).get q = m.get q := by
  cases p <;> cases q <;> first | rfl | exact absurd rfl h

/-- Adds to the counter at a path. --/
def add (m : Metrics) (p : CounterPath) (n : UInt64) : Metrics := m.update p (·.add n)

/-- Adds one to the counter at a path. --/
def inc (m : Metrics) (p : CounterPath) : Metrics := m.add p 1

/-- The total of the counter at a path. --/
def count (m : Metrics) (p : CounterPath) : UInt64 := (m.get p).total

/-- What each counter gained since the last flush, in report order. --/
def deltas (m : Metrics) : List (CounterPath × UInt64) := CounterPath.all.map fun p => (p, (m.get p).delta)

/-- Marks every counter as reported. --/
def flush (m : Metrics) : Metrics := CounterPath.all.foldl (fun m p => m.update p Counter.flush) m

/-- The groups of a report in order, each with its counters. --/
def groups : List (String × List CounterPath) :=
  [("unmap", [.unmapCount, .unmapFails, .unmappedBytes]),
    ("prefetch", [.prefetchCount, .prefetchFails, .pagesTouched]),
    ("phase", [.timerExpirations, .postCopyEntries]),
    ("logger", [.missedLogCount])]

/-- The report line of the counters, stamped with a time in milliseconds (no line feed). --/
def render (m : Metrics) (timestampMs : Nat) : String :=
  let field (p : CounterPath) := "\"" ++ p.name ++ "\":" ++ toString (m.get p).delta.toNat
  let group (g : String × List CounterPath) :=
    "\"" ++ g.1 ++ "\":\x7b" ++ ",".intercalate (g.2.map field) ++ "\x7d"
  "\x7b\"utc_timestamp_ms\":" ++ toString timestampMs ++ "," ++ ",".intercalate (groups.map group) ++
    "\x7d"

/-- Reports the counters and flushes them. --/
def report (m : Metrics) (timestampMs : Nat) : String × Metrics := (m.render timestampMs, m.flush)

end Metrics

/-- Why metrics could not be set up or written. --/
inductive MetricsError where
  | alreadyInitialized
  | write (e : OsError)
deriving DecidableEq

/-- The wording of each metrics fault. --/
def MetricsError.message : MetricsError → String
  | .alreadyInitialized => "Reinitialization of metrics not allowed."
  | .write e => "Failed to write metrics: " ++ e.message

/-- Metrics with a destination that is set once; every write appends one report line. --/
structure MetricsLog where
  metrics : Metrics := {}
  /-- The lines written so far, once a destination is set. --/
  lines : Option (Array String) := none

namespace MetricsLog

/-- Sets the destination; only the first time succeeds. --/
def init (l : MetricsLog) : Except MetricsError MetricsLog :=
  match l.lines with
  | some _ => .error .alreadyInitialized
  | none => .ok { l with lines := some #[] }

/-- Appends a report line when there is a destination, and says whether it did. --/
def write (l : MetricsLog) (timestampMs : Nat) : Bool × MetricsLog :=
  match l.lines with
  | none => (false, l)
  | some ls =>
    let (line, m) := l.metrics.report timestampMs
    (true, { metrics := m, lines := some (ls.push line) })

end MetricsLog

end LiveMigration
