import LiveMigration.Tool.Basic
import LiveMigration.Log.Logger
import LiveMigration.Host

/-! What a run of the tool has done so far: the host with its files and standard streams, the
    logger, the counters, and the metrics file once it is open. Logging writes a line where the
    logger says; a line the target file refuses is counted as missed. -/

namespace LiveMigration
namespace Tool

open Log

/-- The state of a run. --/
structure World where
  host : Host
  logger : Logger := {}
  /-- Where the next line goes in the log file. --/
  logOffset : Nat := 0
  metrics : Metrics := {}
  /-- The metrics file, once it is open. --/
  metricsFile : Option Place := none

namespace World

/-- Writes a record through the logger. --/
def log (w : World) (r : Record) : World :=
  if !w.logger.admits r then w
  else
    let line := w.logger.line w.host.time (w.host.origin r.site) r
    match w.logger.target with
    | none => { w with host := w.host.emit .stdout line }
    | some p =>
      match w.host.writeAt p w.logOffset line with
      | .ok h => { w with host := h, logOffset := w.logOffset + line.utf8ByteSize }
      | .error _ => { w with metrics := w.metrics.inc .missedLogCount }

/-- Writes records through the logger, in order. --/
def logAll (w : World) (rs : List Record) : World := rs.foldl log w

/-- Appends text to standard output. --/
def print (w : World) (text : String) : World := { w with host := w.host.emit .stdout text }

theorem log_of_not_admits {w : World} {r : Record} (h : w.logger.admits r = false) : w.log r = w := by
  simp [log, h]

end World

/-- A step of a run: it changes the world and may fail. --/
abbrev Step (α : Type) := ExceptT ToolError (StateM World) α

end Tool
end LiveMigration
