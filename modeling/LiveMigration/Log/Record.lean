/-! Log records and levels. A record has a level, the module path of the code that wrote it, the
    place it was written from and its message. A level filter lets through the records at its level
    and the more severe ones; `Off` lets through none. Filters are read from their names in any
    ASCII letter case, and `warning` is another name of `warn`. Code that logs while it computes
    runs in `Narrated`, which keeps the records in order, also those written before a failure. -/

namespace LiveMigration
namespace Log

/-- How severe a record is, from the most severe. --/
inductive Level where
  | error | warn | info | debug | trace
deriving DecidableEq, Repr

/-- The rank of a level: 1 for errors up to 5 for traces. --/
def Level.rank : Level → Nat
  | .error => 1 | .warn => 2 | .info => 3 | .debug => 4 | .trace => 5

/-- The name of a level in a log line. --/
def Level.upper : Level → String
  | .error => "ERROR" | .warn => "WARN" | .info => "INFO" | .debug => "DEBUG" | .trace => "TRACE"

/-- Which records pass: none, or those of a level and the more severe ones. --/
inductive LevelFilter where
  | off | error | warn | info | debug | trace
deriving DecidableEq, Repr

namespace LevelFilter

/-- The rank of a filter: 0 lets nothing through. --/
def rank : LevelFilter → Nat
  | .off => 0 | .error => 1 | .warn => 2 | .info => 3 | .debug => 4 | .trace => 5

/-- Whether a record of level `l` passes. --/
def admits (f : LevelFilter) (l : Level) : Bool := l.rank ≤ f.rank

/-- The name of a filter, capitalised. --/
def name : LevelFilter → String
  | .off => "Off" | .error => "Error" | .warn => "Warn" | .info => "Info" | .debug => "Debug"
  | .trace => "Trace"

/-- The name of a filter in capitals. --/
def upper : LevelFilter → String
  | .off => "OFF" | .error => "ERROR" | .warn => "WARN" | .info => "INFO" | .debug => "DEBUG"
  | .trace => "TRACE"

/-- Reads a filter from its name in any ASCII letter case; `warning` means `warn`. --/
def read? (s : String) : Option LevelFilter :=
  match String.ofList (s.toList.map Char.toLower) with
  | "off" => some .off
  | "trace" => some .trace
  | "debug" => some .debug
  | "info" => some .info
  | "warn" => some .warn
  | "warning" => some .warn
  | "error" => some .error
  | _ => none

/-- The wording of a name that is no filter. --/
def readErrorMessage (s : String) : String := "Failed to parse string to level filter: " ++ s

end LevelFilter

/-- One log record. --/
structure Record where
  level : Level
  /-- The module path of the code that wrote the record. --/
  module : String
  /-- The place the record was written from. --/
  site : String
  message : String
deriving DecidableEq, Repr

/-- A computation that writes log records. --/
abbrev Narrated (α : Type) := StateM (List Record) α

/-- Writes one record after the earlier ones. --/
def emit (r : Record) : Narrated Unit := modify fun rs => rs ++ [r]

/-- A computation that writes log records and may fail; records written before a failure stay. --/
abbrev Told (ε α : Type) := ExceptT ε Narrated α

/-- Writes one record in a computation that may fail. --/
def tell {ε : Type} (r : Record) : Told ε Unit := ExceptT.lift (emit r)

/-- A computation that fails or succeeds without writing records. --/
def Told.ofExcept {ε α : Type} (x : Except ε α) : Told ε α := ExceptT.mk (pure x)

/-- Runs a computation that may fail, giving its records and its outcome. --/
def Told.run {ε α : Type} (x : Told ε α) : List Record × Except ε α :=
  let (result, records) := (ExceptT.run x).run []
  (records, result)

/-- Runs a computation that cannot fail, giving its records and its value. --/
def Narrated.run' {α : Type} (x : Narrated α) : List Record × α :=
  let (value, records) := StateT.run x []
  (records, value)

end Log
end LiveMigration
