import LiveMigration.Log.Record

/-! The logger: which records it writes and how a line looks. A record is written when its level
    passes the level filter and, if a module filter is set, its module path starts with the filter.
    A line is `<time> [anonymous-instance:main<level><origin>] <message>` and a line feed, where the
    level part is `:LEVEL` when levels are shown and the origin part is `:<origin>` when origins are
    shown. Lines go to standard output unless a target file is set. -/

namespace LiveMigration
namespace Log

/-- The logger's state. --/
structure Logger where
  maxLevel : LevelFilter := .info
  /-- The file lines go to, by the names that lead to it from the root; standard output when
      unset. --/
  target : Option (List String) := none
  module : Option String := none
  showLevel : Bool := false
  showOrigin : Bool := false
deriving DecidableEq, Repr

namespace Logger

/-- The name of the instance every line carries. --/
def instanceName : String := "anonymous-instance"

/-- The name of the thread the tool logs from. --/
def threadName : String := "main"

/-- Whether a record is written. --/
def admits (l : Logger) (r : Record) : Bool :=
  l.maxLevel.admits r.level &&
    match l.module with
    | some filter => r.module.startsWith filter
    | none => true

/-- The line of a record, given the time text and the text of the record's origin. --/
def line (l : Logger) (time origin : String) (r : Record) : String :=
  time ++ " [" ++ instanceName ++ ":" ++ threadName ++
    (if l.showLevel then ":" ++ r.level.upper else "") ++
    (if l.showOrigin then ":" ++ origin else "") ++ "] " ++ r.message ++ "\n"

end Logger

end Log
end LiveMigration
