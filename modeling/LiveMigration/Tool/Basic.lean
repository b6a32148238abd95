import LiveMigration.CommandLine.Parse
import LiveMigration.Config.Error
import LiveMigration.Metrics
import LiveMigration.Log.Record

/-! The control tool's command line and its faults. The tool checks an option string the way a
    master or a client node would and prints the tables the engine would be opened with. Every fault
    ends the run with an exit status: 153 for a command line that cannot be used, 152 for values
    that are no valid configuration, and 1 for files the logger or the metrics cannot use. -/

namespace LiveMigration
namespace Tool

open CommandLine Log

/-- The tool's name. --/
def name : String := "dsmctl"

/-- The tool's version. --/
def version : String := "0.1.0"

/-- The name and version, as the tool shows them. --/
def banner : String := name ++ " v" ++ version

/-- An argument that takes a value. --/
def valued (n help : String) : Arg := { name := n, takesValue := true, help := some help }

/-- An argument that is a flag. --/
def flagged (n help : String) : Arg := { name := n, help := some help }

/-- The tool's arguments. --/
def arguments : Args := Args.ofList [
  { valued "master" "Option string of a master node: dsmid=..,vminfo=..,mr=.." with
      conflictsWith := some "client" },
  valued "client" "Option string of a client node: dsmid=..,vmid=..,master=..",
  valued "page-size" "Alignment unit of region sizes, in bytes.",
  valued "ports-file" "Port file to read instead of $HOME/.dsm_config.",
  valued "metrics-path" "File the metrics are appended to before exiting.",
  valued "log-path" "Path to a fifo or a file used for configuring the logger on startup.",
  valued "level" "Set the logger level.",
  valued "module" "Set the logger module filter.",
  flagged "show-level" "Whether or not to output the level in the logs.",
  flagged "show-log-origin"
    "Whether or not to include the file path and line number of the log\x27s origin."]

/-- Why a run of the tool failed. --/
inductive ToolError where
  | parseArguments (e : ArgError)
  | missingRole
  | invalidLogLevel (text : String)
  | invalidPageSize (text : String)
  | config (e : ConfigError)
  | loggerUpdate (e : OsError)
  | metricsFile (e : OsError)
  | metrics (e : MetricsError)
deriving DecidableEq

namespace ToolError

/-- The wording of each fault. --/
def message : ToolError → String
  | .parseArguments e =>
    "Arguments parsing error: " ++ e.message ++ ". For more information try --help."
  | .missingRole => "One of --master or --client is required."
  | .invalidLogLevel text => "Invalid value for logger level: " ++ LevelFilter.readErrorMessage text
  | .invalidPageSize text => "Invalid page size \x60" ++ text ++ "\x60, expected a power of two."
  | .config e => "Invalid DSM configuration: " ++ e.message
  | .loggerUpdate e => "Failed to configure the logger: Failed to open target file: " ++ e.message
  | .metricsFile e => "Failed to open the metrics file: " ++ e.message
  | .metrics e => "Failed to write metrics: " ++ e.message

/-- The exit status of a run that failed this way. --/
def exitCode : ToolError → Nat
  | .parseArguments _ | .missingRole => 153
  | .invalidLogLevel _ | .invalidPageSize _ | .config _ => 152
  | .loggerUpdate _ | .metricsFile _ | .metrics _ => 1

theorem exitCode_ne_zero (e : ToolError) : e.exitCode ≠ 0 := by
  cases e <;> simp [exitCode]

end ToolError

/-- A record the tool itself writes. --/
def record (level : Level) (message : String) : Record := ⟨level, name, "main", message⟩

/-- Whether a number is a power of two. --/
def isPowerOfTwo (n : Nat) : Bool := n ≠ 0 && n &&& (n - 1) = 0

end Tool
end LiveMigration
