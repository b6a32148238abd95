import LiveMigration.Tool.World
import LiveMigration.CommandLine.Help
import LiveMigration.Config.Master
import LiveMigration.Config.Client
import LiveMigration.Config.Ports
import LiveMigration.Ram.Span

/-! A run of the tool. It reads its command line; `--help` prints the banner and the help, and
    `--version` the banner. Otherwise it sets the logger's level, its target file, what lines show
    and the module filter, in that order, opens the metrics file, reads the page size (a power of
    two, 4096 by default), builds the configuration of the master or the client, prints it, prints
    the migration ports from the port file, and appends the counters to the metrics file. A fault
    is logged at error level and written to standard error, and sets the exit status. -/

namespace LiveMigration
namespace Tool

open CommandLine Log Config

/-- Writes a record through the logger. --/
def say (r : Record) : Step Unit := modify (·.log r)

/-- Prints text on standard output. --/
def print (text : String) : Step Unit := modify (·.print text)

/-- Runs a computation that logs and cannot fail, logging its records. --/
def narrate {α : Type} (x : Narrated α) : Step α := do
  let (records, a) := x.run'
  modify (·.logAll records)
  pure a

/-- Runs a configuration step, logging its records. --/
def configure {α : Type} (x : Told ConfigError α) : Step α := do
  let (records, result) := x.run
  modify (·.logAll records)
  match result with
  | .ok a => pure a
  | .error e => throw (.config e)

/-- The level the command line asks for. --/
def levelOf (as : Args) : Except ToolError (Option LevelFilter) :=
  match as.text? "level" with
  | none => .ok none
  | some t =>
    match LevelFilter.read? t with
    | some l => .ok (some l)
    | none => .error (.invalidLogLevel t)

/-- Sets up the logger: the level first, then the target file, then what lines show and the module
    filter. A target file that cannot be opened stops the setup after the level was set. --/
def setUpLogger (as : Args) (level : Option LevelFilter) : Step Unit := do
  modify fun w => { w with logger.maxLevel := level.getD .info }
  if let some path := as.text? "log-path" then
    let w ← get
    match w.host.openExisting path with
    | .error e => throw (.loggerUpdate e)
    | .ok p => set { w with logger.target := some p, logOffset := 0 }
  modify fun w => { w with logger.showLevel := as.flag "show-level",
                           logger.showOrigin := as.flag "show-log-origin" }
  if let some m := as.text? "module" then modify fun w => { w with logger.module := some m }

/-- Opens the metrics file to append to, creating it. --/
def openMetrics (path : String) : Step Unit := do
  let w ← get
  match w.host.openAppend path with
  | .error e => throw (.metricsFile e)
  | .ok (p, h) => set { w with host := h, metricsFile := some p }

/-- The page size the command line asks for: a power of two that fits in 64 bits. --/
def pageSizeOf (as : Args) : Except ToolError Nat :=
  match as.text? "page-size" with
  | none => .ok guestPageSize
  | some t =>
    match Text.readU64? t with
    | some n => if isPowerOfTwo n then .ok n else .error (.invalidPageSize t)
    | none => .error (.invalidPageSize t)

/-- A master's tables from its option string. --/
def describeMaster (pageSize : Nat) (text : String) : Told ConfigError String := do
  let o ← Told.ofExcept (Options.parse text)
  let c ← buildMaster pageSize o
  pure ("master of domain " ++ c.domain.render ++ " (node " ++ c.localNode.render ++ ")\n" ++
    c.render)

/-- A client's line from its option string. --/
def describeClient (pageSize : Nat) (text : String) : Told ConfigError String := do
  let o ← Told.ofExcept (Options.parse text)
  let c ← buildClient pageSize o
  pure ("client " ++ c.render ++ "\n")

/-- The migration ports: from the given port file, else from the one in the home directory. --/
def portsOf (as : Args) (h : Host) : Narrated Ports :=
  match as.text? "ports-file" with
  | some path => Ports.ofFile path (h.read path)
  | none =>
    match h.home with
    | none => Ports.withoutHome
    | some home =>
      let path := Ports.joinPath home Ports.fileName
      Ports.ofFile path (h.read path)

/-- Appends the counters to the metrics file, if it is open. --/
def writeMetrics : Step Unit := do
  let w ← get
  match w.metricsFile with
  | none => pure ()
  | some p =>
    let (line, m) := w.metrics.report w.host.clockMs
    let w := { w with metrics := m }
    match w.host.append p (line ++ "\n") with
    | .ok h => set { w with host := h }
    | .error e =>
      set w
      throw (.metrics (.write e))

/-- Runs a check that may fail and writes nothing. --/
def liftExcept {α : Type} (x : Except ToolError α) : Step α :=
  match x with
  | .ok a => pure a
  | .error e => throw e

/-- Opens the metrics file, if the command line names one. --/
def openMetricsIfNamed (as : Args) : Step Unit :=
  match as.text? "metrics-path" with
  | some path => openMetrics path
  | none => pure ()

/-- The description of the configuration the command line asks for: the page size, then the
    tables of the master or the client. --/
def describe (as : Args) : Step String := do
  let pageSize ← liftExcept (pageSizeOf as)
  match as.text? "master", as.text? "client" with
  | some o, _ => configure (describeMaster pageSize o)
  | none, some o => configure (describeClient pageSize o)
  | none, none => throw .missingRole

/-- The line that gives the migration ports. --/
def portsLine (ports : Ports) : String :=
  "ports: rdma " ++ toString ports.rdmaPort.toNat ++ ", tcp sync " ++ toString ports.tcpSyncPort.toNat ++ "\n"

/-- Prints the description and the migration ports, then appends the counters to the metrics
    file. --/
def report (as : Args) (tables : String) : Step Unit := do
  print tables
  let ports ← narrate (portsOf as (← get).host)
  print (portsLine ports)
  writeMetrics

/-- The work of a run after the command line was read. --/
def work (as : Args) : Step Unit := do
  let level ← liftExcept (levelOf as)
  setUpLogger as level
  say (record .info ("Running " ++ banner))
  openMetricsIfNamed as
  let tables ← describe as
  report as tables

/-- A run on the words after the program's name. --/
def program (words : List String) : Step Unit := do
  let (result, as) := arguments.parse (name :: words)
  match result with
  | .error e => throw (.parseArguments e)
  | .ok () =>
    if as.flag "help" then print (banner ++ "\n\n" ++ as.help ++ "\n")
    else if as.flag "version" then print (banner ++ "\n")
    else work as

/-- How a run ended: its exit status and the world it left. --/
structure Outcome where
  exitCode : Nat
  world : World

/-- Runs the tool on a host with the words after the program's name. --/
def exec (host : Host) (words : List String) : Outcome :=
  let (result, w) := (program words).run.run { host }
  match result with
  | .ok () => ⟨0, w⟩
  | .error e =>
    let w := w.log (record .error e.message)
    ⟨e.exitCode, { w with host := w.host.emit .stderr ("Error: " ++ e.message ++ "\n") }⟩

end Tool
end LiveMigration
