import LiveMigration.Tool.Run
import LiveMigration.Clock
import Std.Time.Zoned

/-! The control tool as a program. It looks up the files its command line and its home directory
    name, runs the tool on them, writes back the files the run changed, prints what the run printed,
    and exits with the run's status. -/

namespace LiveMigration
namespace Program

open Std.Time

/-- A date and time broken down as the C library gives it. --/
def localTimeOf (t : PlainDateTime) : LocalTime where
  sec := t.time.second.toNat
  min := t.time.minute.toNat
  hour := t.time.hour.toNat
  mday := t.date.day.toNat
  mon := (t.date.month.toNat : Int) - 1
  year := t.date.year.toInt - 1900
  nsec := t.time.nanosecond.toNat

/-- What a path names on this machine. --/
def probe (path : String) : IO (Option Entry) := do
  if path = "/dev/full" then return some .full
  if path = "/dev/null" then return some .sink
  if path = "/dev/stdout" then return some (.stream .stdout)
  if path = "/dev/stderr" then return some (.stream .stderr)
  try
    let bytes ← IO.FS.readBinFile path
    return some (.file bytes.data.toList)
  catch e =>
    match e with
    | .noFileOrDirectory .. => return none
    | .inappropriateType .. => return some .directory
    | _ => return some (.file [])

/-- The places a run may read or write, with the directories that lead to them. --/
def placesOf (cwd : Place) (words : List String) (home : Option String) : List Place :=
  let (_, as) := Tool.arguments.parse (Tool.name :: words)
  let named := ["log-path", "metrics-path", "ports-file"].filterMap as.text?
  let homeFile := home.map fun h => Ports.joinPath h Ports.fileName
  (Host.placesAlong [] (Place.render cwd) ++
    (named ++ homeFile.toList).flatMap (Host.placesAlong cwd)).eraseDups

/-- Runs the tool on this machine. --/
def run (words : List String) : IO UInt32 := do
  let home ← IO.getEnv "HOME"
  let cwd := (Host.placesAlong [] (← IO.currentDir).toString).getLast?.getD []
  let places := (placesOf cwd words home).filter (· ≠ [])
  let entries ← places.filterMapM fun p => do return (← probe (Place.render p)).map fun e => (p, e)
  let now ← PlainDateTime.now
  let clock ← Timestamp.now
  let host : Host := { home, cwd, entries, time := (localTimeOf now).render, origin := id,
                       clockMs := clock.toMillisecondsSinceUnixEpoch.toInt.toNat }
  let o := Tool.exec host words
  for (p, e) in o.world.host.entries do
    if host.entry? p ≠ some e then
      if let .file bytes := e then IO.FS.writeBinFile (Place.render p) (ByteArray.mk bytes.toArray)
  IO.print o.world.host.stdout
  IO.eprint o.world.host.stderr
  return o.exitCode.toUInt32

end Program
end LiveMigration

/-- The program's entry point. --/
def main (args : List String) : IO UInt32 := LiveMigration.Program.run args
