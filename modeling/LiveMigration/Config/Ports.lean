import LiveMigration.Config.Fields
import LiveMigration.OsError

/-! Migration ports: the RDMA port of every node and the TCP port the destination listens on for
    the client handshake, 4444 and 4445 unless a port file says otherwise. A port file holds lines
    `KEY=value`; blank lines and lines starting with `#` are skipped, and a later line overrides an
    earlier one. Lines without `=`, unknown keys, and values that are no nonzero 16-bit number are
    ignored with a warning. A file that cannot be read gives the defaults. -/

namespace LiveMigration

open Text Log Config

/-- The ports of the live-migration bootstrap. --/
structure Ports where
  rdmaPort : UInt16 := 4444
  tcpSyncPort : UInt16 := 4445
deriving DecidableEq, Repr

namespace Ports

/-- The key of the RDMA port. --/
def rdmaKey : String := "RDMA_PORT"
/-- The key of the TCP sync port. --/
def tcpSyncKey : String := "TCP_SYNC_PORT"

/-- A nonzero 16-bit port value. --/
def readValue? (value : List Char) : Option UInt16 :=
  match readWord? 16 (trimChars value) with
  | some n => if n = 0 then none else some n.toUInt16
  | none => none

/-- Applies one trimmed line of a port file. --/
def applyLine (p : Ports) (line : List Char) : Narrated Ports := do
  if line.isEmpty || line.head? = some '#' then return p
  let text := String.ofList line
  match splitOnce '=' line with
  | none =>
    emit (warnRecord ("Ignoring malformed port file line \x60" ++ text ++ "\x60"))
    return p
  | some (k, v) =>
    let key := String.ofList (trimChars k)
    let current? : Option UInt16 :=
      if key = rdmaKey then some p.rdmaPort else if key = tcpSyncKey then some p.tcpSyncPort
      else none
    match current? with
    | none =>
      emit (warnRecord ("Ignoring unknown port file key \x60" ++ key ++ "\x60"))
      return p
    | some current =>
      match readValue? v with
      | some port =>
        return if key = rdmaKey then { p with rdmaPort := port } else { p with tcpSyncPort := port }
      | none =>
        emit (warnRecord ("Couldn't read " ++ key ++ ", using default value of " ++
          toString current.toNat))
        return p

/-- Reads a port file's text, line by line from the defaults. --/
def parse (text : String) : Narrated Ports :=
  ((lines text.toList).map trimChars).foldlM applyLine {}

/-- The ports from a file that was read, or the defaults when it could not be. --/
def ofFile (path : String) (content : Except OsError String) : Narrated Ports :=
  match content with
  | .ok text => parse text
  | .error e => do
    emit (debugRecord ("Could not read " ++ path ++ ": " ++ e.message ++
      ", using default migration ports"))
    return {}

/-- The name of the port file in the home directory. --/
def fileName : String := ".dsm_config"

/-- A path joined to a file name. --/
def joinPath (dir name : String) : String :=
  if dir.isEmpty then name else if dir.endsWith "/" then dir ++ name else dir ++ "/" ++ name

/-- When there is no home directory, the defaults, with a warning. --/
def withoutHome : Narrated Ports := do
  emit (warnRecord "HOME is not set, using default migration ports")
  return {}

end Ports

end LiveMigration
