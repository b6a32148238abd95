import LiveMigration.Session
import LiveMigration.Config.Master
import LiveMigration.Config.Client
import LiveMigration.Config.Ports

/-! Opening sessions. The migration destination is the master of domain 1, with itself as node 1
    and the source as node 2, and one region covering guest RAM that node 2 owns and that is fetched
    on access. The migration source is node 2: it finds the destination's address in the migration
    URI, arms the pre-copy timer, and opens as client of the destination's sync port; if the engine
    then fails, the timer is cancelled before the failure is reported. A configured master or client
    opens with its configuration. Every way checks the RAM block first, and an engine descriptor
    that is not positive is refused. -/

namespace LiveMigration

open Text

/-- Why a session could not be opened. --/
inductive BootstrapError where
  | ramNotFound
  | invalidUri (uri : String)
  | invalidHandle (fd : Int)
  | engine (e : EngineError)
  | timer (e : PhaseError)
  | region (e : RegionError)
  | node (e : NodeError)
  | session (e : SessionError)
deriving DecidableEq

/-- The wording of each opening fault. --/
def BootstrapError.message : BootstrapError → String
  | .ramNotFound => "Guest RAM has no block at guest address 0"
  | .invalidUri uri => "Migration URI \x60" ++ uri ++ "\x60 does not name an IPv4 host"
  | .invalidHandle fd => "The DSM engine returned invalid handle " ++ signedDecimal fd
  | .engine e => e.message
  | .timer e => e.message
  | .region e => e.message
  | .node e => e.message
  | .session e => e.message

/-- The address named by a migration URI: the second of its non-empty `:`-separated tokens. --/
def ipFromUri (uri : String) : Option Net.Ipv4 :=
  match ((Text.split ':' uri.toList).filter (!·.isEmpty)).drop 1 with
  | token :: _ => Net.Ipv4.read? (String.ofList token)
  | [] => none

/-- The RAM block, or the fault that there is none. --/
def resolveRam (ram : Option RamSpan) : Except BootstrapError RamSpan :=
  match ram with
  | some span => .ok span
  | none => .error .ramNotFound

/-- Where opening got to: the engine and the controller after the attempt, and the session or the
    fault. --/
structure Opening where
  engine : Engine
  control : Controller
  result : Except BootstrapError Session

/-- Opens as master of a domain whose regions are already bound. --/
def openAsMaster (engine : Engine) (control : Controller) (domain : DomainId) (nodes : Registry)
    (regions : RegionTable) (span : RamSpan) (pageSize : Nat) : Opening :=
  match rangeOwners .master domain NodeId.master nodes with
  | .error e => ⟨engine, control, .error (.session e)⟩
  | .ok owners =>
    let (r, engine) := engine.openAsMaster nodes regions
    match r with
    | .error e => ⟨engine, control, .error (.engine e)⟩
    | .ok fd =>
      match handleOf? fd with
      | none => ⟨engine, control, .error (.invalidHandle fd)⟩
      | some handle =>
        let s : Session :=
          { handle, role := .master, domain, localNode := NodeId.master, nodes, regions, span,
            unmapOwners := owners, timer := none, pageSize }
        ⟨engine, control, .ok s⟩

/-- The two nodes of a migration: the destination as master and the source. --/
def migrationNodes (ports : Ports) (destIp sourceIp : Net.Ipv4) : Except NodeError Registry := do
  let d := DomainId.liveMigration
  let r ← Registry.empty.insert ⟨d, NodeId.master, ⟨destIp, ports.rdmaPort, none⟩, true⟩
  r.insert ⟨d, NodeId.migrationClient, ⟨sourceIp, ports.rdmaPort, none⟩, false⟩

/-- The region of a migration: all of guest RAM, owned by the source, fetched on access. --/
def migrationRegions (span : RamSpan) : Except RegionError RegionTable := do
  let owners ← match OwnerList.empty.push NodeId.migrationClient with
    | .ok o => pure o
    | .error _ => throw (.tooManyOwners 1)
  let region ← Region.make DomainId.liveMigration 1 span.size guestPageSize owners
    RegionFlags.copyOnAccessOnly
  let table ← RegionTable.empty.insert region
  table.bind span

/-- Opens the migration destination. --/
def migrateDestInit (engine : Engine) (control : Controller) (ram : Option RamSpan) (ports : Ports)
    (destIp sourceIp : Net.Ipv4) : Opening :=
  let prepared : Except BootstrapError (RamSpan × Registry × RegionTable) := do
    let span ← resolveRam ram
    let nodes ← (migrationNodes ports destIp sourceIp).mapError .node
    let regions ← (migrationRegions span).mapError .region
    pure (span, nodes, regions)
  match prepared with
  | .error e => ⟨engine, control, .error e⟩
  | .ok (span, nodes, regions) =>
    openAsMaster engine control DomainId.liveMigration nodes regions span guestPageSize

/-- Opens the migration source, arming the pre-copy timer for `precopy` nanoseconds. The session's phase is a
    new one; the scheduler and the counters are the caller's. --/
def migrateSrcInit (engine : Engine) (control : Controller) (ram : Option RamSpan) (ports : Ports)
    (uri : String) (precopy : Nat) : Opening :=
  let d := DomainId.liveMigration
  let self := NodeId.migrationClient
  let control := { control with phase := {} }
  match ipFromUri uri with
  | none => ⟨engine, control, .error (.invalidUri uri)⟩
  | some destIp =>
    match resolveRam ram with
    | .error e => ⟨engine, control, .error e⟩
    | .ok span =>
      match rangeOwners .client d self Registry.empty with
      | .error e => ⟨engine, control, .error (.session e)⟩
      | .ok owners =>
        match control.startTimer precopy with
        | (.error e, control) => ⟨engine, control, .error (.timer e)⟩
        | (.ok timer, control) =>
          let (r, engine) := engine.openAsClient span self ⟨destIp, ports.tcpSyncPort⟩
          let opened : Except BootstrapError Nat := match r with
            | .error e => .error (.engine e)
            | .ok fd => match handleOf? fd with
              | some h => .ok h
              | none => .error (.invalidHandle fd)
          match opened with
          | .error e => ⟨engine, control.cancelTimer timer, .error e⟩
          | .ok handle =>
            let s : Session :=
              { handle, role := .client, domain := d, localNode := self, nodes := Registry.empty,
                regions := RegionTable.empty, span, unmapOwners := owners, timer := some timer,
                pageSize := guestPageSize }
            ⟨engine, control, .ok s⟩

/-- Opens a configured master: its regions are bound to the RAM block first. --/
def openMaster (engine : Engine) (control : Controller) (ram : Option RamSpan) (config : MasterConfig) :
    Opening :=
  match resolveRam ram with
  | .error e => ⟨engine, control, .error e⟩
  | .ok span =>
    match config.regions.bind span with
    | .error e => ⟨engine, control, .error (.region e)⟩
    | .ok regions => openAsMaster engine control config.domain config.nodes regions span config.pageSize

/-- Opens a configured client. --/
def openClient (engine : Engine) (control : Controller) (ram : Option RamSpan) (config : ClientConfig) :
    Opening :=
  match resolveRam ram with
  | .error e => ⟨engine, control, .error e⟩
  | .ok span =>
    match rangeOwners .client config.domain config.localNode Registry.empty with
    | .error e => ⟨engine, control, .error (.session e)⟩
    | .ok owners =>
      let (r, engine) := engine.openAsClient span config.localNode config.masterSyncAddr
      match r with
      | .error e => ⟨engine, control, .error (.engine e)⟩
      | .ok fd =>
        match handleOf? fd with
        | none => ⟨engine, control, .error (.invalidHandle fd)⟩
        | some handle =>
          let s : Session :=
            { handle, role := .client, domain := config.domain, localNode := config.localNode,
              nodes := Registry.empty, regions := RegionTable.empty, span, unmapOwners := owners,
              timer := none, pageSize := config.pageSize }
          ⟨engine, control, .ok s⟩

end LiveMigration
