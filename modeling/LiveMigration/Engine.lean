import LiveMigration.Node.Registry
import LiveMigration.Region.Table
import LiveMigration.OsError

/-! The DSM engine as the sessions see it. A session opens the engine as master (with its nodes and
    regions) or as client (with its RAM block, its node and its master's address), and then asks it
    to unmap byte ranges for a list of owners. The engine here is a scripted one: it records every
    request it is given, opens with a fixed descriptor or refuses the connection when told to, and
    fails an unmap with an I/O error once the number of unmaps it has carried out reaches a set
    count. A failed unmap is not recorded, so every later unmap fails too. A descriptor is a valid
    handle when it is positive. -/

namespace LiveMigration

open Text

/-- Why the engine failed a request. --/
inductive EngineError where
  | openMaster (e : OsError)
  | openClient (e : OsError)
  | unmap (addr len : Nat) (e : OsError)
deriving DecidableEq

/-- The wording of each engine fault. --/
def EngineError.message : EngineError → String
  | .openMaster e => "Failed to open the engine as master: " ++ e.message
  | .openClient e => "Failed to open the engine as client: " ++ e.message
  | .unmap addr len e => "Failed to unmap " ++ hex len ++ " bytes at " ++ hex addr ++ ": " ++ e.message

/-- A request to drop a byte range from the local node, naming the nodes that own it. --/
structure UnmapRequest where
  domain : DomainId
  addr : Nat
  len : Nat
  owners : OwnerList
deriving DecidableEq

/-- The handle of an opened engine: the descriptor, when it is positive. --/
def handleOf? (fd : Int) : Option Nat := if fd > 0 then some fd.toNat else none

/-- A scripted engine and everything it was asked. --/
structure Engine where
  /-- The descriptor an open returns. --/
  fd : Int := 7
  /-- Every open is refused. --/
  failOpen : Bool := false
  /-- Unmaps fail once this many have been carried out. --/
  failUnmapAt : Option Nat := none
  masterCalls : List (Registry × RegionTable) := []
  clientCalls : List (RamSpan × NodeId × Net.SocketAddr) := []
  unmaps : Array UnmapRequest := #[]

namespace Engine

/-- Opens as master of a domain with these nodes and regions. --/
def openAsMaster (e : Engine) (nodes : Registry) (regions : RegionTable) :
    Except EngineError Int × Engine :=
  let e := { e with masterCalls := e.masterCalls ++ [(nodes, regions)] }
  (if e.failOpen then .error (.openMaster .connectionRefused) else .ok e.fd, e)

/-- Opens as client: the RAM block, the local node, and the master's sync address. --/
def openAsClient (e : Engine) (span : RamSpan) (self : NodeId) (master : Net.SocketAddr) :
    Except EngineError Int × Engine :=
  let e := { e with clientCalls := e.clientCalls ++ [(span, self, master)] }
  (if e.failOpen then .error (.openClient .connectionRefused) else .ok e.fd, e)

/-- Unmaps a range, or fails when the script says so. --/
def unmapRange (e : Engine) (req : UnmapRequest) : Except EngineError Unit × Engine :=
  if e.failUnmapAt = some e.unmaps.size then (.error (.unmap req.addr req.len .ioFailure), e)
  else (.ok (), { e with unmaps := e.unmaps.push req })

theorem unmapRange_unmaps {e : Engine} {req : UnmapRequest} :
    (e.unmapRange req).2.unmaps =
      if e.failUnmapAt = some e.unmaps.size then e.unmaps else e.unmaps.push req := by
  unfold unmapRange
  split <;> rfl

end Engine

end LiveMigration
