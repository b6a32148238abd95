import LiveMigration.Node.Id
import LiveMigration.Net.Ipv4

/-! Nodes of a domain. A node has an endpoint (address, RDMA port and, for configured nodes, a TCP
    sync port) and may be the domain's master. Its text is
    `{ domain: D, node: N, endpoint: E, master: true }`, where the endpoint is `ip:rdma`, followed
    by ` (tcp T)` when there is a sync port. -/

namespace LiveMigration

open Net

/-- Where a node is reached. --/
structure Endpoint where
  ip : Ipv4
  rdmaPort : UInt16
  tcpPort : Option UInt16
deriving DecidableEq

namespace Endpoint

/-- The address of the RDMA connection manager. --/
def rdmaAddr (e : Endpoint) : SocketAddr := ⟨e.ip, e.rdmaPort⟩

/-- `ip:rdma`, then ` (tcp T)` when there is a sync port. --/
def render (e : Endpoint) : String :=
  match e.tcpPort with
  | some t => s!"{e.rdmaAddr.render} (tcp {t.toNat})"
  | none => e.rdmaAddr.render

end Endpoint

/-- A member of a domain. --/
structure Node where
  domain : DomainId
  id : NodeId
  endpoint : Endpoint
  isMaster : Bool
deriving DecidableEq

/-- `{ domain: D, node: N, endpoint: E, master: true|false }`. --/
def Node.render (n : Node) : String :=
  "\x7b domain: " ++ n.domain.render ++ ", node: " ++ n.id.render ++ ", endpoint: " ++
    n.endpoint.render ++ ", master: " ++ toString n.isMaster ++ " \x7d"

end LiveMigration
