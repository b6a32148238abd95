import LiveMigration.Config.Fields

/-! A client's configuration from its options: the domain, the client's own node `vmid`, and the
    master endpoint `master`, written `ip:rdma:tcp`. The client connects to the master's TCP sync
    port; the RDMA port is kept for the record. -/

namespace LiveMigration

open Text Log Config

/-- A validated client configuration. --/
structure ClientConfig where
  domain : DomainId
  localNode : NodeId
  masterIp : Net.Ipv4
  masterRdmaPort : UInt16
  masterTcpPort : UInt16
  pageSize : Nat

namespace ClientConfig

/-- The address the client connects to: the master's TCP sync port. --/
def masterSyncAddr (c : ClientConfig) : Net.SocketAddr := ⟨c.masterIp, c.masterTcpPort⟩

/-- `{ domain: D, node: N, master: ip:tcp (rdma R) }`. --/
def render (c : ClientConfig) : String :=
  "\x7b domain: " ++ c.domain.render ++ ", node: " ++ c.localNode.render ++ ", master: " ++
    c.masterSyncAddr.render ++ " (rdma " ++ toString c.masterRdmaPort.toNat ++ ") \x7d"

end ClientConfig

namespace Config

/-- A client's configuration from its options, with dirty pages of `pageSize` bytes. --/
def buildClient (pageSize : Nat) (o : Options) : Told ConfigError ClientConfig := do
  let domain ← Told.ofExcept (readDomain o)
  let vm ← Told.ofExcept (o.require vmKey)
  let localNode ← Told.ofExcept (readNodeId vmKey vm.toList)
  tell (debugRecord ("dsm_id = " ++ domain.render ++ ", local node = " ++ localNode.render))
  let master ← Told.ofExcept (o.require masterKey)
  match splitTerminator ':' master.toList with
  | [ipField, rdmaField, tcpField] =>
    let config ← Told.ofExcept (do
      let ip ← readIp ipField
      let rdma ← readPort rdmaField
      let tcp ← readPort tcpField
      pure ({ domain, localNode, masterIp := ip, masterRdmaPort := rdma, masterTcpPort := tcp,
              pageSize } : ClientConfig))
    tell (debugRecord ("Master endpoint: " ++ config.render))
    pure config
  | _ => throw (.malformedRecord masterKey master)

end Config

end LiveMigration
