import LiveMigration.Config.Fields
import LiveMigration.Region.Table

/-! A master's configuration from its options. The domain comes first, then the node list
    `vminfo` (records `node:ip:rdma:tcp` separated by `#`, node 1 being the master and the local
    node), then the region list `mr` (records `region:size:owner...`). Each record is read field by
    field, left to right, and the first fault ends the reading; the checks of a region come in the
    order id, size, size against the page size, then each owner (room left, number, identifier,
    known node, not yet listed). -/

namespace LiveMigration

open Text Log Config

/-- A validated master configuration. --/
structure MasterConfig where
  domain : DomainId
  nodes : Registry
  regions : RegionTable
  pageSize : Nat

namespace MasterConfig

/-- The master is always node 1. --/
def localNode (_ : MasterConfig) : NodeId := NodeId.master

/-- `nodes:`, a line per node, `regions:`, a line per region; every line ends in a line feed. --/
def render (c : MasterConfig) : String :=
  "nodes:\n" ++ String.join (c.nodes.nodes.map fun n => "  " ++ n.render ++ "\n") ++
    "regions:\n" ++ String.join (c.regions.regions.map fun r => "  " ++ r.render ++ "\n")

end MasterConfig

namespace Config

/-! ### Nodes -/

/-- A node record `node:ip:rdma:tcp` of the domain. --/
def readNode (domain : DomainId) (record : List Char) : Except ConfigError Node :=
  match splitTerminator ':' record with
  | [idField, ipField, rdmaField, tcpField] => do
    let id ← readNodeId nodeListKey idField
    let ip ← readIp ipField
    let rdma ← readPort rdmaField
    let tcp ← readPort tcpField
    pure { domain, id, endpoint := ⟨ip, rdma, some tcp⟩, isMaster := id = NodeId.master }
  | _ => .error (.malformedRecord nodeListKey (String.ofList record))

/-- Reads the node records in order into a registry. --/
def readNodeList (domain : DomainId) (list : String) : Told ConfigError Registry := do
  let nodes ← (splitTerminator '#' list.toList).foldlM (fun (r : Registry) record => do
    let node ← Told.ofExcept (readNode domain record)
    tell (debugRecord ("Adding node " ++ node.render))
    Told.ofExcept ((r.insert node).mapError .node)) Registry.empty
  if nodes.nodes.isEmpty then throw .emptyNodeList
  pure nodes

/-! ### Regions -/

/-- Adds the owners of a region in order, checking each against the node list. --/
def readOwners (domain : DomainId) (nodes : Registry) (region : Nat) :
    OwnerList → List (List Char) → Except ConfigError OwnerList
  | owners, [] => .ok owners
  | owners, field :: rest => do
    if owners.isFull then throw (.region (.tooManyOwners region))
    let owner ← readNodeId regionListKey field
    if !nodes.contains domain owner then throw (.unknownOwner region owner)
    if owners.contains owner then throw (.duplicateOwner region owner)
    match owners.push owner with
    | .ok owners' => readOwners domain nodes region owners' rest
    | .error _ => throw (.region (.tooManyOwners region))

/-- A region record `region:size:owner...` of the domain. --/
def readRegion (pageSize : Nat) (domain : DomainId) (nodes : Registry) (record : List Char) :
    Except ConfigError Region :=
  match splitTerminator ':' record with
  | idField :: sizeField :: ownerFields => do
    let id ← readNumber regionListKey idField
    if id ≥ Nat.pow 2 32 then throw (.invalidNumber regionListKey (String.ofList idField))
    let size ← readNumber regionListKey sizeField
    (checkRegionSize id size pageSize).mapError .region
    let owners ← readOwners domain nodes id OwnerList.empty ownerFields
    (Region.make domain id size pageSize owners RegionFlags.autoUnmapOnly).mapError .region
  | _ => .error (.malformedRecord regionListKey (String.ofList record))

/-- Reads the region records in order into a table. --/
def readRegionList (pageSize : Nat) (domain : DomainId) (nodes : Registry) (list : String) :
    Told ConfigError RegionTable :=
  (splitTerminator '#' list.toList).foldlM (fun (t : RegionTable) record => do
    let region ← Told.ofExcept (readRegion pageSize domain nodes record)
    tell (debugRecord ("Adding region " ++ region.render))
    Told.ofExcept ((t.insert region).mapError .region)) RegionTable.empty

/-! ### The configuration -/

/-- A master's configuration from its options, with regions sized in pages of `pageSize`. --/
def buildMaster (pageSize : Nat) (o : Options) : Told ConfigError MasterConfig := do
  let domain ← Told.ofExcept (readDomain o)
  tell (debugRecord ("dsm_id = " ++ domain.render ++ ", local node = 1"))
  let list ← Told.ofExcept (o.require nodeListKey)
  let nodes ← readNodeList domain list
  if !nodes.contains domain NodeId.master then throw (.missingLocalNode NodeId.master)
  let regionList ← Told.ofExcept (o.require regionListKey)
  let regions ← readRegionList pageSize domain nodes regionList
  tell (infoRecord ("Parsed master configuration with " ++ toString nodes.size ++ " nodes and " ++
    toString regions.size ++ " regions"))
  pure { domain, nodes, regions, pageSize }

end Config

end LiveMigration
