import LiveMigration.Node.Basic

/-! The node registry: the nodes of all domains, in the order they were added. A node is looked up
    by its domain and identifier, and a domain's master is its first master node. Adding a node
    fails when its domain already holds that identifier, and a master fails when its domain already
    has one; a failed addition leaves the registry as it was. -/

namespace LiveMigration

/-- Nodes in the order they were added. --/
structure Registry where
  nodes : List Node := []
deriving DecidableEq

namespace Registry

/-- The empty registry. --/
def empty : Registry := {}

/-- The node registered under this domain and identifier. --/
def find? (r : Registry) (d : DomainId) (n : NodeId) : Option Node :=
  r.nodes.find? fun x => x.domain = d && x.id = n

/-- Whether a node is registered under this domain and identifier. --/
def contains (r : Registry) (d : DomainId) (n : NodeId) : Bool := (r.find? d n).isSome

/-- The first master node of a domain. --/
def master? (r : Registry) (d : DomainId) : Option Node :=
  r.nodes.find? fun x => x.domain = d && x.isMaster

/-- How many nodes are registered. --/
def size (r : Registry) : Nat := r.nodes.length

/-- Adds a node at the end, unless its place is taken or its domain already has a master. --/
def insert (r : Registry) (node : Node) : Except NodeError Registry :=
  if r.contains node.domain node.id then .error (.duplicateNode node.id node.domain)
  else if node.isMaster then
    match r.master? node.domain with
    | some m => .error (.duplicateMaster node.domain m.id)
    | none => .ok ⟨r.nodes ++ [node]⟩
  else .ok ⟨r.nodes ++ [node]⟩

/-- The identifiers of a domain's nodes other than `self`, in registry order. --/
def peers (r : Registry) (d : DomainId) (self : NodeId) : List NodeId :=
  (r.nodes.filter fun x => x.domain = d && x.id ≠ self).map (·.id)

theorem insert_nodes {r r' : Registry} {node : Node} (h : r.insert node = .ok r') :
    r'.nodes = r.nodes ++ [node] := by
  unfold insert at h
  split at h
  · cases h
  · split at h
    · split at h
      · cases h
      · cases h; rfl
    · cases h; rfl

end Registry

end LiveMigration
