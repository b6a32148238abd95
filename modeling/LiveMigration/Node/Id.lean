/-! Node and domain identifiers. Both are numbers from 1 to 65535: zero names nothing, and an
    identifier travels in sixteen bits. A raw number outside that range is refused with an error
    that names the raw number. The node errors of the registry live here too, so that every
    fault about identifiers and nodes has one type and one wording. -/

namespace LiveMigration

/-- The identifier of a node in a domain. --/
structure NodeId where
  val : Nat
  pos : 0 < val
  lt : val < 65536
deriving DecidableEq

/-- The identifier of a domain. --/
structure DomainId where
  val : Nat
  pos : 0 < val
  lt : val < 65536
deriving DecidableEq

instance : Repr NodeId := ⟨fun n _ => repr n.val⟩
instance : Repr DomainId := ⟨fun n _ => repr n.val⟩

/-- Faults about identifiers and about the node registry. --/
inductive NodeError where
  /-- The raw number is no node identifier. --/
  | invalidNodeId (raw : Nat)
  /-- The raw number is no domain identifier. --/
  | invalidDomainId (raw : Nat)
  /-- The node is already registered in the domain. --/
  | duplicateNode (node : NodeId) (domain : DomainId)
  /-- The domain already has a master, the node named here. --/
  | duplicateMaster (domain : DomainId) (node : NodeId)
deriving DecidableEq

namespace NodeId

/-- The node identifier with this raw number, if it is one. --/
def ofNat? (raw : Nat) : Option NodeId :=
  if h : 0 < raw ∧ raw < 65536 then some ⟨raw, h.1, h.2⟩ else none

/-- The node identifier with this raw number, or the fault naming the number. --/
def ofRaw (raw : Nat) : Except NodeError NodeId :=
  match ofNat? raw with
  | some n => .ok n
  | none => .error (.invalidNodeId raw)

/-- The master of a domain is node 1. --/
def master : NodeId := ⟨1, by decide, by decide⟩

/-- The migration source joins the domain as node 2. --/
def migrationClient : NodeId := ⟨2, by decide, by decide⟩

/-- Decimal text. --/
def render (n : NodeId) : String := toString n.val

theorem ofNat?_val {raw : Nat} {n : NodeId} (h : ofNat? raw = some n) : n.val = raw := by
  unfold ofNat? at h
  split at h
  · cases h; rfl
  · cases h

theorem ofRaw_eq_ok_iff {raw : Nat} : (∃ n, ofRaw raw = .ok n) ↔ 0 < raw ∧ raw < 65536 := by
  unfold ofRaw ofNat?
  by_cases h : 0 < raw ∧ raw < 65536 <;> simp [h]

end NodeId

namespace DomainId

/-- The domain identifier with this raw number, if it is one. --/
def ofNat? (raw : Nat) : Option DomainId :=
  if h : 0 < raw ∧ raw < 65536 then some ⟨raw, h.1, h.2⟩ else none

/-- The domain identifier with this raw number, or the fault naming the number. --/
def ofRaw (raw : Nat) : Except NodeError DomainId :=
  match ofNat? raw with
  | some d => .ok d
  | none => .error (.invalidDomainId raw)

/-- Live migration runs in domain 1. --/
def liveMigration : DomainId := ⟨1, by decide, by decide⟩

/-- Decimal text. --/
def render (d : DomainId) : String := toString d.val

end DomainId

/-- The wording of each node fault. --/
def NodeError.message : NodeError → String
  | .invalidNodeId raw =>
    s!"Invalid node id {raw}: node ids must be nonzero and fit in 16 bits"
  | .invalidDomainId raw =>
    s!"Invalid domain id {raw}: domain ids must be nonzero and fit in 16 bits"
  | .duplicateNode node domain =>
    s!"Node {node.val} is already registered in domain {domain.val}"
  | .duplicateMaster domain node =>
    s!"Domain {domain.val} already has master node {node.val}"

end LiveMigration
