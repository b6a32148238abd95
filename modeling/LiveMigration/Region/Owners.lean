import LiveMigration.Node.Id

/-! Owner lists: the nodes that hold a copy of a region, at most 32 of them, in the order given.
    Pushing onto a full list is refused and names the rejected node; building a list from more
    than 32 nodes is refused and names how many there were. The text is `[2, 3]`. -/

namespace LiveMigration

/-- The largest number of owners a list holds. --/
def ownerCapacity : Nat := 32

/-- At most 32 node identifiers, in order. --/
structure OwnerList where
  ids : List NodeId := []
  bound : ids.length ≤ ownerCapacity := by decide
deriving DecidableEq

/-- Why an owner list refused a change. --/
inductive OwnerError where
  /-- The list is full; the node named was not added. --/
  | full (rejected : NodeId)
  /-- A list was to be built from this many nodes, more than fit. --/
  | tooLong (count : Nat)
deriving DecidableEq

namespace OwnerList

/-- The empty list. --/
def empty : OwnerList := {}

/-- How many owners there are. --/
def size (o : OwnerList) : Nat := o.ids.length

/-- Whether the list has no room left. --/
def isFull (o : OwnerList) : Bool := o.size == ownerCapacity

/-- Whether a node is an owner. --/
def contains (o : OwnerList) (n : NodeId) : Bool := o.ids.contains n

/-- Adds an owner at the end, unless the list is full. --/
def push (o : OwnerList) (n : NodeId) : Except OwnerError OwnerList :=
  if h : o.ids.length < ownerCapacity then
    .ok ⟨o.ids ++ [n], by rw [List.length_append, List.length_singleton]; omega⟩
  else .error (.full n)

/-- The list of these nodes, unless there are more than fit. --/
def ofList (ns : List NodeId) : Except OwnerError OwnerList :=
  if h : ns.length ≤ ownerCapacity then .ok ⟨ns, h⟩ else .error (.tooLong ns.length)

/-- `[a, b, c]`. --/
def render (o : OwnerList) : String :=
  "[" ++ ", ".intercalate (o.ids.map NodeId.render) ++ "]"

theorem push_ids {o o' : OwnerList} {n : NodeId} (h : o.push n = .ok o') :
    o'.ids = o.ids ++ [n] := by
  unfold push at h
  split at h
  · cases h; rfl
  · cases h

end OwnerList

/-- The wording of each owner list fault: the number alone. --/
def OwnerError.message : OwnerError → String
  | .full n => n.render
  | .tooLong count => toString count

end LiveMigration
