import LiveMigration.Region.Basic

/-! Configuration faults: what can be wrong with an option string and the node, region and
    endpoint records it holds. Faults about identifiers and regions are carried inside and keep
    their own wording. -/

namespace LiveMigration

/-- Why an option string gives no configuration. --/
inductive ConfigError where
  /-- A required option is absent. --/
  | missingKey (key : String)
  /-- An option is given twice. --/
  | duplicateKey (key : String)
  /-- An item has no `=`, or nothing before it. --/
  | malformedOption (item : String)
  /-- A field that should hold a number does not. --/
  | invalidNumber (key value : String)
  /-- A field that should hold an IPv4 address does not. --/
  | invalidAddress (text : String)
  /-- A record has the wrong number of fields. --/
  | malformedRecord (key record : String)
  /-- The node list has no node. --/
  | emptyNodeList
  /-- The node list lacks the node this configuration is for. --/
  | missingLocalNode (node : NodeId)
  /-- A region names an owner that is not in the node list. --/
  | unknownOwner (region : Nat) (owner : NodeId)
  /-- A region names an owner twice. --/
  | duplicateOwner (region : Nat) (owner : NodeId)
  /-- A fault about identifiers or nodes. --/
  | node (e : NodeError)
  /-- A fault about a region. --/
  | region (e : RegionError)
deriving DecidableEq

/-- The wording of each configuration fault. --/
def ConfigError.message : ConfigError → String
  | .missingKey key => "Missing required option \x60" ++ key ++ "\x60"
  | .duplicateKey key => "Option \x60" ++ key ++ "\x60 is given more than once"
  | .malformedOption item => "Malformed option \x60" ++ item ++ "\x60: expected key=value"
  | .invalidNumber key value => "Invalid number \x60" ++ value ++ "\x60 for \x60" ++ key ++ "\x60"
  | .invalidAddress text => "Invalid IPv4 address \x60" ++ text ++ "\x60"
  | .malformedRecord key record => "Malformed \x60" ++ key ++ "\x60 record \x60" ++ record ++ "\x60"
  | .emptyNodeList => "The node list is empty"
  | .missingLocalNode n => "The node list does not contain the local node " ++ n.render
  | .unknownOwner r o => s!"Region {r} lists owner {o.val} which is not in the node list"
  | .duplicateOwner r o => s!"Region {r} lists owner {o.val} more than once"
  | .node e => e.message
  | .region e => e.message

end LiveMigration
