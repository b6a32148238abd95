import LiveMigration.Config.Options
import LiveMigration.Node.Registry
import LiveMigration.Text.Decimal
import LiveMigration.Log.Record

/-! The fields of option records. Numbers are 64-bit decimals, ports 16-bit decimals and addresses
    dotted quads, each read after trimming; a field that does not read is reported with its text as
    it was given, untrimmed. The domain is the required option `dsmid`. Records written while a
    configuration is built come from the module path `dsm::config`. -/

namespace LiveMigration
namespace Config

open Text Log

/-- The key of the domain identifier. --/
def domainKey : String := "dsmid"
/-- The key of a client's own node identifier. --/
def vmKey : String := "vmid"
/-- The key of a master's node list. --/
def nodeListKey : String := "vminfo"
/-- The key of a master's region list. --/
def regionListKey : String := "mr"
/-- The key of a client's master endpoint. --/
def masterKey : String := "master"

/-- A 64-bit decimal field; a fault names the key and the field as given. --/
def readNumber (key : String) (field : List Char) : Except ConfigError Nat :=
  match readWord? 64 (trimChars field) with
  | some n => .ok n
  | none => .error (.invalidNumber key (String.ofList field))

/-- A 16-bit port field. --/
def readPort (field : List Char) : Except ConfigError UInt16 :=
  match readWord? 16 (trimChars field) with
  | some n => .ok n.toUInt16
  | none => .error (.invalidNumber "port" (String.ofList field))

/-- An IPv4 address field. --/
def readIp (field : List Char) : Except ConfigError Net.Ipv4 :=
  match Net.Ipv4.read? (String.ofList (trimChars field)) with
  | some ip => .ok ip
  | none => .error (.invalidAddress (String.ofList field))

/-- A node identifier field. --/
def readNodeId (key : String) (field : List Char) : Except ConfigError NodeId := do
  let raw ← readNumber key field
  (NodeId.ofRaw raw).mapError .node

/-- The domain named by the required option `dsmid`. --/
def readDomain (o : Options) : Except ConfigError DomainId := do
  let text ← o.require domainKey
  let raw ← readNumber domainKey text.toList
  (DomainId.ofRaw raw).mapError .node

/-- A debug record of the configuration code. --/
def debugRecord (message : String) : Record := ⟨.debug, "dsm::config", "config", message⟩

/-- An info record of the configuration code. --/
def infoRecord (message : String) : Record := ⟨.info, "dsm::config", "config", message⟩

/-- A warning record of the configuration code. --/
def warnRecord (message : String) : Record := ⟨.warn, "dsm::config", "config", message⟩

end Config
end LiveMigration
