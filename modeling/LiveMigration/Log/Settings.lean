import LiveMigration.Json.Reader
import LiveMigration.Log.Record

/-! Logger settings read from JSON. The settings are an object with the optional fields `log_path`,
    `level`, `show_level`, `show_log_origin` and `module` (a field that is `null` is absent), or an
    array of the five in that order. Any other field, or a field given twice, is refused. A level is
    a string naming a level filter. Faults are worded and placed as a strict JSON reader places
    them: a fault about a field's value is placed after the object or array that holds it was read
    to its end. -/

namespace LiveMigration
namespace Log

open Json

/-- What the logger is told to change. --/
structure Settings where
  logPath : Option String := none
  level : Option LevelFilter := none
  showLevel : Option Bool := none
  showLogOrigin : Option Bool := none
  module : Option String := none
deriving DecidableEq, Repr

/-- The fields of the settings, in order. --/
inductive Field where
  | logPath | level | showLevel | showLogOrigin | module
deriving DecidableEq, Repr

namespace Field

/-- Every field, in order. --/
def all : List Field := [.logPath, .level, .showLevel, .showLogOrigin, .module]

/-- The name of a field in JSON. --/
def name : Field → String
  | .logPath => "log_path" | .level => "level" | .showLevel => "show_level"
  | .showLogOrigin => "show_log_origin" | .module => "module"

end Field

/-- The name of the settings in faults. --/
def settingsName : String := "struct LoggerConfig"

/-- A fault without a place yet, raised when the reader had got to `stop`. --/
def loose (text : String) (stop : Nat) : Fault := { text, stop }

/-- A string value, from index `i`. --/
def readStringValue (s : Input) (i : Nat) (expected : String) : Read String :=
  let i := skipBlank s i
  match peek s i with
  | none => .error (Fault.ahead s .eofWhileParsingValue i)
  | some 34 => readString s (i + 1)
  | some _ => .error (wrongKind s i expected)

/-- A boolean value, from index `i`. --/
def readBoolValue (s : Input) (i : Nat) : Read Bool :=
  let i := skipBlank s i
  match peek s i with
  | none => .error (Fault.ahead s .eofWhileParsingValue i)
  | some 116 => (readIdent s (bytesOf "rue") (i + 1)).map fun j => (true, j)
  | some 102 => (readIdent s (bytesOf "alse") (i + 1)).map fun j => (false, j)
  | some _ => .error (wrongKind s i "a boolean")

/-- A value that may be `null`. --/
def readOptional {α : Type} (s : Input) (i : Nat) (inner : Nat → Read α) : Read (Option α) :=
  let j := skipBlank s i
  if peek s j = some 110 then (readIdent s (bytesOf "ull") (j + 1)).map fun k => (none, k)
  else (inner j).map fun (a, k) => (some a, k)

/-- Sets one field from the value at index `i`. --/
def readField (s : Input) (c : Settings) (f : Field) (i : Nat) : Read Settings :=
  match f with
  | .logPath => (readOptional s i fun j => readStringValue s j "path string").map
      fun (v, k) => ({ c with logPath := v }, k)
  | .level =>
    match readOptional s i fun j => readStringValue s j "a string" with
    | .ok (none, k) => .ok ({ c with level := none }, k)
    | .ok (some t, k) =>
      match LevelFilter.read? t with
      | some l => .ok ({ c with level := some l }, k)
      | none => .error (loose "Invalid LevelFilter" k)
    | .error e => .error e
  | .showLevel => (readOptional s i (readBoolValue s)).map fun (v, k) => ({ c with showLevel := v }, k)
  | .showLogOrigin => (readOptional s i (readBoolValue s)).map
      fun (v, k) => ({ c with showLogOrigin := v }, k)
  | .module => (readOptional s i fun j => readStringValue s j "a string").map
      fun (v, k) => ({ c with module := v }, k)

/-- The field a key names, or the fault that it names none; the key ended at `stop`. --/
def fieldOf (key : String) (stop : Nat) : Except Fault Field :=
  match Field.all.find? (·.name = key) with
  | some f => .ok f
  | none => .error (loose ("unknown field \x60" ++ key ++ "\x60, expected one of " ++
      ", ".intercalate (Field.all.map fun f => "\x60" ++ f.name ++ "\x60")) stop)

/-- Reads the members of an object from index `i`, which is just after `{` or after a member;
    `first` tells whether no member was read yet, `seen` the fields already set. --/
def readMembers (s : Input) (fuel : Nat) (c : Settings) (seen : List Field) (first : Bool) (i : Nat) :
    Read Settings :=
  match fuel with
  | 0 => .error (Fault.ahead s .eofWhileParsingObject i)
  | fuel + 1 =>
    let i := skipBlank s i
    let keyStart : Except Fault (Option Nat) :=
      match peek s i with
      | some 125 => .ok none
      | some 44 =>
        if first then .error (Fault.ahead s .keyMustBeAString i)
        else .ok (some (skipBlank s (i + 1)))
      | some _ => if first then .ok (some i) else .error (Fault.ahead s .expectedObjectCommaOrEnd i)
      | none => .error (Fault.ahead s .eofWhileParsingObject i)
    match keyStart with
    | .error e => .error e
    | .ok none => .ok (c, i)
    | .ok (some k) =>
      match peek s k with
      | some 34 =>
        match readString s (k + 1) with
        | .error e => .error e
        | .ok (key, j) =>
          match fieldOf key j with
          | .error e => .error e
          | .ok f =>
            if seen.contains f then .error (loose ("duplicate field \x60" ++ f.name ++ "\x60") j)
            else
              let j := skipBlank s j
              match peek s j with
              | some 58 =>
                match readField s c f (j + 1) with
                | .ok (c, j) => readMembers s fuel c (f :: seen) false j
                | .error e => .error e
              | some _ => .error (Fault.ahead s .expectedColon j)
              | none => .error (Fault.ahead s .eofWhileParsingObject j)
      | some 125 => .error (Fault.ahead s .trailingComma k)
      | some _ => .error (Fault.ahead s .keyMustBeAString k)
      | none => .error (Fault.ahead s .eofWhileParsingValue k)

/-- Whether another element follows in an array, from index `i`; gives where it starts. --/
def nextElement (s : Input) (first : Bool) (i : Nat) : Except Fault (Option Nat) :=
  let i := skipBlank s i
  match peek s i with
  | none => .error (Fault.ahead s .eofWhileParsingList i)
  | some 93 => .ok none
  | some 44 =>
    if first then .ok (some i)
    else
      let j := skipBlank s (i + 1)
      match peek s j with
      | some 93 => .error (Fault.ahead s .trailingComma j)
      | some _ => .ok (some j)
      | none => .error (Fault.ahead s .eofWhileParsingValue j)
  | some _ => if first then .ok (some i) else .error (Fault.ahead s .expectedListCommaOrEnd i)

/-- Reads the five fields in order from an array, from index `i` just after `[`. --/
def readElements (s : Input) (c : Settings) : List Field → Nat → Nat → Read Settings
  | [], _, i => .ok (c, i)
  | f :: fs, n, i =>
    match nextElement s (n = 0) i with
    | .error e => .error e
    | .ok none => .error (loose ("invalid length " ++ toString n ++ ", expected " ++ settingsName ++
        " with 5 elements") (skipBlank s i))
    | .ok (some j) =>
      match readField s c f j with
      | .ok (c, k) => readElements s c fs (n + 1) k
      | .error e => .error e

/-- The end of an object: blanks, then `}`. --/
def endObject (s : Input) (i : Nat) : Except Fault Nat :=
  let i := skipBlank s i
  match peek s i with
  | some 125 => .ok (i + 1)
  | some 44 => .error (Fault.ahead s .trailingComma i)
  | some _ => .error (Fault.ahead s .trailingCharacters i)
  | none => .error (Fault.ahead s .eofWhileParsingObject i)

/-- The end of an array: blanks, then `]`. --/
def endArray (s : Input) (i : Nat) : Except Fault Nat :=
  let i := skipBlank s i
  match peek s i with
  | some 93 => .ok (i + 1)
  | some 44 =>
    let j := skipBlank s (i + 1)
    if peek s j = some 93 then .error (Fault.ahead s .trailingComma j)
    else .error (Fault.ahead s .trailingCharacters j)
  | some _ => .error (Fault.ahead s .trailingCharacters i)
  | none => .error (Fault.ahead s .eofWhileParsingList i)

/-- How far looking for the end of an object gets when it fails: past the blanks. --/
def objectEndReached (s : Input) (i : Nat) : Nat := skipBlank s i

/-- How far looking for the end of an array gets when it fails: past the blanks, and past a comma
    and the blanks after it. --/
def arrayEndReached (s : Input) (i : Nat) : Nat :=
  let i := skipBlank s i
  if peek s i = some 44 then skipBlank s (i + 1) else i

/-- Joins the outcome of reading the members with the end of the container. The end is read even
    after a failure, from where the failing reader stopped, and a fault without a place is placed
    where that reading got to. --/
def closeWith (s : Input) (closing : Input → Nat → Except Fault Nat) (reached : Input → Nat → Nat)
    (body : Read Settings) : Read Settings :=
  match body with
  | .ok (c, i) =>
    match closing s i with
    | .ok j => .ok (c, j)
    | .error e => .error e
  | .error e =>
    if e.at?.isSome then .error e
    else
      let j := match closing s e.stop with
        | .ok j => j
        | .error _ => reached s e.stop
      .error (e.fix j)

/-- Reads logger settings from JSON text. --/
def Settings.read (text : String) : Except String Settings :=
  let s : Input := text.toUTF8.data
  let i := skipBlank s 0
  let body : Read Settings :=
    match peek s i with
    | none => .error (Fault.ahead s .eofWhileParsingValue i)
    | some 123 => closeWith s endObject objectEndReached (readMembers s (s.size + 1) {} [] true (i + 1))
    | some 91 => closeWith s endArray arrayEndReached (readElements s {} Field.all 0 (i + 1))
    | some _ => .error (wrongKind s i settingsName)
  match body with
  | .error e => .error (e.render s)
  | .ok (c, j) =>
    let j := skipBlank s j
    if j < s.size then .error ((Fault.ahead s .trailingCharacters j).render s) else .ok c

end Log
end LiveMigration
