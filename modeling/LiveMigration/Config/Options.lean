import LiveMigration.Config.Error
import LiveMigration.Text.Blank
import LiveMigration.Text.Split

/-! Option strings. A string such as `dsmid=1,vminfo=...,mr=...` is cut at every comma; each item
    is trimmed and empty items are skipped; the rest must hold an `=`, and the trimmed text before
    the first `=` is the key, the trimmed text after it the value. A key may appear once and may not
    be empty. The table keeps the options in the order they were given. -/

namespace LiveMigration

open Text

/-- Options in the order they were given, each key once. --/
structure Options where
  pairs : List (String × String) := []
deriving DecidableEq

namespace Options

/-- The value of a key. --/
def get? (o : Options) (key : String) : Option String :=
  (o.pairs.find? fun p => p.1 = key).map (·.2)

/-- The value of a required key. --/
def require (o : Options) (key : String) : Except ConfigError String :=
  match o.get? key with
  | some v => .ok v
  | none => .error (.missingKey key)

/-- Adds an option at the end: the key may be neither empty nor present. --/
def add (o : Options) (key value : String) : Except ConfigError Options :=
  if key.isEmpty then .error (.malformedOption ("=" ++ value))
  else if (o.get? key).isSome then .error (.duplicateKey key)
  else .ok ⟨o.pairs ++ [(key, value)]⟩

/-- Options from pairs taken as they are, in order. --/
def ofPairs (ps : List (String × String)) : Except ConfigError Options :=
  ps.foldlM (fun o p => o.add p.1 p.2) {}

/-- The items of an option string: the comma-separated pieces, trimmed, without empty ones. --/
def items (text : String) : List (List Char) :=
  ((split ',' text.toList).map trimChars).filter (!·.isEmpty)

/-- One item as a trimmed key and value. --/
def readItem (item : List Char) : Except ConfigError (String × String) :=
  match splitOnce '=' item with
  | some (k, v) => .ok (String.ofList (trimChars k), String.ofList (trimChars v))
  | none => .error (.malformedOption (String.ofList item))

/-- Reads an option string. --/
def parse (text : String) : Except ConfigError Options :=
  (items text).foldlM (fun o item => do
    let (k, v) ← readItem item
    o.add k v) {}

theorem add_pairs {o o' : Options} {k v : String} (h : o.add k v = .ok o') :
    o'.pairs = o.pairs ++ [(k, v)] := by
  unfold add at h
  split at h
  · cases h
  · split at h
    · cases h
    · cases h; rfl

end Options

end LiveMigration
