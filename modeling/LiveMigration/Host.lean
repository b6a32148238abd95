import LiveMigration.OsError

/-! The part of the operating system the tool sees: an environment variable for the home directory,
    a tree of files, the standard output and error streams, and a clock. A file is a regular file
    with its bytes, a device that refuses every write for lack of space, a device that takes every
    write and keeps nothing, a name of one of the standard streams, which takes every write at the
    stream's end, a device file with no device behind it, a directory, a directory the system fills
    (a process's own), or a symbolic link to another path.

    A path is walked one name at a time from the root, or from the working directory when it does
    not start with `/`. Empty names and `.` stay where the walk is, `..` goes to the parent, and any
    other name goes to the entry of that name. A link is followed where it is met: its path is
    walked from the directory holding it (from the root when it starts with `/`), then the rest of
    the walk goes on from where that ends, so `..` after a link leaves the directory it leads to.
    At most 40 links are followed in one walk.

    Every step needs the walk to stand on a directory: on a missing entry it fails with
    `No such file or directory`, on any other entry with `Not a directory`. So `file/`, `file/.` and
    `file/../x` are not directories, and the empty path names nothing. A name missing from a
    directory the system fills is not there at all, not even to be made. A name is at most 255
    bytes and a path less than 4096: a longer name fails with `File name too long` when it is
    looked up in a directory, a longer path before the walk starts.

    Opening for writing without creating needs the file to exist; opening to append may create a
    file in an existing directory. Opening a directory for writing, or a device file with no device,
    fails. Writes through a handle go at the handle's offset, appends at the end. -/

namespace LiveMigration

/-- A standard stream of the process. --/
inductive Channel where
  | stdout
  | stderr
deriving DecidableEq, Repr

/-- What a path names. --/
inductive Entry where
  | file (bytes : List UInt8)
  | full
  | sink
  | stream (c : Channel)
  | noDevice
  | directory
  | systemDirectory
  | link (target : String)
deriving DecidableEq, Repr

namespace Entry

/-- Whether an entry is a directory, which a walk can go through. --/
def isDirectory : Entry → Bool
  | .directory | .systemDirectory => true
  | _ => false

/-- Whether an entry can be opened for writing, and why not. --/
def opened : Entry → Except OsError Unit
  | .directory | .systemDirectory => .error .isDirectory
  | .noDevice => .error .noDevice
  | _ => .ok ()

end Entry

/-- An entry by the names that lead to it from the root. --/
abbrev Place := List String

/-- The absolute path of a place. --/
def Place.render (p : Place) : String := "/" ++ "/".intercalate p

/-- Where a walk stands: on an entry, or on a free name in an existing directory. A free name
    followed by a slash can only be made a directory. --/
inductive Spot where
  | found (place : Place) (e : Entry)
  | free (place : Place) (asDirectory : Bool)
deriving DecidableEq, Repr

/-- The files, environment and clock the tool runs with. --/
structure Host where
  /-- The home directory, when the variable is set. --/
  home : Option String
  /-- The working directory, a directory of `entries`. --/
  cwd : Place := []
  /-- The entries below the root, which is a directory. --/
  entries : List (Place × Entry)
  /-- The local time as log lines show it. --/
  time : String
  /-- The origin of a record as log lines show it, by the place it was written from. --/
  origin : String → String
  /-- The wall clock in milliseconds. --/
  clockMs : Nat
  /-- What was written to standard output. --/
  stdout : String := ""
  /-- What was written to standard error. --/
  stderr : String := ""

namespace Host

/-- What stands at a place. --/
def entry? (h : Host) (p : Place) : Option Entry :=
  if p = [] then some .directory else (h.entries.find? (·.1 = p)).map (·.2)

/-- Sets what stands at a place. --/
def put (h : Host) (p : Place) (e : Entry) : Host :=
  if (h.entries.find? (·.1 = p)).isSome then
    { h with entries := h.entries.map fun q => if q.1 = p then (p, e) else q }
  else { h with entries := h.entries ++ [(p, e)] }

/-- Writes text to the end of a standard stream. --/
def emit (h : Host) (c : Channel) (text : String) : Host :=
  match c with
  | .stdout => { h with stdout := h.stdout ++ text }
  | .stderr => { h with stderr := h.stderr ++ text }

/-! ### Walking a path -/

/-- The longest name a directory holds, in bytes. --/
def nameMax : Nat := 255

/-- The length in bytes from which a path is refused. --/
def pathMax : Nat := 4096

/-- The most links one walk follows. --/
def linkMax : Nat := 40

/-- The names of a path, split at every `/`. --/
def pathNames (path : String) : List String := (path.toList.splitOn '/').map String.ofList

/-- The directory a walk stands on after `..` from a place. --/
def parentSpot (h : Host) (p : Place) : Spot := .found p.dropLast ((h.entry? p.dropLast).getD .directory)

/-- Walks the names from a spot, following at most `links` more links. --/
def walkFrom (h : Host) (links : Nat) (s : Spot) (names : List String) : Except OsError Spot :=
  match names with
  | [] => .ok s
  | name :: rest =>
    match s with
    | .free p _ => if name = "" then h.walkFrom links (.free p true) rest else .error .noSuchFile
    | .found p e =>
      if !e.isDirectory then .error .notADirectory
      else if name = "" || name = "." then h.walkFrom links s rest
      else if name = ".." then h.walkFrom links (h.parentSpot p) rest
      else if nameMax < name.utf8ByteSize then .error .nameTooLong
      else
        match h.entry? (p ++ [name]) with
        | some (.link target) =>
          match links with
          | 0 => .error .tooManyLinks
          | n + 1 =>
            let start : Spot := if target.startsWith "/" then .found [] .directory else s
            h.walkFrom n start (pathNames target ++ rest)
        | some e' => h.walkFrom links (.found (p ++ [name]) e') rest
        | none =>
          if e = .systemDirectory then .error .noSuchFile
          else h.walkFrom links (.free (p ++ [name]) false) rest
termination_by (links, names.length)

/-- Where a path leads. --/
def walk (h : Host) (path : String) : Except OsError Spot :=
  if pathMax ≤ path.utf8ByteSize then .error .nameTooLong
  else if path = "" then .error .noSuchFile
  else
    let start : Place := if path.startsWith "/" then [] else h.cwd
    h.walkFrom linkMax (.found start ((h.entry? start).getD .directory)) (pathNames path)

/-- The places a path passes through by its names alone, without looking at the entries. --/
def placesAlong (cwd : Place) (path : String) : List Place :=
  let start : Place := if path.startsWith "/" then [] else cwd
  let visit := fun (acc : Place × List Place) (name : String) =>
    if name = "" || name = "." then acc
    else if name = ".." then (acc.1.dropLast, acc.2)
    else (acc.1 ++ [name], acc.2 ++ [acc.1 ++ [name]])
  ((pathNames path).foldl visit (start, [])).2

/-- The text of bytes read as UTF-8. --/
def decode (bytes : List UInt8) : String := (String.fromUTF8? (ByteArray.mk bytes.toArray)).getD ""

/-! ### Files -/

/-- The text of a file, which must be UTF-8. A device reads as empty. --/
def read (h : Host) (path : String) : Except OsError String :=
  match h.walk path with
  | .error e => .error e
  | .ok (.found _ (.file bytes)) =>
    match String.fromUTF8? (ByteArray.mk bytes.toArray) with
    | some text => .ok text
    | none => .error .notText
  | .ok (.found _ e) => e.opened.map fun _ => ""
  | .ok (.free _ _) => .error .noSuchFile

/-- Opens an existing file for reading and writing. --/
def openExisting (h : Host) (path : String) : Except OsError Place :=
  match h.walk path with
  | .error e => .error e
  | .ok (.found p e) => e.opened.map fun _ => p
  | .ok (.free _ _) => .error .noSuchFile

/-- Opens a file to append to, creating it empty in an existing directory. --/
def openAppend (h : Host) (path : String) : Except OsError (Place × Host) :=
  match h.walk path with
  | .error e => .error e
  | .ok (.found p e) => e.opened.map fun _ => (p, h)
  | .ok (.free _ true) => .error .isDirectory
  | .ok (.free p false) => .ok (p, h.put p (.file []))

/-- Writes bytes at an offset of a file, over what is there. --/
def overwrite (old new : List UInt8) (offset : Nat) : List UInt8 :=
  old.take offset ++ List.replicate (offset - old.length) 0 ++ new ++ old.drop (offset + new.length)

/-- Writes text at an offset of an opened file. --/
def writeAt (h : Host) (p : Place) (offset : Nat) (text : String) : Except OsError Host :=
  let bytes := text.toUTF8.data.toList
  match h.entry? p with
  | some (.file old) => .ok (h.put p (.file (overwrite old bytes offset)))
  | some .full => .error .noSpace
  | some (.stream c) => .ok (h.emit c text)
  | some e => e.opened.map fun _ => h
  | none => .error .noSuchFile

/-- Appends text to an opened file. --/
def append (h : Host) (p : Place) (text : String) : Except OsError Host :=
  match h.entry? p with
  | some (.file old) => h.writeAt p old.length text
  | _ => h.writeAt p 0 text

/-- The text of the regular file a path names. --/
def contents? (h : Host) (path : String) : Option String :=
  match h.walk path with
  | .ok (.found _ (.file bytes)) => some (decode bytes)
  | _ => none

end Host

end LiveMigration
