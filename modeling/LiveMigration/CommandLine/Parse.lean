import LiveMigration.CommandLine.Basic

/-! Parsing a command line. The first word is the program's name and is skipped. If any word is
    `--help`, the parse only records a `help` flag; otherwise the same for `--version`. Otherwise
    every word must be `--name` for a declared name that was not given yet; an argument that takes
    a value takes the next word, which must not start with `--`. After all words are read, the
    arguments are checked in name order: a required one must be given, and a given one must not be
    given together with the argument it conflicts with. Values given before a failure stay given. -/

namespace LiveMigration
namespace CommandLine

/-- Why a command line was refused. --/
inductive ArgError where
  | missingArgument (name : String)
  | missingValue (name : String)
  | unexpectedArgument (text : String)
  | duplicateArgument (name : String)
  | conflictingArguments (name other : String)
deriving DecidableEq, Repr

/-- The wording of each command-line fault. --/
def ArgError.message : ArgError → String
  | .missingArgument name => "Argument '" ++ name ++ "' required, but not found."
  | .missingValue name => "The argument '" ++ name ++ "' requires a value, but none was supplied."
  | .unexpectedArgument text =>
    "Found argument '" ++ text ++ "' which wasn't expected, or isn't valid in this context."
  | .duplicateArgument name => "The argument '" ++ name ++ "' was provided more than once."
  | .conflictingArguments name other =>
    "The argument '" ++ name ++ "' cannot be used together with '" ++ other ++ "'."

namespace Args

/-- The prefix of an argument's name. --/
def prefixText : String := "--"

/-- Checks the arguments in name order: required ones given, no conflicting pair given. --/
def validate (as : Args) : Except ArgError Unit :=
  as.args.forM fun a => do
    if a.required && a.given.isNone then throw (.missingArgument a.name)
    if a.given.isSome then
      if let some other := a.conflictsWith then
        if ((as.find? other).bind (·.given)).isSome then throw (.conflictingArguments a.name other)

/-- Reads the words after the program's name, giving each argument its value. --/
def populate (as : Args) : List String → Except ArgError Unit × Args
  | [] => (as.validate, as)
  | w :: ws =>
    if !w.startsWith prefixText then (.error (.unexpectedArgument w), as)
    else
      let name := String.ofList (w.toList.drop 2)
      match as.find? name with
      | none => (.error (.unexpectedArgument name), as)
      | some a =>
        if a.given.isSome then (.error (.duplicateArgument name), as)
        else if a.takesValue then
          match ws with
          | v :: rest =>
            if v.startsWith prefixText then (.error (.missingValue a.name), as)
            else populate (as.update name fun a => { a with given := some (.text v) }) rest
          | [] => (.error (.missingValue a.name), as)
        else populate (as.update name fun a => { a with given := some (.flag true) }) ws

/-- Parses a command line whose first word is the program's name. --/
def parse (as : Args) (words : List String) : Except ArgError Unit × Args :=
  let ws := words.drop 1
  if ws.contains "--help" then (.ok (), as.declare { name := "help", given := some (.flag true) })
  else if ws.contains "--version" then
    (.ok (), as.declare { name := "version", given := some (.flag true) })
  else as.populate ws

end Args

end CommandLine
end LiveMigration
