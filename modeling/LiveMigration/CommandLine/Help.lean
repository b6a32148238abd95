import LiveMigration.CommandLine.Basic

/-! The help text of a command line: a section `required arguments:` and a section
    `optional arguments:`, an empty section left out and a blank line between two. Each line shows
    the argument as `--name <name>` when it takes a value and `--name` otherwise, indented by two
    spaces and padded to the widest such text of its section (widths measured in bytes, padding
    counted in characters), then three spaces and the help, with the default value after it. -/

namespace LiveMigration
namespace CommandLine

namespace Arg

/-- `  --name <name>` or `  --name`. --/
def nameColumn (a : Arg) : String :=
  if a.takesValue then "  --" ++ a.name ++ " <" ++ a.name ++ ">" else "  --" ++ a.name

/-- A value as help shows it: a text in double quotes. --/
def showValue : Value → String
  | .flag b => toString b
  | .text s => "\"" ++ s ++ "\""

/-- The help, the default, both, or nothing. --/
def helpColumn (a : Arg) : String :=
  match a.help, a.default with
  | some h, some d => h ++ " [default: " ++ showValue d ++ "]"
  | some h, none => h
  | none, some d => "[default: " ++ showValue d ++ "]"
  | none, none => ""

/-- One help line, the name padded to `width` characters. --/
def helpLine (a : Arg) (width : Nat) : String :=
  let n := a.nameColumn
  n ++ String.ofList (List.replicate (width - n.length) ' ') ++ "   " ++ a.helpColumn

end Arg

namespace Args

/-- The lines of one section. --/
def helpSection (as : Args) (required : Bool) : List String :=
  let members := as.args.filter (·.required = required)
  let width := (members.map (·.nameColumn.utf8ByteSize)).foldl max 0
  members.map (·.helpLine width)

/-- The help text. --/
def help (as : Args) : String :=
  let req := as.helpSection true
  let opt := as.helpSection false
  let parts := (if req.isEmpty then [] else ["required arguments:", "\n".intercalate req]) ++
    (if opt.isEmpty then [] else
      (if req.isEmpty then [] else [""]) ++ ["optional arguments:", "\n".intercalate opt])
  "\n".intercalate parts

end Args

end CommandLine
end LiveMigration
