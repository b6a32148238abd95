/-! Command-line arguments of the form `--name` or `--name value`. Each argument is declared with
    its name, whether it is required, whether it takes a value, a default value, a help text, and at
    most one other argument it cannot be used with. The declared arguments are kept sorted by name,
    a later declaration of a name replacing the earlier one. An argument's value is what the user
    gave, or else its default; a flag is present when its value is `true`. -/

namespace LiveMigration
namespace CommandLine

/-- The value of an argument: a flag or a text. --/
inductive Value where
  | flag (b : Bool)
  | text (s : String)
deriving DecidableEq, Repr

/-- A declared argument and what the user gave for it. --/
structure Arg where
  name : String
  required : Bool := false
  conflictsWith : Option String := none
  takesValue : Bool := false
  default : Option Value := none
  help : Option String := none
  given : Option Value := none
deriving DecidableEq, Repr

/-- The declared arguments, sorted by name, each name once. --/
structure Args where
  args : List Arg := []
deriving DecidableEq, Repr

namespace Args

/-- Puts an argument in its place by name, replacing one of the same name. --/
def insertSorted (a : Arg) : List Arg → List Arg
  | [] => [a]
  | b :: bs =>
    if a.name = b.name then a :: bs
    else if a.name < b.name then a :: b :: bs
    else b :: insertSorted a bs

/-- Declares an argument. --/
def declare (as : Args) (a : Arg) : Args := ⟨insertSorted a as.args⟩

/-- Declares arguments in order. --/
def ofList (l : List Arg) : Args := l.foldl declare {}

/-- The argument with this name. --/
def find? (as : Args) (name : String) : Option Arg := as.args.find? (·.name = name)

/-- Changes the argument with this name. --/
def update (as : Args) (name : String) (f : Arg → Arg) : Args :=
  ⟨as.args.map fun a => if a.name = name then f a else a⟩

/-- The value of an argument: what the user gave, or else its default. --/
def value? (as : Args) (name : String) : Option Value :=
  (as.find? name).bind fun a => a.given.or a.default

/-- The text value of an argument. --/
def text? (as : Args) (name : String) : Option String :=
  match as.value? name with
  | some (.text s) => some s
  | _ => none

/-- Whether a flag is present: its value is `true`. --/
def flag (as : Args) (name : String) : Bool :=
  match as.value? name with
  | some (.flag b) => b
  | _ => false

theorem insertSorted_ne_nil (a : Arg) (l : List Arg) : insertSorted a l ≠ [] := by
  cases l with
  | nil => simp [insertSorted]
  | cons b bs =>
    simp only [insertSorted]
    split
    · simp
    · split <;> simp

end Args

end CommandLine
end LiveMigration
