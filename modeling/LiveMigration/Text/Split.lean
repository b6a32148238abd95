/-! Cutting texts into pieces. Three rules are used by the option and port formats: splitting at
    every separator, splitting with the separator read as a terminator (one empty last piece is
    dropped, so `"a#"` gives `["a"]` and `""` gives no piece at all), and cutting at the first
    separator only. Lines end at a line feed, and a carriage return right before it goes too. -/

namespace LiveMigration
namespace Text

/-! ### Separators -/

/-- The pieces between the separators, one more than there are separators. --/
def split (sep : Char) (cs : List Char) : List (List Char) := cs.splitOn sep

/-- Splitting with the separator read as a terminator: an empty last piece is dropped. --/
def splitTerminator (sep : Char) (cs : List Char) : List (List Char) :=
  let parts := split sep cs
  if parts.getLast? = some [] then parts.dropLast else parts

/-- The text before the first separator and the text after it, if there is a separator. --/
def splitOnce (sep : Char) : List Char → Option (List Char × List Char)
  | [] => none
  | c :: cs =>
    if c = sep then some ([], cs)
    else (splitOnce sep cs).map fun (a, b) => (c :: a, b)

theorem splitTerminator_nil (sep : Char) : splitTerminator sep [] = [] := by
  simp [splitTerminator, split]

theorem splitOnce_eq_none_iff {sep : Char} {cs : List Char} :
    splitOnce sep cs = none ↔ sep ∉ cs := by
  induction cs with
  | nil => simp [splitOnce]
  | cons c cs ih =>
    by_cases h : c = sep
    · subst h; simp [splitOnce]
    · simp [splitOnce, h, ih, Ne.symm h]

/-! ### Lines -/

/-- Drops one carriage return at the end of a line. --/
def dropReturn (cs : List Char) : List Char :=
  if cs.getLast? = some '\r' then cs.dropLast else cs

/-- The lines of a text: pieces ended by a line feed, the last one possibly without it. A
    carriage return before a line feed belongs to the line end. --/
def lines (cs : List Char) : List (List Char) :=
  let parts := split '\n' cs
  match parts.getLast? with
  | some [] => parts.dropLast.map dropReturn
  | _ => parts.dropLast.map dropReturn ++ [parts.getLast?.getD []]

end Text
end LiveMigration
