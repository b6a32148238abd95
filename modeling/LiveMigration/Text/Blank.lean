/-! Blank characters and trimming. A character is blank when it has the Unicode `White_Space`
    property; trimming removes blank characters at both ends of a text and nothing else. The
    table is small enough to write as ranges of code points, and it contains every character
    that the core library calls whitespace. -/

namespace LiveMigration
namespace Text

/-! ### The `White_Space` property -/

/-- A character is blank when its code point has the Unicode `White_Space` property. --/
def isBlank (c : Char) : Bool :=
  let n := c.toNat
  (0x09 ≤ n && n ≤ 0x0D) || n == 0x20 || n == 0x85 || n == 0xA0 || n == 0x1680 ||
    (0x2000 ≤ n && n ≤ 0x200A) || n == 0x2028 || n == 0x2029 || n == 0x202F ||
    n == 0x205F || n == 0x3000

theorem isBlank_of_isWhitespace {c : Char} (h : c.isWhitespace = true) : isBlank c = true := by
  simp only [Char.isWhitespace, Bool.or_eq_true, decide_eq_true_eq] at h
  simp only [isBlank, Bool.or_eq_true, Bool.and_eq_true, decide_eq_true_eq, beq_iff_eq]
  rcases h with ((h | h) | h) | h
  all_goals (subst h; decide)

/-! ### Trimming -/

/-- Drops the blank characters at the start of a character list. --/
def trimStart (cs : List Char) : List Char := cs.dropWhile isBlank

/-- Drops the blank characters at both ends of a character list. --/
def trimChars (cs : List Char) : List Char := (trimStart (trimStart cs).reverse).reverse

/-- Drops the blank characters at both ends of a text. --/
def trim (s : String) : String := String.ofList (trimChars s.toList)

theorem trimChars_nil : trimChars [] = [] := rfl

end Text
end LiveMigration
