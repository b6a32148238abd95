/-! Unsigned decimal numbers and hexadecimal text. A number is an optional `+` and at least one
    ASCII digit, with nothing else around it; it is read into a word of a given width, and a value
    that does not fit is no number. Hexadecimal text is lowercase with a `0x` mark. -/

namespace LiveMigration
namespace Text

/-! ### Reading -/

/-- The value of a digit list, most significant digit first. --/
def digitsValue (ds : List Char) : Nat :=
  ds.foldl (fun acc d => 10 * acc + (d.toNat - '0'.toNat)) 0

/-- A list of ASCII digits with at least one digit. --/
def allDigits (ds : List Char) : Bool := !ds.isEmpty && ds.all Char.isDigit

/-- Reads an unsigned decimal number: an optional `+`, then ASCII digits only. --/
def readNat? (cs : List Char) : Option Nat :=
  let ds := match cs with
    | '+' :: rest => rest
    | _ => cs
  if allDigits ds then some (digitsValue ds) else none

/-- Reads an unsigned decimal number below `2 ^ bits`. --/
def readWord? (bits : Nat) (cs : List Char) : Option Nat :=
  (readNat? cs).filter (· < Nat.pow 2 bits)

/-- The largest value of a 64-bit word. --/
def wordMax : Nat := Nat.pow 2 64 - 1

/-- Reads an unsigned 64-bit decimal number. --/
def readU64? (s : String) : Option Nat := readWord? 64 s.toList

/-- Reads an unsigned 16-bit decimal number. --/
def readU16? (s : String) : Option Nat := readWord? 16 s.toList

theorem readWord?_lt {bits : Nat} {cs : List Char} {n : Nat} (h : readWord? bits cs = some n) :
    n < Nat.pow 2 bits := by
  simp only [readWord?, Option.filter_eq_some_iff] at h
  simpa using h.2

/-! ### Writing -/

/-- Decimal text of a number. --/
def decimal (n : Nat) : String := String.ofList (Nat.toDigits 10 n)

/-- Lowercase hexadecimal text with a `0x` mark; zero is `0x0`. --/
def hex (n : Nat) : String := "0x" ++ String.ofList (Nat.toDigits 16 n)

/-- Decimal text of an integer, with a `-` for a negative one. --/
def signedDecimal (i : Int) : String :=
  if i < 0 then "-" ++ decimal i.natAbs else decimal i.natAbs

end Text
end LiveMigration
