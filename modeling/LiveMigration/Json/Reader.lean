import LiveMigration.Json.Shortest
import LiveMigration.Text.Quoted

/-! Reading JSON text byte by byte, with the positions and wordings of a strict reader. A reader
    takes the input and the index of the next byte and gives its value and the index after it, or
    a fault. A fault found while scanning carries the index where it was found: the index after
    the bytes consumed, or one byte further for a fault found by looking ahead. A fault about the
    shape of a value is found later and gets its index from the reader that reports it. Positions
    are shown as a line and a column, the column counting the bytes consumed on that line. -/

namespace LiveMigration
namespace Json

/-! ### Faults -/

/-- Faults of the JSON syntax. --/
inductive Code where
  | eofWhileParsingList | eofWhileParsingObject | eofWhileParsingString | eofWhileParsingValue
  | expectedColon | expectedListCommaOrEnd | expectedObjectCommaOrEnd | expectedSomeIdent
  | expectedSomeValue | invalidEscape | invalidNumber | numberOutOfRange | controlCharacter
  | keyMustBeAString | loneLeadingSurrogate | trailingComma | trailingCharacters
  | unexpectedEndOfHexEscape
deriving DecidableEq, Repr

/-- The wording of each syntax fault. --/
def Code.message : Code → String
  | .eofWhileParsingList => "EOF while parsing a list"
  | .eofWhileParsingObject => "EOF while parsing an object"
  | .eofWhileParsingString => "EOF while parsing a string"
  | .eofWhileParsingValue => "EOF while parsing a value"
  | .expectedColon => "expected \x60:\x60"
  | .expectedListCommaOrEnd => "expected \x60,\x60 or \x60]\x60"
  | .expectedObjectCommaOrEnd => "expected \x60,\x60 or \x60\x7d\x60"
  | .expectedSomeIdent => "expected ident"
  | .expectedSomeValue => "expected value"
  | .invalidEscape => "invalid escape"
  | .invalidNumber => "invalid number"
  | .numberOutOfRange => "number out of range"
  | .controlCharacter => "control character (\\u0000-\\u001F) found while parsing a string"
  | .keyMustBeAString => "key must be a string"
  | .loneLeadingSurrogate => "lone leading surrogate in hex escape"
  | .trailingComma => "trailing comma"
  | .trailingCharacters => "trailing characters"
  | .unexpectedEndOfHexEscape => "unexpected end of hex escape"

/-- A fault: its wording and, once known, the index it is reported at. A fault about the shape of
    a value has no index yet; `stop` is then where its reader had got to. --/
structure Fault where
  text : String
  at? : Option Nat := none
  stop : Nat := 0
deriving DecidableEq, Repr

/-- The input bytes. --/
abbrev Input := Array UInt8

/-- A syntax fault at the index after the consumed bytes. --/
def Fault.here (c : Code) (i : Nat) : Fault := { text := c.message, at? := some i }

/-- A syntax fault found by looking at the next byte. --/
def Fault.ahead (s : Input) (c : Code) (i : Nat) : Fault :=
  { text := c.message, at? := some (min s.size (i + 1)) }

/-- Gives a fault without an index the index `i`. --/
def Fault.fix (f : Fault) (i : Nat) : Fault := if f.at?.isSome then f else { f with at? := some i }

/-- Line and column of an index: lines counted from 1, the column the bytes before it on its line. --/
def position (s : Input) (i : Nat) : Nat × Nat :=
  let before := s.toList.take i
  let lineStart := before.length - (before.reverse.takeWhile (· != 10)).length
  (1 + before.count 10, i - lineStart)

/-- The text of a fault: its wording, and where it was found when that is known. --/
def Fault.render (s : Input) (f : Fault) : String :=
  match f.at? with
  | some i =>
    let (line, column) := position s i
    f.text ++ " at line " ++ toString line ++ " column " ++ toString column
  | none => f.text

/-- A reading step: a value and the index after it. --/
abbrev Read (α : Type) := Except Fault (α × Nat)

/-! ### Bytes -/

/-- The byte at an index, if any. --/
def peek (s : Input) (i : Nat) : Option UInt8 := s[i]?

/-- Blanks between tokens: space, line feed, tab and carriage return. --/
def isBlankByte (b : UInt8) : Bool := b == 32 || b == 10 || b == 9 || b == 13

/-- The index of the first byte from `i` on that is no blank. --/
def skipBlank (s : Input) (i : Nat) : Nat :=
  if h : i < s.size then
    if isBlankByte s[i] then skipBlank s (i + 1) else i
  else i
termination_by s.size - i

/-- Reads the rest of a literal word, byte by byte. --/
def readIdent (s : Input) : List UInt8 → Nat → Except Fault Nat
  | [], i => .ok i
  | b :: bs, i =>
    match peek s i with
    | none => .error (.here .eofWhileParsingValue i)
    | some c => if c == b then readIdent s bs (i + 1) else .error (.here .expectedSomeIdent (i + 1))

/-- The bytes of a word. --/
def bytesOf (w : String) : List UInt8 := w.toUTF8.data.toList

/-! ### Strings -/

/-- The value of a hexadecimal digit. --/
def hexValue (b : UInt8) : Option Nat :=
  if 48 ≤ b && b ≤ 57 then some (b.toNat - 48)
  else if 97 ≤ b && b ≤ 102 then some (b.toNat - 87)
  else if 65 ≤ b && b ≤ 70 then some (b.toNat - 55)
  else none

/-- Four hexadecimal digits from `i`. The four bytes are taken before they are checked, so a
    bad digit is reported after the fourth byte; fewer than four bytes end the string early. --/
def readHex4 (s : Input) (i : Nat) : Read Nat :=
  if i + 4 > s.size then .error (.here .eofWhileParsingString s.size)
  else
    let digits := [0, 1, 2, 3].map fun k => hexValue (s[i + k]?.getD 0)
    match digits.foldl (fun acc d => acc.bind fun n => d.map (16 * n + ·)) (some 0) with
    | some n => .ok (n, i + 4)
    | none => .error (.here .invalidEscape (i + 4))

/-- The UTF-8 bytes of a code point. --/
def encodeCodePoint (n : Nat) : List UInt8 := (String.singleton (Char.ofNat n)).toUTF8.data.toList

/-- The rest of a `\u` escape, from the index after the `u`. --/
def readUnicodeEscape (s : Input) (i : Nat) : Except Fault (List UInt8 × Nat) := do
  let (n, i) ← readHex4 s i
  if 0xDC00 ≤ n && n ≤ 0xDFFF then throw (.here .loneLeadingSurrogate i)
  if n < 0xD800 || n > 0xDBFF then return (encodeCodePoint n, i)
  match peek s i with
  | none => throw (.here .eofWhileParsingString i)
  | some b =>
    if b != 92 then throw (.here .unexpectedEndOfHexEscape (i + 1))
    match peek s (i + 1) with
    | none => throw (.here .eofWhileParsingString (i + 1))
    | some u =>
      if u != 117 then throw (.here .unexpectedEndOfHexEscape (i + 2))
      let (n2, i) ← readHex4 s (i + 2)
      if n2 < 0xDC00 || n2 > 0xDFFF then throw (.here .loneLeadingSurrogate i)
      return (encodeCodePoint ((n - 0xD800) * 0x400 + (n2 - 0xDC00) + 0x10000), i)

/-- The bytes of a string up to its closing quote, from index `i`, pushed onto `acc` last first;
    gives the index after the closing quote. --/
def readStringBytes (s : Input) (i : Nat) (acc : List UInt8) : Read (List UInt8) :=
  if h : i < s.size then
    let b := s[i]
    if b == 34 then .ok (acc.reverse, i + 1)
    else if b == 92 then
      match peek s (i + 1) with
      | none => .error (.here .eofWhileParsingString (i + 1))
      | some e =>
        let simple : Option UInt8 :=
          if e == 34 then some 34 else if e == 92 then some 92 else if e == 47 then some 47
          else if e == 98 then some 8 else if e == 102 then some 12 else if e == 110 then some 10
          else if e == 114 then some 13 else if e == 116 then some 9 else none
        match simple with
        | some c => readStringBytes s (i + 2) (c :: acc)
        | none =>
          if e == 117 then
            match readUnicodeEscape s (i + 2) with
            | .ok (bytes, j) =>
              if i < j then readStringBytes s j (bytes.reverse ++ acc)
              else .error (.here .invalidEscape j)
            | .error f => .error f
          else .error (.here .invalidEscape (i + 2))
    else if b < 32 then .error (.here .controlCharacter (i + 1))
    else readStringBytes s (i + 1) (b :: acc)
  else .error (.here .eofWhileParsingString s.size)
termination_by s.size - i
decreasing_by all_goals omega

/-- A string, from the index after its opening quote. --/
def readString (s : Input) (i : Nat) : Except Fault (String × Nat) := do
  let (bytes, j) ← readStringBytes s i []
  return ((String.fromUTF8? (ByteArray.mk bytes.toArray)).getD "", j)

/-! ### Numbers -/

/-- A number as the reader sees it. --/
inductive Number where
  | unsigned (n : Nat)
  | negative (n : Nat)
  | float (x : Float)

/-- The powers of ten that a double holds exactly enough, `1e0` to `1e308`. --/
def pow10 (k : Nat) : Float := Float.ofScientific 1 false k

/-- Scales a significand by a power of ten in double arithmetic, dividing in steps of `1e308`
    when the power is too small; too large a value is out of range. --/
def scaleFloat (positive : Bool) (significand : Nat) (exponent : Int) (i : Nat) : Except Fault Float :=
  let f := significand.toFloat
  let r : Except Fault Float :=
    if exponent ≥ 0 then
      if exponent.toNat ≤ 308 then
        let g := f * pow10 exponent.toNat
        if g.isInf then .error (.here .numberOutOfRange i) else .ok g
      else if f == 0 then .ok f else .error (.here .numberOutOfRange i)
    else
      let e := exponent.natAbs
      if e ≤ 308 then .ok (f / pow10 e)
      else
        let rec down : Nat → Float → Nat → Float
          | 0, g, _ => g
          | fuel + 1, g, k =>
            if g == 0 then g
            else if k ≤ 308 then g / pow10 k
            else down fuel (g / pow10 308) (k - 308)
        .ok (down (e / 308 + 1) f e)
  r.map fun g => if positive then g else -g

/-- The largest exponent a reader keeps, that of a signed 32-bit word. --/
def exponentMax : Nat := 2147483647

/-- Adds exponent digits to `acc` while it stays at most `exponentMax`; on the digit that would
    pass it, gives how many digits were read, that one included. --/
def accumulateExponent : List Nat → Nat → Nat → Except Nat Nat
  | [], acc, _ => .ok acc
  | d :: ds, acc, n =>
    if 10 * acc + d > exponentMax then .error (n + 1)
    else accumulateExponent ds (10 * acc + d) (n + 1)

/-- An exponent clamped to a signed 32-bit word. --/
def clampExponent (e : Int) : Int := max (-(exponentMax : Int) - 1) (min e exponentMax)

/-- The digits of an exponent after `e`, with its sign, from index `i`. An exponent too large for
    a 32-bit word is out of range for a nonzero number with a positive exponent; otherwise the
    rest of its digits are skipped and the number is zero. --/
def readExponent (s : Input) (positive : Bool) (significand : Nat) (start : Int) (i : Nat) :
    Read Number :=
  let (expPositive, i) : Bool × Nat := match peek s i with
    | some 43 => (true, i + 1)
    | some 45 => (false, i + 1)
    | _ => (true, i)
  match peek s i with
  | none => .error (.here .eofWhileParsingValue i)
  | some c =>
    if c < 48 || c > 57 then .error (.here .invalidNumber (i + 1))
    else
      let digits := (s.toList.drop (i + 1)).takeWhile fun b => 48 ≤ b && b ≤ 57
      let j := i + 1 + digits.length
      match accumulateExponent (digits.map (fun b => b.toNat - 48)) (c.toNat - 48) 0 with
      | .error read =>
        if significand ≠ 0 && expPositive then .error (.here .numberOutOfRange (i + 1 + read))
        else .ok (.float (if positive then 0.0 else -0.0), j)
      | .ok exp =>
        let final : Int := clampExponent (if expPositive then start + exp else start - exp)
        match scaleFloat positive significand final j with
        | .ok f => .ok (.float f, j)
        | .error e => .error e

/-- The fraction after a point, from the index of the point. --/
def readFraction (s : Input) (positive : Bool) (significand : Nat) (start : Int) (i : Nat) :
    Read Number :=
  let digits := (s.toList.drop (i + 1)).takeWhile fun b => 48 ≤ b && b ≤ 57
  let j := i + 1 + digits.length
  if digits.isEmpty then
    match peek s j with
    | some _ => .error (Fault.ahead s .invalidNumber j)
    | none => .error (Fault.ahead s .eofWhileParsingValue j)
  else
    -- digits join the significand while it fits a 64-bit word; later ones are dropped
    let (sig, added, _) := digits.foldl (fun (acc : Nat × Nat × Bool) d =>
      let (sig, n, full) := acc
      let next := 10 * sig + (d.toNat - 48)
      if full || next ≥ Nat.pow 2 64 then (sig, n, true) else (next, n + 1, false)) (significand, 0, false)
    let exp := start - added
    match peek s j with
    | some 101 | some 69 => readExponent s positive sig exp (j + 1)
    | _ => (scaleFloat positive sig exp j).map fun f => (.float f, j)

/-- A number after its sign, from index `i`. --/
def readNumber (s : Input) (positive : Bool) (i : Nat) : Read Number :=
  match peek s i with
  | none => .error (.here .eofWhileParsingValue i)
  | some c =>
    if c == 48 then
      match peek s (i + 1) with
      | some d =>
        if 48 ≤ d && d ≤ 57 then .error (Fault.ahead s .invalidNumber (i + 1))
        else finish 0 0 (i + 1)
      | none => finish 0 0 (i + 1)
    else if 49 ≤ c && c ≤ 57 then
      let digits := (s.toList.drop i).takeWhile fun b => 48 ≤ b && b ≤ 57
      let value := digits.foldl (fun a d => 10 * a + (d.toNat - 48)) 0
      let j := i + digits.length
      if value < Nat.pow 2 64 then finish value 0 j
      else
        -- only the leading digits that fit a 64-bit word count; the rest only scale
        let kept := (List.range (digits.length + 1)).reverse.find? fun k =>
          (digits.take k).foldl (fun a d => 10 * a + (d.toNat - 48)) 0 < Nat.pow 2 64
        let k := kept.getD 0
        finish ((digits.take k).foldl (fun a d => 10 * a + (d.toNat - 48)) 0) (digits.length - k) j
    else .error (.here .invalidNumber (i + 1))
where
  /-- The end of a number: a fraction, an exponent or nothing. --/
  finish (significand : Nat) (exp : Nat) (j : Nat) : Read Number :=
    match peek s j with
    | some 46 => readFraction s positive significand exp j
    | some 101 | some 69 => readExponent s positive significand exp (j + 1)
    | _ =>
      if exp > 0 then (scaleFloat positive significand exp j).map fun f => (.float f, j)
      else if positive then .ok (.unsigned significand, j)
      else if significand = 0 then .ok (.float (-0.0), j)
      else if significand ≤ Nat.pow 2 63 then .ok (.negative significand, j)
      else .ok (.float (-(significand.toFloat)), j)

/-! ### Values of the wrong kind -/

/-- How a value of the wrong kind is named in a fault. --/
def Number.describe : Number → String
  | .unsigned n => "integer \x60" ++ toString n ++ "\x60"
  | .negative n => "integer \x60-" ++ toString n ++ "\x60"
  | .float x => "floating point \x60" ++ shortestText x ++ "\x60"

/-- Reads the value at `i` only to name it in a fault saying that `expected` was wanted there. --/
def wrongKind (s : Input) (i : Nat) (expected : String) : Fault :=
  let invalid (what : String) (j : Nat) : Fault :=
    ({ text := "invalid type: " ++ what ++ ", expected " ++ expected } : Fault).fix j
  match peek s i with
  | some 110 => match readIdent s (bytesOf "ull") (i + 1) with
    | .ok j => invalid "null" j
    | .error f => f
  | some 116 => match readIdent s (bytesOf "rue") (i + 1) with
    | .ok j => invalid "boolean \x60true\x60" j
    | .error f => f
  | some 102 => match readIdent s (bytesOf "alse") (i + 1) with
    | .ok j => invalid "boolean \x60false\x60" j
    | .error f => f
  | some 45 => match readNumber s false (i + 1) with
    | .ok (n, j) => invalid n.describe j
    | .error f => f
  | some 34 => match readString s (i + 1) with
    | .ok (t, j) => invalid ("string " ++ Text.quote t) j
    | .error f => f
  | some 91 => invalid "sequence" i
  | some 123 => invalid "map" i
  | some c =>
    if 48 ≤ c && c ≤ 57 then
      match readNumber s true i with
      | .ok (n, j) => invalid n.describe j
      | .error f => f
    else Fault.ahead s .expectedSomeValue i
  | none => Fault.ahead s .expectedSomeValue i

end Json
end LiveMigration
