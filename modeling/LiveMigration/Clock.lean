/-! # Clocks and the local time

Timestamps are read from one of two clocks of the kernel, the monotonic clock and the wall clock,
each known to the kernel by its id. A reading is seconds and nanoseconds; as one number it is counted
in nanoseconds, a part below zero counting as none, and in milliseconds it is rounded down.

Log lines are stamped with the local time, broken down as the C library gives it (years since 1900,
months from 0), and written `YYYY-MM-DDTHH:MM:SS.nnnnnnnnn`: the year as it is, every other field
with leading zeros to its width, after its sign. A time whose fields lie in their ranges, in a year of
four digits, is written in 29 characters (`length_render`). -/

namespace LiveMigration

/-- Nanoseconds in a second. --/
def nanosPerSecond : Nat := 1000000000

/-- Nanoseconds in a millisecond. --/
def nanosPerMillisecond : Nat := 1000000

/-- The clocks a timestamp is read from. --/
inductive ClockType where
  | monotonic
  | real
deriving DecidableEq, Repr

/-- The kernel's id of a clock. --/
def ClockType.clockId : ClockType → Nat
  | .monotonic => 1
  | .real => 0

/-- A reading of a clock: seconds and nanoseconds. --/
structure Timespec where
  sec : Int
  nsec : Int
deriving DecidableEq, Repr

namespace Timespec

/-- The reading in nanoseconds; a part below zero counts as none. --/
def nanos (t : Timespec) : Nat := t.sec.toNat * nanosPerSecond + t.nsec.toNat

/-- The reading in whole milliseconds. --/
def millis (t : Timespec) : Nat := t.nanos / nanosPerMillisecond

end Timespec

/-- A number in decimal, its sign first, with zeros after the sign up to `width` characters. --/
def zeroPadded (width : Nat) (n : Int) : String :=
  let digits := Nat.toDigits 10 n.natAbs
  let sign := if n < 0 then ['-'] else []
  String.ofList (sign ++ List.replicate (width - sign.length - digits.length) '0' ++ digits)

/-- A number that is not below zero is written in its digits, after zeros up to `width`. --/
theorem length_zeroPadded {width : Nat} {n : Int} (hn : 0 ≤ n) :
    (zeroPadded width n).length = max width (Nat.toDigits 10 n.natAbs).length := by
  have hsign : ¬n < 0 := Int.not_lt.mpr hn
  simp only [zeroPadded, hsign, if_false, String.length_ofList, List.length_append, List.length_nil,
    List.length_replicate, Nat.sub_zero, List.nil_append]
  omega

/-- A local time broken down as the C library gives it: seconds, minutes, hours, the day of the
    month, months since January, years since 1900, and nanoseconds into the second. --/
structure LocalTime where
  sec : Int
  min : Int
  hour : Int
  mday : Int
  mon : Int
  year : Int
  nsec : Int
deriving DecidableEq, Repr

namespace LocalTime

/-- `YYYY-MM-DDTHH:MM:SS.nnnnnnnnn`. --/
def render (t : LocalTime) : String :=
  zeroPadded 0 (t.year + 1900) ++ "-" ++ zeroPadded 2 (t.mon + 1) ++ "-" ++ zeroPadded 2 t.mday ++ "T" ++
    zeroPadded 2 t.hour ++ ":" ++ zeroPadded 2 t.min ++ ":" ++ zeroPadded 2 t.sec ++ "." ++ zeroPadded 9 t.nsec

/-- Every field lies in its range, and the year has four digits. --/
structure InRange (t : LocalTime) : Prop where
  year : 1000 ≤ t.year + 1900 ∧ t.year + 1900 ≤ 9999
  mon : 0 ≤ t.mon ∧ t.mon ≤ 11
  mday : 1 ≤ t.mday ∧ t.mday ≤ 31
  hour : 0 ≤ t.hour ∧ t.hour ≤ 23
  min : 0 ≤ t.min ∧ t.min ≤ 59
  sec : 0 ≤ t.sec ∧ t.sec ≤ 60
  nsec : 0 ≤ t.nsec ∧ t.nsec < 1000000000

/-- A field from zero up to 99 takes two characters. --/
theorem length_zeroPadded_two {n : Int} (h0 : 0 ≤ n) (h : n ≤ 99) : (zeroPadded 2 n).length = 2 := by
  have hd : (Nat.toDigits 10 n.natAbs).length ≤ 2 :=
    (Nat.length_toDigits_le_iff (by decide) (by decide)).mpr (by omega)
  rw [length_zeroPadded h0]
  omega

/-- A year of four digits is written in four characters. --/
theorem length_year {y : Int} (h : 1000 ≤ y ∧ y ≤ 9999) : (zeroPadded 0 y).length = 4 := by
  have hle : (Nat.toDigits 10 y.natAbs).length ≤ 4 :=
    (Nat.length_toDigits_le_iff (by decide) (by decide)).mpr (by omega)
  have hgt : ¬(Nat.toDigits 10 y.natAbs).length ≤ 3 :=
    mt (Nat.length_toDigits_le_iff (by decide) (by decide)).mp (by omega)
  rw [length_zeroPadded (by omega)]
  omega

/-- A time in range is written in 29 characters. --/
theorem length_render {t : LocalTime} (h : t.InRange) : t.render.length = 29 := by
  obtain ⟨hy, hmo, hd, hh, hmi, hs, hn⟩ := h
  have hnsec : (zeroPadded 9 t.nsec).length = 9 := by
    have hdigits : (Nat.toDigits 10 t.nsec.natAbs).length ≤ 9 :=
      (Nat.length_toDigits_le_iff (by decide) (by decide)).mpr (by omega)
    rw [length_zeroPadded hn.1]
    omega
  simp only [render, String.length_append, length_year hy, hnsec,
    length_zeroPadded_two (n := t.mon + 1) (by omega) (by omega), length_zeroPadded_two (n := t.mday) (by omega) (by omega),
    length_zeroPadded_two (n := t.hour) (by omega) (by omega), length_zeroPadded_two (n := t.min) (by omega) (by omega),
    length_zeroPadded_two (n := t.sec) (by omega) (by omega)]
  rfl

example : (⟨30, 15, 10, 4, 6, 119, 123456789⟩ : LocalTime).render = "2019-07-04T10:15:30.123456789" := by decide

end LocalTime

end LiveMigration
