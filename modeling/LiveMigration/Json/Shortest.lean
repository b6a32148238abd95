import LiveMigration.Text.Decimal

/-! The shortest decimal text of a double. A finite double m·2^q stands for every real that rounds
    to it: the reals between the midpoints to its two neighbours, the midpoints included when m is
    even. Its text uses the fewest significant digits that name a decimal in that interval; of two
    such decimals the nearer one wins, and an exact tie goes to the even one. The digits are then
    laid out positionally from 1e-5 up to below 1e16, a whole number with `.0`; outside that
    range they get an exponent with its sign, as in `1e+16` or `1.5e-7`. All arithmetic is exact,
    on natural numbers. -/

namespace LiveMigration
namespace Json

/-- A nonnegative rational as numerator and denominator. --/
structure Ratio where
  num : Nat
  den : Nat

/-- `a ≤ b` for rationals with positive denominators. --/
def Ratio.le (a b : Ratio) : Bool := a.num * b.den ≤ b.num * a.den

/-- `a < b` for rationals with positive denominators. --/
def Ratio.lt (a b : Ratio) : Bool := a.num * b.den < b.num * a.den

/-- `c · 10^k` as a rational. --/
def gridPoint (c : Nat) (k : Int) : Ratio :=
  if k ≥ 0 then ⟨c * Nat.pow 10 k.toNat, 1⟩ else ⟨c, Nat.pow 10 k.natAbs⟩

/-- `⌊v / 10^k⌋`. --/
def gridFloor (v : Ratio) (k : Int) : Nat :=
  if k ≥ 0 then v.num / (v.den * Nat.pow 10 k.toNat) else v.num * Nat.pow 10 k.natAbs / v.den

/-- The decimal exponent of a positive rational: the `e` with `10^e ≤ v < 10^(e+1)`. --/
def decimalExponent (v : Ratio) : Int :=
  if v.num ≥ v.den then ((Nat.toDigits 10 (v.num / v.den)).length : Int) - 1
  else
    let t := ((List.range 400).find? fun t => v.num * Nat.pow 10 (t + 1) ≥ v.den).getD 0
    (-1 : Int) - t

/-- The shortest digits of a positive double given by its mantissa `m`, its binary exponent `q`, and
    whether its lower neighbour is nearer (at the start of a binade): digits `c` and exponent `k`
    with value `c · 10^k`. --/
def shortestDigits (m : Nat) (q : Int) (lowerCloser : Bool) : Nat × Int :=
  let scale (n : Nat) (shift : Int) : Ratio :=
    if shift ≥ 0 then ⟨n * Nat.pow 2 shift.toNat, 1⟩ else ⟨n, Nat.pow 2 shift.natAbs⟩
  let v := scale m q
  let lo := if lowerCloser then scale (4 * m - 1) (q - 2) else scale (2 * m - 1) (q - 1)
  let hi := scale (2 * m + 1) (q - 1)
  let inclusive := m % 2 = 0
  let inside (p : Ratio) : Bool :=
    if inclusive then lo.le p && p.le hi else lo.lt p && p.lt hi
  let e := decimalExponent v
  let pick (d : Nat) : Option (Nat × Int) :=
    let k := e - d + 1
    let c := gridFloor v k
    let down := gridPoint c k
    let up := gridPoint (c + 1) k
    let downOk := inside down
    let upOk := inside up && !(down.le v && v.le down)
    if downOk && upOk then
      -- the nearer of the two; a tie goes to the even digits
      let dDown : Ratio := ⟨v.num * down.den - down.num * v.den, v.den * down.den⟩
      let dUp : Ratio := ⟨up.num * v.den - v.num * up.den, v.den * up.den⟩
      if dDown.lt dUp then some (c, k) else if dUp.lt dDown then some (c + 1, k)
      else if c % 2 = 0 then some (c, k) else some (c + 1, k)
    else if downOk then some (c, k)
    else if upOk then some (c + 1, k)
    else none
  let found := (List.range 17).findSome? fun i => pick (i + 1)
  found.getD (m, q)

/-- Drops the zeros at the end of the digits, raising the exponent. --/
def trimZeros : Nat → Nat × Int → Nat × Int
  | 0, p => p
  | fuel + 1, (c, k) => if c ≠ 0 && c % 10 = 0 then trimZeros fuel (c / 10, k + 1) else (c, k)

/-- Lays out digits `c` with exponent `k`: positionally from 1e-5 up to below 1e16, else with
    a signed exponent. --/
def layOut (c : Nat) (k : Int) : String :=
  let ds := Nat.toDigits 10 c
  let len : Int := ds.length
  let kk := len + k
  let zeros (n : Nat) := String.ofList (List.replicate n '0')
  if 0 ≤ k && kk ≤ 16 then String.ofList ds ++ zeros k.toNat ++ ".0"
  else if 0 < kk && kk ≤ 16 then
    String.ofList (ds.take kk.toNat) ++ "." ++ String.ofList (ds.drop kk.toNat)
  else if -5 < kk && kk ≤ 0 then "0." ++ zeros kk.natAbs ++ String.ofList ds
  else
    let e := kk - 1
    let expText := (if 0 ≤ e then "+" else "-") ++ toString e.natAbs
    if ds.length = 1 then String.ofList ds ++ "e" ++ expText
    else String.ofList (ds.take 1) ++ "." ++ String.ofList (ds.drop 1) ++ "e" ++ expText

/-- The shortest text of a finite double. --/
def shortestText (x : Float) : String :=
  let bits : Nat := x.toBits.toNat
  let negative := bits ≥ Nat.pow 2 63
  let biased : Nat := bits / Nat.pow 2 52 % Nat.pow 2 11
  let fraction : Nat := bits % Nat.pow 2 52
  let sign := if negative then "-" else ""
  if biased = 0 && fraction = 0 then sign ++ "0.0"
  else
    let (m, q) : Nat × Int :=
      if biased = 0 then (fraction, -1074) else (fraction + Nat.pow 2 52, (biased : Int) - 1075)
    let (c, k) := shortestDigits m q (fraction = 0 && biased > 1)
    let (c, k) := trimZeros 20 (c, k)
    sign ++ layOut c k

end Json
end LiveMigration
