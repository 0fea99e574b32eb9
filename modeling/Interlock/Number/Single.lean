import Interlock.Number.Numeral
import Interlock.Number.Rounding
import Interlock.Number.Word

namespace Interlock.Number

open Interlock.Text

/-- A value of the single-precision format that is a number or an infinity;
    `none` stands for the infinite magnitude. -/
structure Single where
  negative : Bool := false
  magnitude : Option Dyadic
  deriving DecidableEq, Inhabited

namespace Single

/-- A count rounded to the nearest single-precision value. -/
def ofNat (n : Nat) : Single :=
  ⟨false, Format.single.round n 1⟩

/-- Whether a value is one of the two zeros. -/
def isZero (x : Single) : Bool :=
  match x.magnitude with
  | none => false
  | some m => m.mantissa == 0

/-- The order of magnitudes, infinity being the greatest. -/
def magnitudeLe : Option Dyadic → Option Dyadic → Bool
  | _, none => true
  | none, some _ => false
  | some x, some y => x.le y

/-- The order of values; the two zeros are equal. -/
def le (x y : Single) : Bool :=
  if x.isZero && y.isZero then true
  else if x.negative then
    if y.negative then magnitudeLe y.magnitude x.magnitude else true
  else if y.negative then false
  else magnitudeLe x.magnitude y.magnitude

/-- Extends a significand by leading digits as long as it fits 64 bits; the
    second component is the number of digits left out. -/
def absorb (significand : Nat) : List Char → Nat × Nat
  | [] => (significand, 0)
  | c :: cs =>
    let next := 10 * significand + (c.toNat - '0'.toNat)
    if next ≤ Word.greatest64 then absorb next cs else (significand, cs.length + 1)

/-- The leading digits of a numeral that fit 64 bits, and the power of ten that
    scales them. -/
def significand (n : Numeral) : Nat × Int :=
  let (whole, dropped) := absorb 0 n.whole
  let (all, unused) := absorb whole n.fraction
  (all, dropped - (n.fraction.length - unused : Nat) + n.exponentValue)

/-- The greatest power of ten in the range of double precision. -/
def powerLimit : Nat := 308

/-- `significand * 10 ^ scale` in double precision, the significand and the
    power each rounded before they meet; `none` when that is out of range. A
    scale below the limit leaves nothing that single precision could tell from
    zero. -/
def scaled (significand : Nat) (scale : Int) : Option Dyadic := do
  if significand == 0 || scale < -powerLimit then return ⟨0, 0⟩
  let digits ← Format.double.round significand 1
  if scale < 0 then
    Format.double.div digits (← Format.double.round (Nat.pow 10 (-scale).toNat) 1)
  else if scale ≤ powerLimit then
    Format.double.mul digits (← Format.double.round (Nat.pow 10 scale.toNat) 1)
  else none

/-- Narrows an exact number to single precision, where too large a number
    becomes infinite. -/
def narrow (negative : Bool) (x : Dyadic) : Single :=
  let (num, den) := x.toQuotient
  ⟨negative, Format.single.round num den⟩

/-- Whether a whole numeral fits a word: 64 bits without a sign, or a negative
    64-bit integer. -/
def fitsWord (n : Numeral) : Bool :=
  n.isWhole &&
    if n.negative then 0 < n.magnitude && n.magnitude ≤ Word.greatest64 / 2 + 1
    else n.magnitude ≤ Word.greatest64

/-- The single-precision value of a numeral. Whole numerals that fit a word are
    rounded once; every other numeral goes through double precision, and is
    refused when it is out of range there. -/
def ofNumeral? (n : Numeral) : Option Single :=
  if fitsWord n then some ⟨n.negative, Format.single.round n.magnitude 1⟩
  else
    let (digits, scale) := significand n
    (scaled digits scale).map (narrow n.negative)

/-- The numbers that round to a dyadic of the format, in quarters of its last
    digit: how far they reach below and above, and whether the ends belong to
    them. A power of two has closer neighbours below. -/
def reach (m : Dyadic) : Nat × Nat × Bool :=
  let closer :=
    m.mantissa == Nat.pow 2 (Format.single.digits - 1) && Format.single.least < m.exponent
  (if closer then 1 else 2, 2, m.mantissa % 2 == 0)

/-- A digit string with its power of ten: `digits * 10 ^ scale`. -/
structure Decimal where
  digits : Nat
  scale : Int

/-- The two neighbours of `m` on the grid of multiples of `10 ^ scale`: of those
    that round to `m` the nearer one, and the upper one when they are equally
    near. -/
def onGrid? (m : Dyadic) (scale : Int) : Option Decimal :=
  let (below, above, closed) := reach m
  -- Everything is counted in units of a quarter of the last digit of `m`, divided by `den`.
  let exponent := m.exponent - 2
  let (unit, den) : Nat × Nat :=
    if scale < 0 then (1, Nat.pow 10 (-scale).toNat) else (Nat.pow 10 scale.toNat, 1)
  let (unit, den) := scaleDown unit den exponent
  let value := 4 * m.mantissa * den
  let lower := value / unit
  let downGap := value - lower * unit
  let upGap := (lower + 1) * unit - value
  let fits (gap room : Nat) : Bool := if closed then gap ≤ room * den else gap < room * den
  let down := fits downGap below && 0 < lower
  let up := fits upGap above
  if up && (!down || upGap ≤ downGap) then some ⟨lower + 1, scale⟩
  else if down then some ⟨lower, scale⟩
  else none

/-- Tries ever finer grids and takes the first that has a hit. -/
def shortestFrom (m : Dyadic) : Nat → Int → Decimal
  | 0, scale => (onGrid? m scale).getD ⟨0, 0⟩
  | steps + 1, scale =>
    match onGrid? m scale with
    | some d => d
    | none => shortestFrom m steps (scale - 1)

/-- The fewest decimal digits that round to `m`, which is positive. No power of
    ten beyond the coarsest grid lies near a single-precision value, and nine
    digits always suffice. -/
def shortest (m : Dyadic) : Decimal :=
  let (num, den) := m.toQuotient
  let coarsest := (floorLog2 num den) * 3 / 10 + 2
  shortestFrom m 16 coarsest

/-- Drops the zeros that end a positive digit string. -/
def dropZeros : Nat → Decimal → Decimal
  | 0, d => d
  | steps + 1, d =>
    if d.digits ≠ 0 && d.digits % 10 == 0 then dropZeros steps ⟨d.digits / 10, d.scale + 1⟩ else d

/-- Positional notation without an exponent; whole numbers have no point. -/
def positional (d : Decimal) : List Char :=
  let digits := Nat.toDigits 10 d.digits
  if 0 ≤ d.scale then digits ++ List.replicate d.scale.toNat '0'
  else
    let places := (-d.scale).toNat
    if digits.length ≤ places then
      '0' :: '.' :: List.replicate (places - digits.length) '0' ++ digits
    else
      digits.take (digits.length - places) ++ '.' :: digits.drop (digits.length - places)

/-- The shortest decimal text that reads back as the value. -/
def toText (x : Single) : String :=
  let sign := if x.negative then "-" else ""
  match x.magnitude with
  | none => sign ++ "inf"
  | some m =>
    if m.mantissa == 0 then sign ++ "0"
    else sign ++ String.ofList (positional (dropZeros 16 (shortest m)))

end Single

end Interlock.Number
