namespace Interlock.Number

/-- A binary floating-point value as an exact number, `mantissa * 2 ^ exponent`. -/
structure Dyadic where
  mantissa : Nat
  exponent : Int
  deriving DecidableEq, Inhabited

/-- A binary format: digits of the mantissa, the least exponent of its last
    digit, and the exponent from which on powers of two are out of range. -/
structure Format where
  digits : Nat
  least : Int
  limit : Nat

/-- The single-precision format. -/
def Format.single : Format := ⟨24, -149, 128⟩

/-- The double-precision format. -/
def Format.double : Format := ⟨53, -1074, 1024⟩

/-- `num / den` rounded to a whole number; a half goes to the even neighbour. -/
def roundQuotient (num den : Nat) : Nat :=
  let q := num / den
  let twice := 2 * (num % den)
  if den < twice || (twice == den && q % 2 == 1) then q + 1 else q

/-- The quotient `num / den * 2 ^ (-exponent)` as a pair of whole numbers. -/
def scaleDown (num den : Nat) (exponent : Int) : Nat × Nat :=
  if exponent < 0 then (num * Nat.pow 2 (-exponent).toNat, den)
  else (num, den * Nat.pow 2 exponent.toNat)

/-- The greatest `e` with `2 ^ e ≤ num / den`, for positive arguments. -/
def floorLog2 (num den : Nat) : Int :=
  let guess : Int := (num.log2 : Int) - den.log2
  let (n, d) := scaleDown num den guess
  if n < d then guess - 1 else guess

/-- The nearest value of a format to `num / den`; `none` when that is out of
    range. -/
def Format.round (f : Format) (num den : Nat) : Option Dyadic :=
  if num == 0 || den == 0 then some ⟨0, f.least⟩
  else
    let exponent := max f.least (floorLog2 num den - (f.digits - 1 : Nat))
    let (n, d) := scaleDown num den exponent
    let q := roundQuotient n d
    let result : Dyadic := if q == Nat.pow 2 f.digits then ⟨q / 2, exponent + 1⟩ else ⟨q, exponent⟩
    if result.mantissa ≠ 0 && f.limit ≤ (result.mantissa.log2 : Int) + result.exponent then none
    else some result

namespace Dyadic

/-- The number as a quotient. -/
def toQuotient (x : Dyadic) : Nat × Nat :=
  scaleDown x.mantissa 1 (-x.exponent)

/-- Comparison of the two numbers. -/
def le (x y : Dyadic) : Bool :=
  let common := min x.exponent y.exponent
  x.mantissa * Nat.pow 2 (x.exponent - common).toNat ≤
    y.mantissa * Nat.pow 2 (y.exponent - common).toNat

end Dyadic

/-- A product rounded into a format. -/
def Format.mul (f : Format) (x y : Dyadic) : Option Dyadic :=
  let (n, d) := scaleDown (x.mantissa * y.mantissa) 1 (-(x.exponent + y.exponent))
  f.round n d

/-- A quotient rounded into a format. -/
def Format.div (f : Format) (x y : Dyadic) : Option Dyadic :=
  let (n, d) := scaleDown x.mantissa y.mantissa (y.exponent - x.exponent)
  f.round n d

end Interlock.Number
