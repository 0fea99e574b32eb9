import Interlock.Text.Blank

namespace Interlock.Number

open Interlock.Text

/-- A decimal numeral as written in a document, digit by digit. `fraction` is
    empty when there is no point, and `exponent` is absent when there is no
    exponent mark. -/
structure Numeral where
  negative : Bool := false
  whole : List Char
  fraction : List Char := []
  exponent : Option (Bool × List Char) := none
  deriving DecidableEq, Inhabited

namespace Numeral

/-- The exponent mark and what follows it: a sign, `true` for minus, and digits. -/
def exponent? : List Char → Option (Option (Bool × List Char))
  | [] => some none
  | mark :: rest =>
    if mark == 'e' || mark == 'E' then
      let (minus, digits) : Bool × List Char :=
        match rest with
        | '+' :: ds => (false, ds)
        | '-' :: ds => (true, ds)
        | ds => (false, ds)
      if digits.isEmpty || !digits.all isDigit then none else some (some (minus, digits))
    else none

/-- The part of a numeral after its sign. A whole part has no leading zero, and
    a point and an exponent mark need digits after them. -/
def unsigned? (negative : Bool) (cs : List Char) : Option Numeral :=
  let whole := cs.takeWhile isDigit
  let rest := cs.dropWhile isDigit
  if whole.isEmpty || (whole.head? == some '0' && whole.length ≠ 1) then none
  else
    match rest with
    | '.' :: rest =>
      let fraction := rest.takeWhile isDigit
      if fraction.isEmpty then none
      else (exponent? (rest.dropWhile isDigit)).map fun e => ⟨negative, whole, fraction, e⟩
    | rest => (exponent? rest).map fun e => ⟨negative, whole, [], e⟩

/-- The numeral that characters spell. -/
def ofChars? : List Char → Option Numeral
  | '-' :: cs => unsigned? true cs
  | cs => unsigned? false cs

/-- A number in decimal digits. -/
def ofNat (n : Nat) : Numeral :=
  { whole := Nat.toDigits 10 n }

/-- The characters of a numeral. -/
def toChars (n : Numeral) : List Char :=
  (if n.negative then ['-'] else []) ++ n.whole ++
    (if n.fraction.isEmpty then [] else '.' :: n.fraction) ++
    match n.exponent with
    | none => []
    | some (minus, digits) => 'e' :: (if minus then ['-'] else []) ++ digits

/-- Whether the numeral has neither a point nor an exponent mark. -/
def isWhole (n : Numeral) : Bool :=
  n.fraction.isEmpty && n.exponent.isNone

/-- The value of the digits before the point. -/
def magnitude (n : Numeral) : Nat :=
  digitsValue 0 n.whole

/-- A whole numeral without a sign that is at most `greatest`. -/
def toNat? (greatest : Nat) (n : Numeral) : Option Nat :=
  if n.isWhole && !n.negative && n.magnitude ≤ greatest then some n.magnitude else none

/-- A whole numeral, with or without a sign. -/
def toInt? (n : Numeral) : Option Int :=
  if n.isWhole then some (if n.negative then -(n.magnitude : Int) else n.magnitude) else none

/-- The power of ten that the exponent mark names. -/
def exponentValue (n : Numeral) : Int :=
  match n.exponent with
  | none => 0
  | some (minus, digits) =>
    if minus then -(digitsValue 0 digits : Int) else digitsValue 0 digits

end Numeral

end Interlock.Number
