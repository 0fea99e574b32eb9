import Interlock.Text.Blank

namespace Interlock.Number.Word

open Interlock.Text

/-- The greatest number of 16 bits. -/
def greatest16 : Nat := 0xffff

/-- The greatest number of 32 bits. -/
def greatest32 : Nat := 0xffffffff

/-- The greatest number of 64 bits. -/
def greatest64 : Nat := 0xffffffffffffffff

/-- Reads digits, which may follow a plus sign, as a number up to a bound. -/
def ofText? (greatest : Nat) (text : String) : Option Nat :=
  let digits :=
    match text.toList with
    | '+' :: rest => rest
    | cs => cs
  (digits? digits).filter (· ≤ greatest)

end Interlock.Number.Word
