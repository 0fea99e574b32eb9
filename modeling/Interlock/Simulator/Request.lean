import Interlock.Number.Word
import Interlock.Text.Blank

namespace Interlock.Simulator

open Interlock.Text Interlock.Number

/-- A line of the operator to the simulator. -/
inductive Request where
  | nothing
  | quit
  /-- Sets a pin; any level but `1` means low. -/
  | setPin (pin level : String)
  /-- Sets a machine condition; any value but `1` means that it does not hold. -/
  | setFlag (name value : String)
  | openMenu
  | show
  /-- Clicks a line, unless the number cannot be read. -/
  | click (line : Option Nat)
  | scroll (delta : Option Int)
  | statusJson
  | status
  /-- A line for the controller. -/
  | line (text : String)
  deriving DecidableEq

namespace Request

/-- The distance from which on backward distances are out of range; forward ones
    end before it. -/
def leastDistance : Int := 0x80000000

/-- A distance: digits after an optional sign, in the range of 32 bits. -/
def distance? (text : String) : Option Int :=
  let value : Option Int :=
    match text.toList with
    | '+' :: rest => (digits? rest).map Int.ofNat
    | '-' :: rest => (digits? rest).map fun n => -(n : Int)
    | cs => (digits? cs).map Int.ofNat
  value.filter fun d => -leastDistance ≤ d && d < leastDistance

/-- Reads a line. What does not have the form of a request goes to the
    controller. -/
def parse (text : String) : Request :=
  match words text with
  | [] => .nothing
  | "quit" :: _ => .quit
  | "exit" :: _ => .quit
  | "set" :: pin :: level :: _ => .setPin pin level
  | "machine" :: name :: value :: _ => .setFlag name value
  | "menu" :: _ => .openMenu
  | "show" :: _ => .show
  | ["click", n] => .click (Word.ofText? Word.greatest64 n)
  | ["scroll", d] => .scroll (distance? d)
  | ["status", "--json"] => .statusJson
  | ["status"] => .status
  | _ => .line (trim text)

end Request

end Interlock.Simulator
