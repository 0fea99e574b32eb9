import Interlock.Alarm.Escalator
import Interlock.Number.Word
import Interlock.Text.Blank

namespace Interlock

open Interlock.Text

/-- What a line of the console asks for. -/
inductive ConsoleCommand where
  /-- A command code with what followed it. -/
  | code (number : Nat) (rest : String)
  /-- The operator resumes the machine. -/
  | resume
  /-- A line that is not for the modules. -/
  | unknown (line : String)
  deriving DecidableEq, Inhabited

namespace ConsoleCommand

/-- The greatest command code. -/
def greatestCode : Nat := Number.Word.greatest16

/-- The code of a word: the letter `M` in either case and decimal digits. -/
def codeOf? (word : String) : Option Nat :=
  match word.toList with
  | c :: digits =>
    if c = 'M' ∨ c = 'm' then (digits? digits).filter (· ≤ greatestCode) else none
  | [] => none

/-- Reads a line without regard to blanks around it. A resume line is recognised
    before command codes, so that `M601` never reaches the modules as a code. -/
def parse (line : String) : ConsoleCommand :=
  let line := trim line
  if isResumeLine line then .resume
  else
    let (word, rest) := cutWord line
    match codeOf? word with
    | some number => .code number rest
    | none => .unknown line

end ConsoleCommand

end Interlock
