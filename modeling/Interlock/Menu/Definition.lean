import Interlock.Log
import Interlock.Menu.Line
import Interlock.Number.Word
import Interlock.Text.Blank
import Interlock.Text.Lines
import Interlock.Text.Utf8

namespace Interlock.Menu

open Interlock.Text Interlock.Number

/-- The most bytes of a line of a definition; longer lines are ignored. -/
def maxLineLength : Nat := 128

/-- What one line of a definition says. -/
inductive Directive where
  | label (text : String)
  | onlyIf (c : Condition) (expected : Bool)
  | isTitle
  | notSelectable
  /-- An action, or `none` for one that is malformed. -/
  | action (a : Option Action)
  deriving DecidableEq

namespace Directive

/-- Takes a directive into a line, where it replaces an earlier one for the same
    thing. -/
def apply (line : Line) : Directive → Line
  | label text => { line with label := text }
  | onlyIf c expected =>
    { line with expected := fun other => if other = c then some expected else line.expected other }
  | isTitle => { line with isTitle := true }
  | notSelectable => { line with selectable := false }
  | action a => { line with action := a }

end Directive

/-- The greatest number of a process state; larger ones stand for it. -/
def greatestRaw : Nat := 255

/-- The two directories of a file selection. -/
def fileSelect? (param : String) : Option Action :=
  match words param with
  | start :: returnMenu :: _ => some (.fileSelect start returnMenu)
  | _ => none

/-- A file selection without both directories is reported. -/
def fileSelectRecords (param : String) : List LogRecord :=
  if (fileSelect? param).isSome then []
  else [⟨.warn, "file-select needs a start directory and a return menu"⟩]

/-- The action that a directive describes. -/
def action? (text : String) : Option Action :=
  let (kind, param) := cutWord text
  match fold kind with
  | "goto-menu" => if param = "" then none else some (.gotoMenu param)
  | "run-command" => if param = "" then none else some (.runCommand param)
  | "display-watch-screen" => some .gotoWatch
  | "file-select" => fileSelect? param
  | "state" => (Word.ofText? Word.greatest32 param).map fun n => .setState (min n greatestRaw)
  | _ => none

/-- What reading an action writes to the log. -/
def actionRecords (text : String) : List LogRecord :=
  if (action? text).isSome then []
  else
    let (kind, param) := cutWord text
    match fold kind with
    | "file-select" => fileSelectRecords param
    | "state" => [⟨.warn, s!"menu action 'state' needs a number, got '{param}'"⟩]
    | _ => [⟨.warn, s!"unsupported menu action '{text}'"⟩]

/-- The text after a given start. -/
def textAfter? (start text : String) : Option String :=
  if start.toList.isPrefixOf text.toList then
    some (String.ofList (text.toList.drop start.toList.length))
  else none

/-- A flag is set by a value that starts with the digit one. -/
def flagOf (value : String) : Bool :=
  value.toList.head? = some '1'

/-- The directive with the given name and what follows it. Labels in other
    languages and unknown names have no directive. -/
def directive? (language name rest : String) : Option Directive :=
  if name = "label-" ++ language then some (.label rest)
  else if (textAfter? "label-" name).isSome then none
  else
    match textAfter? "only-if-" name with
    | some condition => (Condition.ofDirective? condition).map fun c => .onlyIf c (flagOf rest)
    | none =>
      match name with
      | "is-title" => some .isTitle
      | "not-selectable" => some .notSelectable
      | "action" => some (.action (action? rest))
      | "file-select" => some (.action (fileSelect? rest))
      | _ => none

/-- What reading a directive writes to the log. Labels in other languages are
    passed over in silence. -/
def directiveRecords (language name rest : String) : List LogRecord :=
  if name = "label-" ++ language || (textAfter? "label-" name).isSome then []
  else
    match textAfter? "only-if-" name with
    | some condition =>
      if (Condition.ofDirective? condition).isSome then []
      else [⟨.warn, s!"unknown menu predicate '{name}'"⟩]
    | none =>
      match name with
      | "is-title" | "not-selectable" => []
      | "action" => actionRecords rest
      | "file-select" => fileSelectRecords rest
      | _ => [⟨.warn, s!"unknown menu directive '{name}'"⟩]

/-- The text of a line without blanks around; `none` for a line that says
    nothing, because it is too long, blank, or a comment. -/
def lineText? (bytes : List UInt8) : Option String :=
  if maxLineLength < bytes.length then none
  else
    let text := trim (Utf8.decodeLossy bytes)
    if text = "" || text.toList.head? = some '#' then none else some text

/-- The lines of a file, each without one carriage return at its end. -/
def rawLines (bytes : List UInt8) : List (List UInt8) :=
  (splitAll 10 bytes).map (dropOneEnd 13)

/-- The directive of a line of a definition. -/
def lineDirective? (language : String) (bytes : List UInt8) : Option Directive :=
  (lineText? bytes).bind fun text => directive? language (cutWord text).1 (cutWord text).2

/-- What reading a line writes to the log. -/
def lineRecords (language : String) (bytes : List UInt8) : List LogRecord :=
  if maxLineLength < bytes.length then [⟨.warn, s!"menu line of {bytes.length} bytes discarded"⟩]
  else
    match lineText? bytes with
    | none => []
    | some text => directiveRecords language (cutWord text).1 (cutWord text).2

/-- The directives of a file in order. -/
def directives (language : String) (bytes : List UInt8) : List Directive :=
  (rawLines bytes).filterMap (lineDirective? language)

/-- Reads a definition, a file that describes one menu line, with the labels of
    a language. It has one directive on each of its lines, and of directives for
    the same thing the last one counts. Directives that cannot be understood are
    reported and have no effect. -/
def Line.ofBytes (language : String) (bytes : List UInt8) : Line :=
  (directives language bytes).foldl Directive.apply {}

/-- What reading a definition writes to the log. -/
def definitionRecords (language : String) (bytes : List UInt8) : List LogRecord :=
  (rawLines bytes).flatMap (lineRecords language)

end Interlock.Menu
