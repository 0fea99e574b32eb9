import Interlock.Menu.Directory
import Interlock.Number.Word
import Interlock.Panel

namespace Interlock.Menu

open Interlock.Text

/-- What the panel is showing. -/
inductive Screen where
  | menu
  | watch
  deriving DecidableEq, Inhabited

/-- The name of a screen in print. -/
def Screen.name : Screen → String
  | menu => "Menu"
  | watch => "Watch"

/-- The lights of the panel. -/
structure Lights where
  orange : Bool := false
  green : Bool := false
  deriving DecidableEq, Inhabited

/-- What the operator does with the menus: choose from them, or look for a job
    file. -/
inductive Mode where
  | menu
  /-- Browsing from `start`; a chosen file leads to `returnMenu`, the way up to `origin`. -/
  | browse (start returnMenu origin : String)
  deriving DecidableEq, Inhabited

/-- One line of the display. -/
inductive DisplayLine where
  /-- The way up. -/
  | up
  | blank
  | entry (label : String) (isTitle selectable : Bool)
  deriving DecidableEq, Inhabited

/-- The text of a line on the display. -/
def DisplayLine.label : DisplayLine → String
  | up => ".."
  | blank => ""
  | entry label _ _ => label

/-- What a click did. -/
inductive Outcome where
  | stayed
  | navigated
  | leftMenu
  | commandSent (command : String)
  | fileSelected (path : String)
  | stateRequested (raw : Nat)
  deriving DecidableEq, Inhabited

/-- A job file that was chosen, with its size. -/
structure Selection where
  path : String
  size : Nat
  deriving DecidableEq, Inhabited

/-- The operator's place in the menus. The operator is either in a menu, or
    browses the card for a job file. Line 0 is always the way up. -/
structure Navigator where
  root : String
  language : String
  /-- The directory on display. -/
  path : String
  /-- The line of the cursor. -/
  line : Nat := 0
  selection : Option Selection := none
  mode : Mode := .menu
  screen : Screen := .watch
  lights : Lights := {}
  deriving DecidableEq, Inhabited

namespace Navigator

/-- A navigator at the root, before the menu is opened. -/
def ofRoot (root language : String) : Navigator :=
  { root := trimDir root, language, path := trimDir root }

/-- Whether the operator looks for a job file. -/
def isBrowsing (n : Navigator) : Bool :=
  n.mode ≠ .menu

/-- The path of the selected job file. -/
def selected (n : Navigator) : Option String :=
  n.selection.map (·.path)

/-- What the lines of the current menu depend on. -/
def view (n : Navigator) (flags : MachineFlags) : View :=
  ⟨n.language, flags, n.selected⟩

/-- The menu on display, if there is one. -/
def currentMenu (n : Navigator) : Option String :=
  if n.screen = .menu && !n.isBrowsing then some n.path else none

/-- Back to the root, with nothing selected. -/
def reset (n : Navigator) : Navigator :=
  { n with path := n.root, line := 0, selection := none }

/-- Makes a directory the current one. Entering the root menu drops the
    selection. -/
def enter (n : Navigator) (dir : String) : Navigator :=
  if trimDir dir = n.root && !n.isBrowsing then n.reset
  else { n with path := trimDir dir, line := 0 }

/-- Entering a directory is logged under its trimmed path. -/
def enterRecords (dir : String) : List LogRecord :=
  [⟨.debug, s!"menu: entering {trimDir dir}"⟩]

/-- Enters a menu and puts it on display. -/
def showMenu (n : Navigator) (dir : String) : Navigator :=
  { enter { n with mode := .menu } dir with screen := .menu }

/-- Puts the root menu on display. -/
def openRoot (n : Navigator) : Traced Navigator :=
  ⟨n.showMenu n.root, { records := enterRecords n.root }⟩

/-- Leaves the menus for the watch screen, with nothing selected. -/
def leaveToWatch (n : Navigator) : Navigator :=
  { reset { n with mode := .menu } with screen := .watch }

instance : Panel Navigator where
  currentMenu := currentMenu
  showMenu dir n := n.showMenu dir
  setFaultIndicator fault n := { n with lights := ⟨fault, !fault⟩ }
  showRecords := enterRecords

/-- The directory above the current one. In a menu it does not leave the root. -/
def above (n : Navigator) : String :=
  let parent := parentOf n.path
  if n.isBrowsing || n.root.toList.isPrefixOf parent.toList then parent else n.root

/-- The way up. It ends browsing at the directory where that began, and leaves
    the menus at the root. -/
def goUp (n : Navigator) : Traced (Navigator × Outcome) :=
  match n.mode with
  | .browse start _ origin =>
    if n.path = start then
      ⟨(enter { n with mode := .menu } origin, .navigated), { records := enterRecords origin }⟩
    else ⟨(n.enter n.above, .navigated), { records := enterRecords n.above }⟩
  | .menu =>
    if n.path = n.root then ⟨(n.leaveToWatch, .leftMenu), {}⟩
    else ⟨(n.enter n.above, .navigated), { records := enterRecords n.above }⟩

/-- The number of lines of the current directory, with the way up. -/
def lineCount (n : Navigator) (card : Card) (flags : MachineFlags) :
    Traced (Except AccessFailure Nat) :=
  if n.isBrowsing then
    pure ((card.candidates n.path .jobs).map fun entries => entries.length + 1)
  else do
    return (← countShown card (n.view flags) n.path).map (· + 1)

/-- Replaces a mark of two characters by a text, from left to right. -/
def replaceMark (first second : Char) (text : List Char) : List Char → List Char
  | [] => []
  | [c] => [c]
  | c :: d :: rest =>
    if c = first && d = second then text ++ replaceMark first second text rest
    else c :: replaceMark first second text (d :: rest)

/-- A label with `*f` replaced by the name of the selected file, and then `*s`
    by its size. -/
def substitute (n : Navigator) (label : String) : String :=
  match n.selection with
  | none => label
  | some chosen =>
    let named := replaceMark '*' 'f' (baseName chosen.path).toList label.toList
    String.ofList (replaceMark '*' 's' (Nat.repr chosen.size).toList named)

/-- A job file or directory as a line. -/
def entryLine (entry : CardEntry) : DisplayLine :=
  .entry (if entry.isDirectory then entry.name ++ "/" else entry.name) false true

/-- A menu line with the marks of its label filled in. -/
def menuLine (n : Navigator) (line : Line) : DisplayLine :=
  .entry (n.substitute line.label) line.isTitle line.selectable

/-- The line in a place of the display. -/
def display (n : Navigator) (line : Nat) (card : Card) (flags : MachineFlags) :
    Traced (Except AccessFailure DisplayLine) :=
  if line = 0 then pure (.ok .up)
  else if n.isBrowsing then
    pure <| (card.candidates n.path .jobs).map fun entries =>
      (entries[line - 1]?).elim .blank entryLine
  else do
    return (← nthShown card (n.view flags) n.path line).map fun found =>
      found.elim .blank n.menuLine

/-- All lines of the display, with the place after the last one. -/
def displayAll (n : Navigator) (card : Card) (flags : MachineFlags) :
    Traced (Except AccessFailure (List (Except AccessFailure DisplayLine))) := do
  match ← n.lineCount card flags with
  | .error cause => return .error cause
  | .ok count => return .ok (← (List.range (count + 1)).mapM fun line => n.display line card flags)

/-- The target of a scroll. The cursor is a 64-bit word that counts as negative
    from its middle on, and so does the sum. -/
def scrollTarget (line : Nat) (delta : Int) : Int :=
  let words := Number.Word.greatest64 + 1
  Int.bmod (Int.bmod line words + delta) words

/-- Moves the cursor, not beyond the first and the last line. -/
def scroll (n : Navigator) (delta : Int) (card : Card) (flags : MachineFlags) :
    Traced (Navigator × Except AccessFailure Nat) := do
  match ← n.lineCount card flags with
  | .error cause => return (n, .error cause)
  | .ok count =>
    let line := (min (scrollTarget n.line delta) (count - 1 : Nat)).toNat
    return ({ n with line }, .ok line)

/-- Enters the directory that was clicked, or takes the file and enters the
    return menu. -/
def takeEntry (n : Navigator) (returnMenu : String) (entry : CardEntry) :
    Traced (Navigator × Outcome) :=
  let path := joinPath n.path entry.name
  if entry.isDirectory then ⟨(n.enter path, .navigated), { records := enterRecords path }⟩
  else
    let entered := enter { n with mode := .menu } returnMenu
    ⟨({ entered with selection := some ⟨path, entry.size⟩ }, .fileSelected path),
      { records := ⟨.info, s!"menu: selected {path}"⟩ :: enterRecords returnMenu }⟩

/-- Carries out the action of a menu line. -/
def perform (n : Navigator) : Action → Traced (Navigator × Outcome)
  | .gotoMenu path => ⟨(n.enter path, .navigated), { records := enterRecords path }⟩
  | .runCommand command => do
    let command := n.selected.elim command fun file => command ++ " " ++ file
    Traced.log [⟨.info, s!"menu: running '{command}'"⟩]
    Traced.send [command]
    return (n.leaveToWatch, .commandSent command)
  | .gotoWatch => ⟨(n.leaveToWatch, .leftMenu), {}⟩
  | .fileSelect start returnMenu =>
    let browsing := { n with mode := .browse (trimDir start) returnMenu n.path }
    ⟨(browsing.enter start, .navigated), { records := enterRecords start }⟩
  | .setState raw => ⟨(n, .stateRequested raw), {}⟩

/-- Carries out a menu line. One that is not selectable or has no action does
    nothing. -/
def followLine (n : Navigator) (line : Line) : Traced (Navigator × Outcome) :=
  match line.selectable, line.action with
  | true, some action => n.perform action
  | _, _ => pure (n, .stayed)

/-- Clicks a line, which takes the cursor there. -/
def click (n : Navigator) (line : Nat) (card : Card) (flags : MachineFlags) :
    Traced (Navigator × Except AccessFailure Outcome) := do
  let n := { n with line }
  if line = 0 then
    let (n, outcome) ← n.goUp
    return (n, .ok outcome)
  else
    match n.mode with
    | .browse _ returnMenu _ =>
      match card.candidates n.path .jobs with
      | .error cause => return (n, .error cause)
      | .ok entries =>
        match entries[line - 1]? with
        | none => return (n, .ok .stayed)
        | some entry =>
          let (n, outcome) ← n.takeEntry returnMenu entry
          return (n, .ok outcome)
    | .menu =>
      match ← nthShown card (n.view flags) n.path line with
      | .error cause => return (n, .error cause)
      | .ok none => return (n, .ok .stayed)
      | .ok (some found) =>
        let (n, outcome) ← n.followLine found
        return (n, .ok outcome)

end Navigator

end Interlock.Menu
