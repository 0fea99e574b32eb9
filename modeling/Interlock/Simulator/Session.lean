import Interlock.Controller
import Interlock.Pin.Bank
import Interlock.Settings.Decode
import Interlock.Simulator.Options
import Interlock.Simulator.Queue
import Interlock.Simulator.Request
import Interlock.Switch.Bank
import Interlock.Text.Quoted

namespace Interlock.Simulator

open Interlock.Menu Interlock.Text

/-- A session of the simulator: a controller with a board, switches and a
    machine held in memory. Every command that the controller sends comes back
    as a console line, and the machine conditions follow the controller. -/
structure Session where
  controller : Controller
  pins : PinBank
  switches : SwitchBank
  flags : MachineFlags := {}
  commands : CommandQueue := {}
  /-- Readings of the inputs so far. -/
  polls : Nat := 0

/-- All pins that the settings name, low; the outputs come last. -/
def boardOf (s : Settings) : PinBank :=
  PinBank.ofNames
    ([s.tank.middleFloatPin, s.tank.highFloatPin, s.jet.doorSwitchPin, s.jet.middleFloatPin,
      s.jet.highFloatPin].filter namesPin)
    ([s.tank.dumpValvePin, s.tank.lowPressurePumpPin, s.jet.dumpValvePin, s.jet.lowPressurePumpPin,
      s.jet.highPressurePumpPin].filter namesPin)

/-- All switches that the settings name, off. -/
def switchesOf (s : Settings) : SwitchBank :=
  SwitchBank.ofNames (s.timers.flatMap fun t => t.switches.map (·.name))

namespace Session

/-- Carries out a step of the session and queues the commands that it sent. -/
def collect {α : Type} (step : Traced (Session × α)) : Traced (Session × α) :=
  let (s, a) := step.value
  ⟨({ s with commands := s.commands.send step.trace.sent }, a), step.trace⟩

/-- A session with everything that the settings name on its board. -/
def ofSettings (s : Settings) : Traced Session := do
  let pins := boardOf s
  let controller ← Controller.build s pins
  return { controller, pins, switches := switchesOf s }

/-- Reads the inputs. -/
def poll (s : Session) : Traced Session := do
  return { s with controller := ← s.controller.poll s.pins }

/-- Readings of the inputs that make a second. -/
def pollsPerSecond : Nat := 10

/-- One second, and the outputs after it. -/
def second (s : Session) : Traced Session := do
  let (s, _) ← collect do
    let (controller, switches) ← s.controller.tick s.switches
    let (controller, pins) ← controller.drive s.pins
    return ({ s with controller, switches, pins }, ())
  return s

/-- One reading of the inputs. The last of a second lets the second pass. -/
def beat (s : Session) : Traced Session := do
  let s ← s.poll
  let s := { s with polls := s.polls + 1 }
  if s.polls % pollsPerSecond = 0 then s.second else return s

/-- The commands sent so far come back as console lines; what those send waits
    for the next time. -/
def echo (s : Session) : Traced (Session × List String) :=
  let (commands, lines) := s.commands.drain
  collect do
    let (controller, replies) ← s.controller.handleLines lines
    return ({ s with commands, controller }, replies.flatten)

/-- Lets the machine conditions follow the controller. -/
def follow (s : Session) : Session :=
  { s with flags := s.controller.follow s.flags }

/-- The outcome of a click in print. -/
def outcomeText : Outcome → String
  | .stayed => "Stayed"
  | .navigated => "Navigated"
  | .leftMenu => "LeftMenu"
  | .commandSent command => s!"CommandSent({quoted command})"
  | .fileSelected path => s!"FileSelected({quoted path})"
  | .stateRequested raw => s!"StateRequested({raw})"

/-- A menu that cannot be shown, in print. -/
def menuProblem (cause : AccessFailure) : String :=
  "menu: " ++ (Failure.access cause).message

/-- A number on at least two columns. -/
def column (n : Nat) : String :=
  if n < 10 then " " ++ Nat.repr n else Nat.repr n

/-- The lines of the display from `first` on. -/
def showLines (s : Session) (card : Card) (first : Nat) : Nat → Traced (List String)
  | 0 => pure []
  | count + 1 => do
    let marker := if first = s.controller.navigator.line then ">" else " "
    let text :=
      match ← s.controller.display first card s.flags with
      | .ok line => line.label
      | .error cause => "<" ++ (Failure.access cause).message ++ ">"
    let later ← showLines s card (first + 1) count
    return (marker ++ column first ++ " " ++ text) :: later

/-- The current menu with its lines. -/
def showMenu (s : Session) (card : Card) : Traced (List String) := do
  let navigator := s.controller.navigator
  let title := s!"[{navigator.screen.name}] {navigator.path}"
  match ← navigator.lineCount card s.flags with
  | .error cause => return [title, menuProblem cause]
  | .ok count => return title :: (← s.showLines card 0 count)

/-- Sets a pin of the board by hand. -/
def setPin (s : Session) (pin level : String) : Session × List String :=
  if s.pins.pins.contains pin then
    let high := level == "1"
    ({ s with pins := s.pins.setLevel pin high }, [s!"{pin} = {StatusReport.boolWord high}"])
  else (s, [s!"no pin {pin}"])

/-- Sets a machine condition by hand. -/
def setFlag (s : Session) (name value : String) : Session × List String :=
  match Condition.ofDirective? name with
  | some c => ({ s with flags := s.flags.set c (value == "1") }, [])
  | none => (s, [s!"unknown machine flag {name}"])

/-- Clicks a line and prints the menu after it. -/
def click (s : Session) (card : Card) (line : Nat) : Traced (Session × List String) := do
  let (controller, result) ← s.controller.click line card s.flags
  let s := { s with controller }
  match result with
  | .ok outcome => return (s, outcomeText outcome :: (← s.showMenu card))
  | .error cause => return (s, [menuProblem cause])

/-- Moves the cursor and prints the menu after it. -/
def scroll (s : Session) (card : Card) (delta : Int) : Traced (Session × List String) := do
  let (controller, result) ← s.controller.scroll delta card s.flags
  let s := { s with controller }
  match result with
  | .ok _ => return (s, ← s.showMenu card)
  | .error cause => return (s, [menuProblem cause])

/-- Carries out a request and gives what it prints. -/
def perform (s : Session) (card : Card) : Request → Traced (Session × List String)
  | .nothing => pure (s, [])
  | .quit => pure (s, [])
  | .setPin pin level => pure (s.setPin pin level)
  | .setFlag name value => pure (s.setFlag name value)
  | .openMenu => do
    let s := { s with controller := ← s.controller.openMenu }
    return (s, ← s.showMenu card)
  | .show => do return (s, ← s.showMenu card)
  | .click (some line) => s.click card line
  | .click none => pure (s, ["click <line>"])
  | .scroll (some delta) => s.scroll card delta
  | .scroll none => pure (s, ["scroll <delta>"])
  | .statusJson => pure (s, s.controller.reports.map fun report => report.toJson.compact)
  | .status => pure (s, s.controller.statusLines)
  | .line text => do
    let (controller, replies) ← s.controller.handleLine text
    return ({ s with controller }, replies)

/-- How a batch of lines ended. -/
structure Batch where
  session : Session
  printed : List String
  /-- The operator asked to stop. -/
  stopped : Bool

/-- Handles the operator's lines in order, up to one that asks to stop. -/
def handleBatch (s : Session) (card : Card) : List String → Traced Batch
  | [] => pure ⟨s, [], false⟩
  | text :: rest => do
    let request := Request.parse text
    if request = .quit then return ⟨s, [], true⟩
    else
      let (s, printed) ← collect (s.perform card request)
      let later ← s.handleBatch card rest
      return { later with printed := printed ++ later.printed }

/-- What happens between two waits: the readings that are due, then the commands
    that come back, then the operator's lines. -/
def round (s : Session) (due : Nat) (card : Card) (lines : List String) : Traced Batch := do
  let s ← Traced.iterate due beat s
  let (s, echoed) ← s.echo
  let batch ← s.follow.handleBatch card lines
  return { batch with printed := echoed ++ batch.printed }

end Session

/-- The exit code of a run and the text it printed. -/
structure RunResult where
  exitCode : Nat
  printed : List String := []
  deriving DecidableEq, Inhabited

/-- The settings of a run: those of the file that the options name, or the
    defaults. -/
def settingsOf (options : Options) (fileNamed : String → Option (List UInt8)) :
    Except Failure Settings :=
  match options.config with
  | none => .ok {}
  | some path => Settings.load (fileNamed path)

/-- A run that ends with the lines that are there when it starts: one reading of
    the inputs, then all lines. -/
def runOnce (arguments : List String) (fileNamed : String → Option (List UInt8)) (card : Card)
    (lines : List String) : RunResult :=
  match Launch.ofArguments arguments with
  | .help => { exitCode := 0, printed := helpText }
  | .version => { exitCode := 0, printed := [versionText] }
  | .usage _ => { exitCode := 2 }
  | .run options =>
    match settingsOf options fileNamed with
    | .error _ => { exitCode := 1 }
    | .ok settings =>
      let batch : Traced Session.Batch := do
        let session ← Session.ofSettings settings
        session.round 1 card lines
      { exitCode := 0, printed := batch.value.printed }

end Interlock.Simulator
