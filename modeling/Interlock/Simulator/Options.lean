import Interlock.Log
import Interlock.Number.Word
import Interlock.Text.Blank

namespace Interlock.Simulator

open Interlock.Text Interlock.Number

/-- The options on the command line of the simulator; one that was not given is
    absent. -/
structure Options where
  config : Option String := none
  cardRoot : Option String := none
  /-- Stop after this many seconds. -/
  ticks : Option Nat := none
  logLevel : Option String := none
  deriving DecidableEq, Inhabited

/-- What a command line asks for. -/
inductive Launch where
  | run (options : Options)
  | help
  | version
  /-- The command line is wrong. -/
  | usage (problem : String)
  deriving DecidableEq

/-- An option that takes a value. -/
inductive OptionName where
  | config
  | cardRoot
  | ticks
  | logLevel
  deriving DecidableEq

/-- An option as it is written. -/
def OptionName.text : OptionName → String
  | config => "--config"
  | cardRoot => "--sd-root"
  | ticks => "--ticks"
  | logLevel => "--log-level"

def OptionName.ofText? : String → Option OptionName
  | "--config" => some config
  | "--sd-root" => some cardRoot
  | "--ticks" => some ticks
  | "--log-level" => some logLevel
  | _ => none

namespace Options

/-- The problem of an option that is given twice. -/
def repeated (name : OptionName) : String :=
  s!"the argument '{name.text}' cannot be used multiple times"

/-- The problem of a value that an option does not take. -/
def unusable (name : OptionName) (value : String) : String :=
  s!"invalid value '{value}' for '{name.text}'"

/-- Sets an option, which may be given once. Paths must not be empty. -/
def set (o : Options) (name : OptionName) (value : String) : Except String Options :=
  match name with
  | .config =>
    if o.config.isSome then .error (repeated name)
    else if value = "" then .error (unusable name value)
    else .ok { o with config := some value }
  | .cardRoot =>
    if o.cardRoot.isSome then .error (repeated name)
    else if value = "" then .error (unusable name value)
    else .ok { o with cardRoot := some value }
  | .ticks =>
    if o.ticks.isSome then .error (repeated name)
    else
      match Word.ofText? Word.greatest64 value with
      | none => .error (unusable name value)
      | some n => .ok { o with ticks := some n }
  | .logLevel =>
    if o.logLevel.isSome then .error (repeated name)
    else .ok { o with logLevel := some value }

end Options

/-- One argument, taken by itself. -/
inductive Argument where
  /-- An option whose value is the next argument. -/
  | option (name : OptionName)
  /-- An option with its value. -/
  | valued (name : OptionName) (value : String)
  | help
  | version
  /-- The mark after which no options follow. -/
  | endMark
  | unexpected

namespace Argument

/-- A letter after one dash. What follows an option that takes a value is the
    value, less an equals sign before it. -/
def ofLetter : List Char → Argument
  | ['c'] => .option .config
  | 'c' :: '=' :: value => .valued .config (String.ofList value)
  | 'c' :: value => .valued .config (String.ofList value)
  | 'h' :: _ => .help
  | 'V' :: _ => .version
  | _ => .unexpected

/-- Reads one argument, which may hold an option with its value. -/
def ofText (text : String) : Argument :=
  match text.toList with
  | ['-', '-'] => .endMark
  | '-' :: '-' :: _ =>
    let name := OptionName.ofText? (String.ofList (text.toList.takeWhile (· ≠ '=')))
    match name, text.toList.dropWhile (· ≠ '=') with
    | some name, [] => .option name
    | some name, _ :: value => .valued name (String.ofList value)
    | none, _ =>
      if text = "--help" then .help else if text = "--version" then .version else .unexpected
  | ['-'] => .unexpected
  | '-' :: letters => ofLetter letters
  | _ => .unexpected

end Argument

/-- Whether an argument may be the value of the option before it. -/
def isValue (text : String) : Bool :=
  text = "-" || text.toList.head? ≠ some '-'

/-- Reads arguments in order; the first that is wrong, or asks for help or the
    version, decides. -/
def Options.extend (o : Options) : List String → Launch
  | [] => .run o
  | text :: rest =>
    match Argument.ofText text with
    | .help => .help
    | .version => .version
    | .endMark => if rest.isEmpty then .run o else .usage "unexpected argument"
    | .unexpected => .usage s!"unexpected argument '{text}'"
    | .valued name value =>
      match o.set name value with
      | .error problem => .usage problem
      | .ok o => o.extend rest
    | .option name =>
      match rest with
      | [] => .usage s!"a value is required for '{name.text}'"
      | value :: rest =>
        if !isValue value then .usage s!"a value is required for '{name.text}'"
        else
          match o.set name value with
          | .error problem => .usage problem
          | .ok o => o.extend rest

/-- Reads a whole command line. -/
def Launch.ofArguments (arguments : List String) : Launch :=
  ({} : Options).extend arguments

/-- The directory that stands for the card. -/
def Options.cardDirectory (o : Options) : String :=
  o.cardRoot.getD "sd"

/-- The least urgent records that are logged. -/
def Options.severity (o : Options) : Severity :=
  ((o.logLevel.map fold).bind Severity.ofName?).getD .info

/-- The version that the program prints. -/
def versionText : String :=
  "cnc-interlock 0.2.0"

/-- The help that the program prints. -/
def helpText : List String :=
  ["CNC interlock controller simulator", "", "Usage: cnc-interlock [OPTIONS]", "", "Options:",
    "  -c, --config <CONFIG>        JSON configuration file; built-in defaults when absent",
    "      --sd-root <SD_ROOT>      Directory mounted as the SD card (/sd) [default: sd]",
    "      --ticks <TICKS>          Stop after this many seconds",
    "      --log-level <LOG_LEVEL>  error, warn, info, debug or trace [default: info]",
    "  -h, --help                   Print help",
    "  -V, --version                Print version"]

end Interlock.Simulator
