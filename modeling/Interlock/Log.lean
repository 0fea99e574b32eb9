namespace Interlock

/-- How urgent a log record is; the first is the most urgent. -/
inductive Severity where
  | error
  | warn
  | info
  | debug
  | trace
  deriving DecidableEq, Inhabited

namespace Severity

/-- The place in the order of urgency, from one on. -/
def rank : Severity → Nat
  | error => 1
  | warn => 2
  | info => 3
  | debug => 4
  | trace => 5

/-- The name in the log. -/
def name : Severity → String
  | error => "ERROR"
  | warn => "WARN"
  | info => "INFO"
  | debug => "DEBUG"
  | trace => "TRACE"

/-- The severity with the given lower-case name. -/
def ofName? : String → Option Severity
  | "error" => some error
  | "warn" => some warn
  | "info" => some info
  | "debug" => some debug
  | "trace" => some trace
  | _ => none

end Severity

/-- A line of the log. -/
structure LogRecord where
  severity : Severity
  message : String
  deriving DecidableEq, Inhabited

/-- The records that are at least as urgent as `least`. -/
def LogRecord.filter (least : Severity) (records : List LogRecord) : List LogRecord :=
  records.filter fun r => r.severity.rank ≤ least.rank

/-- How a two-valued level is written. -/
def onOff : Bool → String
  | true => "on"
  | false => "off"

end Interlock
