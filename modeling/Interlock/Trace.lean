import Interlock.Event

namespace Interlock

/-- A call to the operator panel. -/
inductive PanelCall where
  | showMenu (path : String)
  | faultIndicator (on : Bool)
  deriving DecidableEq, Inhabited

/-- What a step of a module does to the outside: its effects by channel, each
    channel in the order of the effects. -/
structure Trace where
  records : List LogRecord := []
  events : List Event := []
  /-- Machine commands. -/
  sent : List String := []
  panel : List PanelCall := []
  /-- Levels that were written to pins. -/
  pins : List (String × Bool) := []
  /-- States that were written to switches. -/
  switches : List (String × Bool) := []
  deriving DecidableEq, Inhabited

namespace Trace

def append (s t : Trace) : Trace where
  records := s.records ++ t.records
  events := s.events ++ t.events
  sent := s.sent ++ t.sent
  panel := s.panel ++ t.panel
  pins := s.pins ++ t.pins
  switches := s.switches ++ t.switches

instance : Append Trace := ⟨append⟩

@[simp] theorem records_append (s t : Trace) : (s ++ t).records = s.records ++ t.records := rfl
@[simp] theorem events_append (s t : Trace) : (s ++ t).events = s.events ++ t.events := rfl
@[simp] theorem sent_append (s t : Trace) : (s ++ t).sent = s.sent ++ t.sent := rfl
@[simp] theorem panel_append (s t : Trace) : (s ++ t).panel = s.panel ++ t.panel := rfl
@[simp] theorem pins_append (s t : Trace) : (s ++ t).pins = s.pins ++ t.pins := rfl
@[simp] theorem switches_append (s t : Trace) : (s ++ t).switches = s.switches ++ t.switches := rfl

@[ext] theorem ext {s t : Trace} (records : s.records = t.records) (events : s.events = t.events)
    (sent : s.sent = t.sent) (panel : s.panel = t.panel) (pins : s.pins = t.pins)
    (switches : s.switches = t.switches) : s = t := by
  cases s
  cases t
  simp_all

/-- Effects may be grouped at will, since each channel appends its own list. -/
theorem append_assoc (s t u : Trace) : s ++ t ++ u = s ++ (t ++ u) := by
  ext <;> simp

@[simp] theorem append_empty (s : Trace) : s ++ ({} : Trace) = s := by
  ext <;> simp

@[simp] theorem empty_append (s : Trace) : ({} : Trace) ++ s = s := by
  ext <;> simp

/-- The effects of several steps, one after the other. -/
def concat (ts : List Trace) : Trace where
  records := ts.flatMap records
  events := ts.flatMap events
  sent := ts.flatMap sent
  panel := ts.flatMap panel
  pins := ts.flatMap pins
  switches := ts.flatMap switches

end Trace

/-- A value with the effects of computing it. Steps of modules are pure
    functions of this type; chaining them appends their traces in order. -/
structure Traced (α : Type) where
  value : α
  trace : Trace := {}

namespace Traced

instance : Monad Traced where
  pure a := ⟨a, {}⟩
  bind x f := ⟨(f x.value).value, x.trace ++ (f x.value).trace⟩

@[simp] theorem value_pure {α : Type} (a : α) : (pure a : Traced α).value = a := rfl

@[simp] theorem trace_pure {α : Type} (a : α) : (pure a : Traced α).trace = {} := rfl

@[simp] theorem value_bind {α β : Type} (x : Traced α) (f : α → Traced β) :
    (x >>= f).value = (f x.value).value := rfl

@[simp] theorem trace_bind {α β : Type} (x : Traced α) (f : α → Traced β) :
    (x >>= f).trace = x.trace ++ (f x.value).trace := rfl

/-- Writes records to the log. -/
def log (records : List LogRecord) : Traced Unit :=
  ⟨(), { records }⟩

/-- Tells events. -/
def emit (events : List Event) : Traced Unit :=
  ⟨(), { events }⟩

/-- Sends machine commands in order. Each of them is logged. -/
def send (commands : List String) : Traced Unit :=
  ⟨(), { records := commands.map fun command => ⟨.info, s!"gcode <- {command}"⟩, sent := commands }⟩

@[simp] theorem trace_log (records : List LogRecord) : (log records).trace = { records } := rfl

@[simp] theorem trace_emit (events : List Event) : (emit events).trace = { events } := rfl

@[simp] theorem sent_send (commands : List String) : (send commands).trace.sent = commands := rfl

/-- Runs a step a number of times. The traces so far are handed along in
    reverse. -/
def iterateFrom {α : Type} (step : α → Traced α) : Nat → α → List Trace → Traced α
  | 0, a, done => ⟨a, Trace.concat done.reverse⟩
  | n + 1, a, done =>
    let next := step a
    iterateFrom step n next.value (next.trace :: done)

/-- Runs a step a number of times. -/
def iterate {α : Type} (n : Nat) (step : α → Traced α) (a : α) : Traced α :=
  iterateFrom step n a []

end Traced

end Interlock
