import Interlock.Level.Verdict
import Interlock.Pin.Access
import Interlock.Trace

namespace Interlock

/-- An input pin and the last level that was read from it. -/
structure SampledInput where
  pin : String
  level : Bool := false
  deriving DecidableEq, Inhabited

/-- Reads the pin; a refused read keeps the last level. -/
def SampledInput.sample {ι : Type} [PinAccess ι] (pins : ι) (i : SampledInput) :
    Traced SampledInput :=
  let records := PinAccess.readRecords pins i.pin
  match PinAccess.read pins i.pin with
  | .ok level => ⟨{ i with level }, { records }⟩
  | .error cause =>
    let refused : LogRecord :=
      ⟨.warn, s!"{i.pin}: {(Failure.access cause).message}, keeping last value"⟩
    ⟨i, { records := records ++ [refused] }⟩

@[simp] theorem SampledInput.events_sample {ι : Type} [PinAccess ι] (pins : ι) (i : SampledInput) :
    (i.sample pins).trace.events = [] := by
  unfold sample
  split <;> rfl

@[simp] theorem SampledInput.sent_sample {ι : Type} [PinAccess ι] (pins : ι) (i : SampledInput) :
    (i.sample pins).trace.sent = [] := by
  unfold sample
  split <;> rfl

@[simp] theorem SampledInput.panel_sample {ι : Type} [PinAccess ι] (pins : ι) (i : SampledInput) :
    (i.sample pins).trace.panel = [] := by
  unfold sample
  split <;> rfl

@[simp] theorem SampledInput.pin_sample {ι : Type} [PinAccess ι] (pins : ι) (i : SampledInput) :
    (i.sample pins).value.pin = i.pin := by
  unfold sample
  split <;> rfl

/-- A read that is not refused is what the input then holds, whatever it held
    before. -/
theorem SampledInput.level_sample {ι : Type} [PinAccess ι] {pins : ι} {i : SampledInput}
    {level : Bool} (hread : PinAccess.read pins i.pin = .ok level) :
    (i.sample pins).value.level = level := by
  simp [sample, hread]

/-- The inputs of a water module, as last read: the floats of a tank, and the
    door switch of a module that has one. Floats start dry and the door starts
    open. -/
structure Sensors where
  middle : SampledInput
  high : SampledInput
  door : Option SampledInput
  deriving DecidableEq, Inhabited

namespace Sensors

/-- Sensors on the given pins that have not been read yet. -/
def ofPins (middle high : String) (door : Option String) : Sensors where
  middle := { pin := middle }
  high := { pin := high }
  door := door.map fun pin => { pin }

/-- Reads every input. -/
def poll {ι : Type} [PinAccess ι] (pins : ι) (s : Sensors) : Traced Sensors := do
  let middle ← s.middle.sample pins
  let high ← s.high.sample pins
  match s.door with
  | none => return { s with middle, high }
  | some door =>
    let door ← door.sample pins
    return { middle, high, door := some door }

@[simp] theorem events_poll {ι : Type} [PinAccess ι] (pins : ι) (s : Sensors) :
    (s.poll pins).trace.events = [] := by
  unfold poll
  cases s.door <;> simp

@[simp] theorem sent_poll {ι : Type} [PinAccess ι] (pins : ι) (s : Sensors) :
    (s.poll pins).trace.sent = [] := by
  unfold poll
  cases s.door <;> simp

@[simp] theorem panel_poll {ι : Type} [PinAccess ι] (pins : ι) (s : Sensors) :
    (s.poll pins).trace.panel = [] := by
  unfold poll
  cases s.door <;> simp

theorem middle_poll {ι : Type} [PinAccess ι] (pins : ι) (s : Sensors) :
    (s.poll pins).value.middle = (s.middle.sample pins).value := by
  unfold poll
  cases s.door <;> rfl

theorem high_poll {ι : Type} [PinAccess ι] (pins : ι) (s : Sensors) :
    (s.poll pins).value.high = (s.high.sample pins).value := by
  unfold poll
  cases s.door <;> rfl

/-- The float readings. -/
def floats (s : Sensors) : Floats where
  middle := s.middle.level
  high := s.high.level

/-- A module without a door switch counts as closed. -/
def doorClosed (s : Sensors) : Bool :=
  s.door.elim true (·.level)

/-- The pin of the door switch. -/
def doorPin (s : Sensors) : Option String :=
  s.door.map (·.pin)

end Sensors

end Interlock
