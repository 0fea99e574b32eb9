import Interlock.Pin.Access
import Interlock.Trace

namespace Interlock

/-- An output pin with the last level that was written to it. -/
structure OutputPin where
  pin : String
  /-- The level of the last write that was not refused. -/
  written : Option Bool := none
  deriving DecidableEq, Inhabited

/-- Drives the pin to a requested level unless that was the last level written.
    A refused write is tried again the next time. -/
def OutputPin.drive {ι : Type} [PinAccess ι] (pins : ι) (requested : Option Bool) (o : OutputPin) :
    Traced (OutputPin × ι) :=
  match requested with
  | none => ⟨(o, pins), {}⟩
  | some level =>
    if o.written = some level then ⟨(o, pins), {}⟩
    else
      let records := PinAccess.writeRecords pins o.pin
      match PinAccess.write pins o.pin level with
      | .ok pins =>
        ⟨({ o with written := some level }, pins), { records, pins := [(o.pin, level)] }⟩
      | .error cause =>
        let refused : LogRecord := ⟨.warn, s!"{o.pin}: {(Failure.access cause).message}"⟩
        ⟨(o, pins), { records := records ++ [refused] }⟩

@[simp] theorem OutputPin.events_drive {ι : Type} [PinAccess ι] (pins : ι) (requested : Option Bool)
    (o : OutputPin) : (o.drive pins requested).trace.events = [] := by
  unfold drive
  repeat' split
  all_goals rfl

@[simp] theorem OutputPin.sent_drive {ι : Type} [PinAccess ι] (pins : ι) (requested : Option Bool)
    (o : OutputPin) : (o.drive pins requested).trace.sent = [] := by
  unfold drive
  repeat' split
  all_goals rfl

@[simp] theorem OutputPin.panel_drive {ι : Type} [PinAccess ι] (pins : ι) (requested : Option Bool)
    (o : OutputPin) : (o.drive pins requested).trace.panel = [] := by
  unfold drive
  repeat' split
  all_goals rfl

end Interlock
