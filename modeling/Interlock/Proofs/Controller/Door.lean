import Interlock.Proofs.Controller.Lights

namespace Interlock

open Interlock.Menu

namespace WaterJet

/-- Whether a cutter is on after a command code. -/
def onAfter (on : Bool) (code : Nat) : Bool :=
  if code = enableCode then true else if code = disableCode then false else on

/-- Of all codes only two decide whether the cutter is on; a start or an end of
    a job does not. -/
theorem active_command (j : WaterJet) (code : Nat) :
    (j.command code).value.1.active = onAfter j.active code := by
  have hafter := afterCommand_command j code
  generalize (j.command code).value.1 = after at hafter ⊢
  cases hafter with
  | switchedOn => exact active_goto _ _
  | keptOn => rfl
  | switchedOff => exact active_goto _ _
  | started | ended => exact active_goto _ _
  | unchanged hother =>
    simp only [List.mem_cons, not_or] at hother
    rw [onAfter, if_neg hother.1, if_neg hother.2.1]

/-- No command reads the inputs. -/
theorem sensors_command (j : WaterJet) (code : Nat) :
    (j.command code).value.1.sensors = j.sensors := by
  have hafter := afterCommand_command j code
  generalize (j.command code).value.1 = after at hafter ⊢
  cases hafter with
  | switchedOn | switchedOff | started | ended => exact sensors_goto _ _
  | keptOn | unchanged => rfl

/-- A second neither switches a cutter nor reads its inputs. It is asked of a
    settled one, whose step is known. -/
theorem Settled.switched_tick {j : WaterJet} (hsettled : j.Settled) {π : Type} [Panel π]
    (panel : π) :
    (j.tick panel).value.1.active = j.active ∧ (j.tick panel).value.1.sensors = j.sensors := by
  cases hactive : j.active with
  | false =>
    rw [tick_of_inactive hactive]
    exact ⟨hactive, rfl⟩
  | true =>
    obtain ⟨_, _, _, _, _, hstays⟩ := hsettled.context_tick hactive panel
    exact ⟨hstays.trans hactive, (hsettled.kept_tick hactive panel).2.1⟩

/-- What a cutter answers to a start that it grants. -/
def jobStarted : String := "waterjetcutter job started"

/-- A start is granted exactly by a cutter that is on and that saw its door
    closed. The reply is looked for among all lines, since a cutter that refuses
    answers too. -/
theorem jobStarted_mem_start_iff (j : WaterJet) :
    jobStarted ∈ (j.command startCode).value.2.getD [] ↔
      j.active = true ∧ j.sensors.doorClosed = true := by
  have hreply : (j.command startCode).value.2 = some
      [if !j.active then "waterjetcutter not active, send M1401 first"
        else if !j.sensors.doorClosed then "waterjetcutter door open, job refused"
        else jobStarted] := by
    have hstart : (j.command startCode).value.2 = some [j.startJob.value.2] := rfl
    rw [hstart, startJob]
    cases j.active <;> cases j.sensors.doorClosed <;> rfl
  rw [hreply]
  generalize j.active = on
  generalize j.sensors.doorClosed = closed
  revert on closed
  decide

/-- A cutter that is on or off, with the door as it was read last. -/
structure Watches (j : WaterJet) (pin : String) (on closed : Bool) : Prop where
  settled : j.Settled
  active_eq : j.active = on
  door_eq : j.sensors.door = some { pin, level := closed }

section

variable {j : WaterJet} {pin : String} {on closed : Bool}

/-- What leaves the switch and the inputs of a cutter alone leaves what it
    watches. -/
theorem Watches.frame (hwatches : j.Watches pin on closed) {j' : WaterJet}
    (hsettled : j'.Settled) (hactive : j'.active = j.active) (hsensors : j'.sensors = j.sensors) :
    j'.Watches pin on closed :=
  ⟨hsettled, hactive.trans hwatches.active_eq, hsensors ▸ hwatches.door_eq⟩

/-- A cutter that is off reads nothing, whatever its pins would give. -/
theorem Watches.poll_off (hwatches : j.Watches pin false closed) {ι : Type} [PinAccess ι]
    (pins : ι) : (j.poll pins).value.Watches pin false closed := by
  refine hwatches.frame (hwatches.settled.poll pins) ?_ ?_
  · rw [value_poll]
  · rw [value_poll, if_neg (by simp [hwatches.active_eq])]

/-- A cutter that is on sees its door as the pin gives it. Only the pin of the
    door has to be readable. -/
theorem Watches.poll_on (hwatches : j.Watches pin true closed) {ι : Type} [PinAccess ι] {pins : ι}
    {level : Bool} (hread : PinAccess.read pins pin = .ok level) :
    (j.poll pins).value.Watches pin true level := by
  obtain ⟨hsettled, hactive, hdoor⟩ := hwatches
  refine ⟨hsettled.poll pins, ?_, ?_⟩
  · rwa [value_poll]
  · rw [value_poll, if_pos hactive]
    simp [Sensors.poll, hdoor, SampledInput.sample, hread]

theorem Watches.command (hwatches : j.Watches pin on closed) (code : Nat) :
    (j.command code).value.1.Watches pin (onAfter on code) closed := by
  obtain ⟨hsettled, rfl, hdoor⟩ := hwatches
  exact ⟨hsettled.command code, active_command j code, by rw [sensors_command, hdoor]⟩

theorem Watches.resume (hwatches : j.Watches pin on closed) :
    j.resume.value.1.Watches pin on closed := by
  refine hwatches.frame hwatches.settled.resume ?_ ?_
  · rw [value_resume]
  · rw [value_resume]

end

end WaterJet

namespace Controller

open WaterJet (jobStarted onAfter startCode)

/-- Whether the cutter is on after a line. -/
def lineSwitches (on : Bool) : ConsoleCommand → Bool
  | .code code _ => onAfter on code
  | .resume | .unknown _ => on

/-- Whether the cutter is on after a use. -/
def Use.switches (on : Bool) : Use → Bool
  | .line text => lineSwitches on (.parse text)
  | _ => on

theorem Use.switches_line (on : Bool) (text : String) :
    Use.switches on (.line text) = lineSwitches on (.parse text) := rfl

/-- What the pin of the door gives when the inputs are read. -/
def Use.door? (pin : String) : Use → Option (Except AccessFailure Bool)
  | @Use.poll _ _ pins => some (PinAccess.read pins pin)
  | _ => none

/-- The pin of the door at the moment when the inputs are read, and whether the
    cutter is on. -/
structure DoorReading where
  on : Bool
  level : Except AccessFailure Bool

/-- The pin of the door at each reading of the inputs. -/
def doorReadings (pin : String) (on : Bool) : List Use → List DoorReading
  | [] => []
  | u :: uses => ((u.door? pin).map (DoorReading.mk on)).toList ++
      doorReadings pin (u.switches on) uses

/-- Whether the cutter is on after a run. -/
def switchedOn (on : Bool) (uses : List Use) : Bool :=
  uses.foldl Use.switches on

/-- The door as the cutter knows it after a run: as it was when the inputs were
    last read with the cutter on, whatever was read, or could have been, since. -/
def lastSeen (closed : Bool) (readings : List DoorReading) : Except AccessFailure Bool :=
  ((readings.filter (·.on)).getLast?.map (·.level)).getD (.ok closed)

/-- What was seen first is where the later readings start from. -/
theorem lastSeen_append {closed seen : Bool} {first : List DoorReading}
    (hfirst : lastSeen closed first = .ok seen) (second : List DoorReading) :
    lastSeen closed (first ++ second) = lastSeen seen second := by
  unfold lastSeen at *
  rw [List.filter_append, List.getLast?_append]
  cases (second.filter (·.on)).getLast? with
  | none => exact hfirst
  | some last => rfl

/-- What is read with the cutter on, it sees. What it saw before no longer
    matters. -/
theorem lastSeen_of_on {readings : List DoorReading} {last : DoorReading}
    (hlast : readings.getLast? = some last) (hon : last.on = true) (closed : Bool) :
    lastSeen closed readings = last.level := by
  obtain ⟨earlier, rfl⟩ := List.getLast?_eq_some_iff.1 hlast
  simp [lastSeen, List.filter_append, hon]

/-- The controller has a cutter, which is on or off, with the door as it was
    read last. -/
def Watches (c : Controller) (pin : String) (on closed : Bool) : Prop :=
  ∃ jet, c.jet = some jet ∧ jet.Watches pin on closed

section

variable {c : Controller} {pin : String} {on closed : Bool}

theorem Watches.map (hwatches : c.Watches pin on closed) {c' : Controller}
    {f : WaterJet → WaterJet} (hmap : c'.jet = c.jet.map f) {on' closed' : Bool}
    (hkeeps : ∀ jet : WaterJet, jet.Watches pin on closed → (f jet).Watches pin on' closed') :
    c'.Watches pin on' closed' := by
  obtain ⟨jet, hjet, hdoor⟩ := hwatches
  exact ⟨f jet, by rw [hmap, hjet]; rfl, hkeeps jet hdoor⟩

/-- The step: lines switch the cutter, and reading the inputs shows it the door
    while it is on. A refused reading would leave the door as it was, so the pin
    has to give a level, and only then. -/
theorem Watches.use (hwatches : c.Watches pin on closed) (u : Use)
    (hread : on = true → ∀ level, u.door? pin = some level → ∃ closed, level = .ok closed) :
    ∃ closed',
      (c.use u).value.Watches pin (u.switches on) closed' ∧
        lastSeen closed ((u.door? pin).map (DoorReading.mk on)).toList = .ok closed' := by
  have hunread {c' : Controller} {on' : Bool} (hc' : c'.Watches pin on' closed) :
      ∃ closed', c'.Watches pin on' closed' ∧ lastSeen closed [] = .ok closed' :=
    ⟨closed, hc', rfl⟩
  obtain ⟨op, hhands, hmap⟩ := c.jet_use u
  cases hhands with
  | poll pins =>
    cases on with
    | false => exact ⟨closed, hwatches.map hmap fun jet hjet => hjet.poll_off pins, rfl⟩
    | true =>
      obtain ⟨level, hlevel⟩ := hread rfl _ rfl
      exact ⟨level, hwatches.map hmap fun jet hjet => hjet.poll_on hlevel, hlevel⟩
  | tick switches panel =>
    refine hunread (hwatches.map hmap fun jet hjet => ?_)
    obtain ⟨hactive, hsensors⟩ := hjet.settled.switched_tick panel
    exact hjet.frame (hjet.settled.tick panel) hactive hsensors
  | drive pins jetPins =>
    refine hunread (hwatches.map hmap fun jet hjet => ?_)
    exact hjet.frame (hjet.settled.drive jetPins) rfl rfl
  | command hline =>
    rw [Use.switches_line, hline]
    exact hunread (hwatches.map hmap fun jet hjet => hjet.command _)
  | resume hline =>
    rw [Use.switches_line, hline]
    exact hunread (hwatches.map hmap fun jet hjet => hjet.resume)
  | ignored hline =>
    rw [Use.switches_line, hline]
    exact hunread (hwatches.map hmap fun jet hjet => hjet)
  | openMenu | scroll | click => exact hunread (hwatches.map hmap fun jet hjet => hjet)
  | request place card flags raw =>
    refine hunread (hwatches.map hmap fun jet hjet => ?_)
    exact hjet.frame (hjet.settled.goto _) (WaterJet.active_goto _ _) (WaterJet.sensors_goto _ _)

/-- The run, from one use to the next: what each use shows is seen before the
    next one. -/
theorem Watches.useAll (hwatches : c.Watches pin on closed) {uses : List Use}
    (hreads : ∀ reading ∈ doorReadings pin on uses, reading.on = true →
      ∃ closed, reading.level = .ok closed) :
    ∃ closed',
      (c.useAll uses).value.Watches pin (switchedOn on uses) closed' ∧
        lastSeen closed (doorReadings pin on uses) = .ok closed' := by
  induction uses generalizing c on closed with
  | nil => exact ⟨closed, hwatches, rfl⟩
  | cons u uses ih =>
    rw [doorReadings, List.forall_mem_append] at hreads
    have hread : on = true → ∀ level, u.door? pin = some level → ∃ closed, level = .ok closed :=
      fun hon level hlevel => hreads.1 ⟨on, level⟩ (by simp [hlevel]) hon
    obtain ⟨seen, hstep, hseen⟩ := hwatches.use u hread
    obtain ⟨closed', hrun, hlast⟩ := ih hstep hreads.2
    exact ⟨closed', hrun, (lastSeen_append hseen _).trans hlast⟩

/-- A start is granted to a cutter that is on, if it saw the door closed last.
    The other modules answer in their own names, so no reply of theirs can be
    mistaken. -/
theorem Watches.jobStarted_mem_iff (hwatches : c.Watches pin on closed) {text rest : String}
    (hline : ConsoleCommand.parse text = .code startCode rest) :
    jobStarted ∈ (c.handleLine text).value.2 ↔ on = true ∧ closed = true := by
  obtain ⟨jet, hjet, _, rfl, hdoor⟩ := hwatches
  have hreplies : (c.handleLine text).value.2 =
      (commandTimers startCode c.timers).value.2 ++ (commandTank startCode c.tank).value.2 ++
        (commandJet startCode c.jet).value.2 := by
    unfold handleLine
    rw [hline]
    rfl
  have htank : (commandTank startCode c.tank).value.2 = [] := by
    cases c.tank <;> rfl
  have hreply : (commandJet startCode c.jet).value.2 =
      (jet.command startCode).value.2.getD [] := by
    rw [hjet]
    rfl
  have hclosed : jet.sensors.doorClosed = closed := by
    rw [Sensors.doorClosed, hdoor]
    rfl
  have htimers : jobStarted ∉ (commandTimers startCode c.timers).value.2 :=
    not_mem_commandTimers (by decide) startCode c.timers
  rw [hreplies, htank, hreply, List.append_nil, List.mem_append, or_iff_right htimers,
    jet.jobStarted_mem_start_iff, hclosed]

end

theorem watches_build {ι : Type} [PinAccess ι] {s : Settings} {pins : ι}
    (hjet : (build s pins).value.jet.isSome = true) :
    (build s pins).value.Watches s.jet.doorSwitchPin false false := by
  obtain ⟨jet, hmodule⟩ := Option.isSome_iff_exists.1 hjet
  obtain rfl := jet_eq_of_build hmodule
  exact ⟨_, hmodule, WaterJet.settled_ofSettings _ _, rfl, rfl⟩

/-- In every run in which no reading of the door by the cutter is refused, a
    start is granted exactly if the cutter is on and the door was closed when
    the inputs were last read with the cutter on. So they were read before, and
    if the door was not closed at the last time, the cutter was off then. -/
theorem job_started_iff_seen {ι : Type} [PinAccess ι] {s : Settings} {pins : ι}
    (hjet : (build s pins).value.jet.isSome = true) {uses : List Use}
    (hreads : ∀ reading ∈ doorReadings s.jet.doorSwitchPin false uses, reading.on = true →
      ∃ closed, reading.level = .ok closed)
    {text rest : String} (hline : ConsoleCommand.parse text = .code startCode rest) :
    let replies := (((build s pins).value.useAll uses).value.handleLine text).value.2
    let readings := doorReadings s.jet.doorSwitchPin false uses
    (jobStarted ∈ replies ↔ switchedOn false uses = true ∧ lastSeen false readings = .ok true) ∧
      (jobStarted ∈ replies →
        ∃ last, readings.getLast? = some last ∧ (last.level ≠ .ok true → last.on = false)) := by
  intro replies readings
  obtain ⟨closed, hwatches, hseen⟩ := (watches_build hjet).useAll hreads
  have hgranted : jobStarted ∈ replies ↔
      switchedOn false uses = true ∧ lastSeen false readings = .ok true := by
    rw [hwatches.jobStarted_mem_iff hline, hseen, Except.ok.injEq]
  refine ⟨hgranted, fun hstarted => ?_⟩
  obtain ⟨_, hclosed⟩ := hgranted.1 hstarted
  cases hlast : readings.getLast? with
  | none =>
    rw [List.getLast?_eq_none_iff.1 hlast] at hclosed
    cases hclosed
  | some last =>
    refine ⟨last, rfl, fun hopen => ?_⟩
    by_contra hon
    rw [Bool.not_eq_false] at hon
    exact hopen ((lastSeen_of_on hlast hon false).symm.trans hclosed)

/-- The door is closed, and opened when the cutter was switched off. Then the
    cutter is switched on again. -/
def reopened : List Use :=
  [.line "M1401", .poll (waterPins ["P2.12"]), .line "M1402", .poll (waterPins []), .line "M1401"]

/-- The door was read twice, and with the cutter on only before it was opened. -/
theorem doorReadings_reopened :
    doorReadings "P2.12" false reopened = [⟨true, .ok true⟩, ⟨false, .ok false⟩] := by
  rfl

/-- The last reading was of an open door. -/
theorem job_started_behind_open_door :
    ¬∀ uses : List Use,
      let readings := doorReadings waterSettings.jet.doorSwitchPin false uses
      let c := ((build waterSettings (waterPins [])).value.useAll uses).value
      (∀ reading ∈ readings, ∃ closed, reading.level = .ok closed) →
        jobStarted ∈ (c.handleLine "M1403").value.2 →
        ∃ last, readings.getLast? = some last ∧ last.level = .ok true := by
  intro hfresh
  have hreopened := hfresh reopened
  rw [show waterSettings.jet.doorSwitchPin = "P2.12" from rfl, doorReadings_reopened] at hreopened
  obtain ⟨last, hlast, hclosed⟩ := hreopened (by simp) (by decide +kernel)
  obtain rfl : (⟨false, .ok false⟩ : DoorReading) = last := Option.some.inj hlast
  cases hclosed

theorem job_started_iff_seen_reopened :
    let c := ((build waterSettings (waterPins [])).value.useAll reopened).value
    jobStarted ∈ (c.handleLine "M1403").value.2 := by
  intro c
  have hreads : ∀ reading ∈ doorReadings waterSettings.jet.doorSwitchPin false reopened,
      reading.on = true → ∃ closed, reading.level = .ok closed := by
    rw [show waterSettings.jet.doorSwitchPin = "P2.12" from rfl, doorReadings_reopened]
    simp
  have hjet : (build waterSettings (waterPins [])).value.jet.isSome = true := by decide +kernel
  have hline : ConsoleCommand.parse "M1403" = .code startCode "" := by decide
  obtain ⟨hgranted, _⟩ := job_started_iff_seen hjet hreads hline
  refine hgranted.2 ⟨by decide +kernel, ?_⟩
  rw [show waterSettings.jet.doorSwitchPin = "P2.12" from rfl, doorReadings_reopened]
  rfl

end Controller

end Interlock
