import Interlock.Counter.Basic
import Interlock.Panel
import Interlock.Settings.Basic

namespace Interlock

open Interlock.Text Interlock.Number

/-- A timer that drives switches. While it is armed it counts seconds, and it
    drives its switches when the count passes the threshold. A single shot then
    goes dormant, a multi shot by level counts again, and an edge mode waits for
    the next arming. -/
structure SwitchTimer where
  name : String
  arming : Arming
  policy : SwitchPolicy
  threshold : Single
  menu : Option String
  state : CountState := .dormant
  counter : Counter := {}
  deriving DecidableEq, Inhabited

namespace SwitchTimer

/-- The name of timers in settings, replies and the log. -/
def owner : String := "timercounter"

/-- Starts counting anew. -/
def restart (t : SwitchTimer) : SwitchTimer :=
  { t with state := .below, counter := t.counter.requestStart }

/-- The policy that the settings describe. -/
def policyOf (s : TimerSettings) : SwitchPolicy where
  trigger := TriggerMode.ofSetting s.trigger
  shot := ShotMode.ofSetting s.shot
  inverted := s.inverted
  bindings := s.switches

/-- The timer that enabled and complete settings describe. One that is always
    armed counts from the beginning. -/
def ofSettings (s : TimerSettings) : SwitchTimer :=
  let timer : SwitchTimer :=
    { name := s.name
      arming := Arming.ofCodes s.armCode s.disarmCode
      policy := policyOf s
      threshold := s.threshold
      menu := if trim s.menu = "" then none else some s.menu }
  if timer.arming.isExplicit then timer else timer.restart

/-- How a timer announces itself. -/
def builtRecord (t : SwitchTimer) : LogRecord :=
  let count := t.policy.bindings.length
  let modes := s!"{t.policy.trigger.name}/{t.policy.shot.name}"
  ⟨.info, s!"{owner} {t.name}: {count} switch(es), threshold {t.threshold.toText}s, {modes}"⟩

/-- Builds a timer. It has to be enabled and to have between one and five
    switches. -/
def build (s : TimerSettings) : Traced (Except SetupFailure SwitchTimer) :=
  if !s.enable then ⟨.error (.disabled owner), {}⟩
  else if s.switches.isEmpty then
    let cause := SetupFailure.missing owner "switch"
    ⟨.error cause, { records := [⟨.error, s!"*ERROR* {cause.message} ({s.name})"⟩] }⟩
  else if SwitchPolicy.maxBindings < s.switches.length then
    let cause := SetupFailure.invalid owner "switch"
    let text := s!"*ERROR* {cause.message}: {s.name} has more than {SwitchPolicy.maxBindings}"
    ⟨.error cause, { records := [⟨.error, text⟩] }⟩
  else
    let timer := ofSettings s
    ⟨.ok timer,
      { records := TriggerMode.settingRecords s.trigger ++ ShotMode.settingRecords s.shot ++
          [timer.builtRecord] }⟩

/-- The seconds counted. -/
def elapsed (t : SwitchTimer) : Nat :=
  t.counter.elapsed

/-- Whether a count has reached the threshold. The count is compared in single
    precision. -/
def reaches (t : SwitchTimer) (count : Nat) : Bool :=
  t.threshold.le (Single.ofNat count)

/-- Handles a command code; the reply is for the console. A code that both arms
    and disarms arms. -/
def command (t : SwitchTimer) (code : Nat) : Traced (SwitchTimer × Option String) :=
  if t.arming.armCode = some code then
    ⟨({ t.restart with arming := t.arming.arm }, some s!"{owner} {t.name} armed"),
      { events := [.armed t.name] }⟩
  else if t.arming.disarmCode = some code then
    if !t.arming.isExplicit then
      ⟨(t, none), { records := [⟨.warn, s!"{owner} {t.name}: always armed, M{code} ignored"⟩] }⟩
    else
      ⟨({ t with
          arming := t.arming.disarm
          state := .dormant
          counter := t.counter.requestStop }, some s!"{owner} {t.name} disarmed"),
        { events := [.disarmed t.name] }⟩
  else ⟨(t, none), {}⟩

/-- The timer after its switches were driven. -/
def conclude (t : SwitchTimer) (act : Actuation) (arming : Arming) : SwitchTimer :=
  { t with
    arming
    state := act.next
    counter := if act.restartCounter then t.counter.requestStart else t.counter }

/-- What a move of the count reports. -/
def report (t : SwitchTimer) (target : CountState) (act : Actuation) : Traced Unit :=
  let fired := t.state != target && target == .reached
  ⟨(),
    { records := if fired then [⟨.info, s!"{owner} {t.name} triggered"⟩] else []
      events := (if fired then [Event.triggered t.name] else []) ++
        if act.disarmed then [Event.disarmed t.name] else [] }⟩

/-- Shows the timer's menu when it has one. -/
def notify {π : Type} [Panel π] (t : SwitchTimer) (act : Actuation) (panel : π) : Traced π :=
  match act.notify, t.menu with
  | true, some menu =>
    ⟨Panel.showMenu menu panel,
      { records := Panel.showRecords π menu, panel := [.showMenu menu] }⟩
  | _, _ => ⟨panel, {}⟩

/-- Counts one second and acts on the count. When a switch refuses, the timer
    keeps its state and tries again in the next second. -/
def tick {σ π : Type} [SwitchAccess σ] [Panel π] (t : SwitchTimer) (switches : σ) (panel : π) :
    Traced (SwitchTimer × σ × π) := do
  if !t.arming.isArmed || t.state == .dormant then return (t, switches, panel)
  else
    let t := { t with counter := t.counter.tick false false }
    let target : CountState := if t.reaches t.elapsed then .reached else .below
    let (switches, outcome) ← t.policy.apply t.state target t.arming switches
    match outcome with
    | .error _ => return (t, switches, panel)
    | .ok (act, arming) =>
      t.report target act
      let panel ← t.notify act panel
      return (t.conclude act arming, switches, panel)

/-- The status of the timer, for the console. -/
def statusLine (t : SwitchTimer) : String :=
  let armed := if t.arming.isArmed then "true" else "false"
  s!"{owner} {t.name}: state {t.state.name} armed {armed} elapsed {t.elapsed}/{t.threshold.toText}"

end SwitchTimer

end Interlock
