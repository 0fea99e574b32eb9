import Interlock.Proofs.Alarm.Panel
import Interlock.Proofs.Menu.Move

namespace Interlock

open Interlock.Menu

namespace Menu.Navigator

/-- A menu that is shown is on display, from wherever the navigator was. It is
    so at the root as well, where entering drops the selection but keeps the
    path. -/
theorem currentMenu_showMenu (n : Navigator) (dir : String) :
    (n.showMenu dir).currentMenu = some (trimDir dir) := by
  have hmode : (n.showMenu dir).isBrowsing = false := by simp [isBrowsing]
  have hscreen : (n.showMenu dir).screen = .menu := rfl
  have hpath : (n.showMenu dir).path = trimDir dir := by simp [showMenu]
  rw [currentMenu, hmode, hscreen, hpath]
  rfl

end Menu.Navigator

namespace Escalator

section Raise

variable {e : Escalator} {n : Navigator} {menu : String}

theorem currentMenu_indicate (e : Escalator) (on : Bool) (n : Navigator) :
    (e.indicate on n).value.2.currentMenu = n.currentMenu := by
  unfold indicate
  split <;> rfl

/-- A menu that is on display counts as on screen, whatever the escalator lit
    last. -/
theorem onScreen_of_shown (e : Escalator)
    (hshown : n.currentMenu.map trimDir = some (trimDir menu)) :
    e.onScreen menu n = true := by
  have hstill : (e.indicate true n).value.2.currentMenu.map trimDir = some (trimDir menu) := by
    rw [currentMenu_indicate, hshown]
  exact decide_eq_true hstill

/-- A fault whose menu is on display is indicated, and that is all that the
    panel sees of it. Neither the time since a menu was shown nor the kind of
    the fault matters, since the panel is looked at first. -/
theorem raise_of_shown (e : Escalator) (fault : LevelFault)
    (hshown : n.currentMenu.map trimDir = some (trimDir menu)) :
    let raised := e.raise fault menu n
    raised.trace.panel = e.lighting true ∧ raised.value.2.1.currentMenu = n.currentMenu := by
  intro raised
  obtain ⟨-, -, hcalls, hpanel⟩ := e.raise_display fault menu n
  have hquiet : e.displays fault menu n = false := by
    rw [displays, e.onScreen_of_shown hshown]
    rfl
  rw [hquiet] at hcalls
  have hcalls : raised.trace.panel = e.lighting true := by simpa using hcalls
  refine ⟨hcalls, ?_⟩
  rw [hpanel, hcalls, lighting]
  split <;> rfl

end Raise

/-- What an escalator goes through while the operator leaves the panel alone. -/
inductive Alert where
  | second
  | fault (fault : LevelFault) (menu : String)
  deriving DecidableEq

/-- An alert names a menu if its fault does, up to the slashes at the end. -/
def Alert.Names (menu : String) : Alert → Prop
  | second => True
  | fault _ other => Respells menu other

/-- One second, or one fault. -/
def alert {π : Type} [Panel π] (e : Escalator) (panel : π) : Alert → Traced (Escalator × π)
  | .second => pure (e.tick, panel)
  | .fault fault menu => do
    let (e, panel, _) ← e.raise fault menu panel
    return (e, panel)

/-- Several alerts in order. -/
def alertAll {π : Type} [Panel π] (e : Escalator) (panel : π) : List Alert → Traced (Escalator × π)
  | [] => pure (e, panel)
  | a :: later => do
    let (e, panel) ← e.alert panel a
    e.alertAll panel later

/-- An outcome in which no menu is shown and a given one is still on display. -/
structure LeavesMenu (menu : String) (done : Traced (Escalator × Navigator)) : Prop where
  none_shown : ∀ path, .showMenu path ∉ done.trace.panel
  current_eq : done.value.2.currentMenu = some (trimDir menu)

/-- An alert leaves the menu that it names on display. The escalator trims both
    names that it compares, so that a respelled name does not count as another
    menu. -/
theorem leavesMenu_alert (e : Escalator) {n : Navigator} {menu : String}
    (hcurrent : n.currentMenu = some (trimDir menu)) {a : Alert} (hnames : a.Names menu) :
    LeavesMenu menu (e.alert n a) := by
  cases a with
  | second => exact ⟨fun path => List.not_mem_nil, hcurrent⟩
  | fault fault other =>
    have hshown : n.currentMenu.map trimDir = some (trimDir other) := by
      rw [hcurrent, Option.map_some, trimDir_of_trimmed (trimmed_trimDir menu),
        trimDir_eq_iff.2 hnames]
    obtain ⟨hcalls, hkept⟩ := e.raise_of_shown fault hshown
    refine ⟨fun path hpath => ?_, hkept.trans hcurrent⟩
    have hmem : .showMenu path ∈ e.lighting true := by simpa [alert, hcalls] using hpath
    unfold lighting at hmem
    split at hmem <;> simp at hmem

/-- Any number of alerts leave the menu on display, since each leaves the next
    one what it starts from. -/
theorem leavesMenu_alertAll (e : Escalator) {n : Navigator} {menu : String}
    (hcurrent : n.currentMenu = some (trimDir menu)) {alerts : List Alert}
    (hnames : ∀ a ∈ alerts, a.Names menu) : LeavesMenu menu (e.alertAll n alerts) := by
  induction alerts generalizing e n with
  | nil => exact ⟨fun path => List.not_mem_nil, hcurrent⟩
  | cons a later ih =>
    obtain ⟨hnow, hlater⟩ := List.forall_mem_cons.1 hnames
    obtain ⟨hnone, hkept⟩ := e.leavesMenu_alert hcurrent hnow
    obtain ⟨hnoneLater, hkeptLater⟩ := ih (e.alert n a).value.1 hkept hlater
    refine ⟨fun path hpath => ?_, hkeptLater⟩
    rw [alertAll, Traced.trace_bind, Trace.panel_append, List.mem_append] at hpath
    exact hpath.elim (hnone path) (hnoneLater path)

/-- A navigator that shows a menu has it on display under its trimmed name,
    which is trimmed no further. From then on seconds may pass and faults may be
    raised, in any number and whatever the escalator did before: as long as they
    name the same menu, with more or fewer slashes at its end, none of them
    shows it again. -/
theorem shown_menu_stays (n : Navigator) (e : Escalator) {menu : String} {alerts : List Alert}
    (hnames : ∀ a ∈ alerts, a.Names menu) :
    let shown := n.showMenu menu
    let run := e.alertAll shown alerts
    shown.currentMenu = some (trimDir menu) ∧ trimDir (trimDir menu) = trimDir menu ∧
      (∀ path, .showMenu path ∉ run.trace.panel) ∧
      run.value.2.currentMenu = some (trimDir menu) := by
  intro shown run
  have hcurrent : shown.currentMenu = some (trimDir menu) := n.currentMenu_showMenu menu
  obtain ⟨hnone, hkept⟩ := e.leavesMenu_alertAll hcurrent hnames
  exact ⟨hcurrent, trimDir_of_trimmed (trimmed_trimDir menu), hnone, hkept⟩

/-- The root of the card is shown while the operator browses, and is named with
    one slash and with three by faults that may show a menu in every second. -/
theorem shown_menu_stays_top :
    let n : Navigator := { Navigator.ofRoot "/" "en" with mode := .browse "/gcode" "/" "/" }
    let e : Escalator := { owner := "cutting_water_tank", delay := 0 }
    let alerts : List Alert :=
      [.fault .lowWater "/", .second, .second, .fault .levelTooHigh "///", .second,
        .fault .lowWater "/"]
    (∀ a ∈ alerts, a.Names "//") ∧ (n.showMenu "//").currentMenu = some "/" ∧
      .showMenu "/" ∉ (e.alertAll (n.showMenu "//") alerts).trace.panel := by
  intro n e alerts
  have hnames : ∀ a ∈ alerts, a.Names "//" := by
    have hone : Respells "//" "/" := trimDir_eq_iff.1 (by decide)
    have hthree : Respells "//" "///" := trimDir_eq_iff.1 (by decide)
    simp [alerts, Alert.Names, hone, hthree]
  obtain ⟨hshown, -, hnone, -⟩ := shown_menu_stays n e hnames
  exact ⟨hnames, hshown.trans (by decide), hnone "/"⟩

end Escalator

end Interlock
