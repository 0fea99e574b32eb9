import Interlock.Proofs.Settings.Section

namespace Interlock

open Interlock.Json Interlock.Number

namespace SettingEntry

variable {α β : Type}

/-- A truth value. -/
@[simp] def bool (name : String) (get : α → Bool) : SettingEntry α :=
  { name, shape := .bool, reads := IsBool, get }

/-- A text, which may have to be given. -/
@[simp] def text (name : String) (get : α → String) (required : Bool := false) : SettingEntry α :=
  { name, shape := .text, reads := IsText, get, required }

/-- A command code. -/
@[simp] def code (name : String) (get : α → Nat) : SettingEntry α :=
  { name, shape := .whole 16, reads := IsWhole 16, get }

/-- A time in seconds. -/
@[simp] def seconds (name : String) (get : α → Nat) : SettingEntry α :=
  { name, shape := .whole 32, reads := IsWhole 32, get }

/-- A number in single precision. -/
@[simp] def single (name : String) (get : α → Single) : SettingEntry α :=
  { name, shape := .single, reads := IsSingle, get }

/-- A section within a section. -/
@[simp] def section_ (name : String) (entries : List (SettingEntry β)) (defaults : β)
    (get : α → β) : SettingEntry α :=
  { name, shape := shapeOf entries, reads := Describes entries defaults, get }

/-- A list of sections. -/
@[simp] def sections (name : String) (entries : List (SettingEntry β)) (defaults : β)
    (get : α → List β) : SettingEntry α :=
  { name, shape := .list (shapeOf entries), reads := IsList (Describes entries defaults), get }

end SettingEntry

/-- What a switch of a timer is bound to. Only its name has to be given. -/
def SwitchBinding.entries : List (SettingEntry SwitchBinding) :=
  [.text "name" (·.name) true,
    .bool "on_trigger" (·.onTrigger)]

/-- Each of the keys stores its own entry, and the entries make up the whole. -/
theorem SwitchBinding.implements : Implements keys entries where
  stores := by
    refine .cons (.ofDecoder decodes_text (fun _ _ => rfl) ?_) <|
      .cons (.ofDecoder decodes_bool (fun _ _ => rfl) ?_) .nil
    all_goals simp [entries]
  distinct := by decide
  ext {s s'} hget := by
    obtain ⟨_, _⟩ := s
    obtain ⟨_, _⟩ := s'
    simpa [entries] using hget

/-- The settings of a timer, with a list of bound switches. -/
def TimerSettings.entries : List (SettingEntry TimerSettings) :=
  [.text "name" (·.name),
    .bool "enable" (·.enable),
    .sections "switches" SwitchBinding.entries ⟨"", true⟩ (·.switches),
    .single "threshold_seconds" (·.threshold),
    .text "type" (·.shot),
    .text "trigger" (·.trigger),
    .bool "inverted" (·.inverted),
    .code "arm_mcode" (·.armCode),
    .code "disarm_mcode" (·.disarmCode),
    .text "menu" (·.menu)]

theorem TimerSettings.implements : Implements keys entries where
  stores := by
    refine .cons (.ofDecoder decodes_text (fun _ _ => rfl) ?_) <|
      .cons (.ofDecoder decodes_bool (fun _ _ => rfl) ?_) <|
      .cons (.ofDecoder (SwitchBinding.implements.decodes _).list (fun _ _ => rfl) ?_) <|
      .cons (.ofDecoder decodes_single (fun _ _ => rfl) ?_) <|
      .cons (.ofDecoder decodes_text (fun _ _ => rfl) ?_) <|
      .cons (.ofDecoder decodes_text (fun _ _ => rfl) ?_) <|
      .cons (.ofDecoder decodes_bool (fun _ _ => rfl) ?_) <|
      .cons (.ofDecoder (decodes_whole rfl) (fun _ _ => rfl) ?_) <|
      .cons (.ofDecoder (decodes_whole rfl) (fun _ _ => rfl) ?_) <|
      .cons (.ofDecoder decodes_text (fun _ _ => rfl) ?_) .nil
    all_goals simp [entries]
  distinct := by decide
  ext {s s'} hget := by
    obtain ⟨_, _, _, _, _, _, _, _, _, _⟩ := s
    obtain ⟨_, _, _, _, _, _, _, _, _, _⟩ := s'
    simpa [entries] using hget

/-- The settings of the catch tank. -/
def TankSettings.entries : List (SettingEntry TankSettings) :=
  [.bool "enable" (·.enable),
    .text "middle_float_pin" (·.middleFloatPin),
    .text "high_float_pin" (·.highFloatPin),
    .text "dump_valve_pin" (·.dumpValvePin),
    .text "low_pressure_pump_pin" (·.lowPressurePumpPin),
    .text "low_water_detected_menu" (·.lowWaterMenu),
    .text "high_water_detected_menu" (·.highWaterMenu),
    .text "filters_blocked_menu" (·.filtersBlockedMenu),
    .seconds "fill_cycle_seconds" (·.fillCycle),
    .seconds "filter_cleaning_seconds" (·.filterCleaning),
    .seconds "water_level_too_low_seconds" (·.tooLow)]

theorem TankSettings.implements : Implements keys entries where
  stores := by
    refine .cons (.ofDecoder decodes_bool (fun _ _ => rfl) ?_) <|
      .cons (.ofDecoder decodes_text (fun _ _ => rfl) ?_) <|
      .cons (.ofDecoder decodes_text (fun _ _ => rfl) ?_) <|
      .cons (.ofDecoder decodes_text (fun _ _ => rfl) ?_) <|
      .cons (.ofDecoder decodes_text (fun _ _ => rfl) ?_) <|
      .cons (.ofDecoder decodes_text (fun _ _ => rfl) ?_) <|
      .cons (.ofDecoder decodes_text (fun _ _ => rfl) ?_) <|
      .cons (.ofDecoder decodes_text (fun _ _ => rfl) ?_) <|
      .cons (.ofDecoder (decodes_whole rfl) (fun _ _ => rfl) ?_) <|
      .cons (.ofDecoder (decodes_whole rfl) (fun _ _ => rfl) ?_) <|
      .cons (.ofDecoder (decodes_whole rfl) (fun _ _ => rfl) ?_) .nil
    all_goals simp [entries]
  distinct := by decide
  ext {s s'} hget := by
    obtain ⟨_, _, _, _, _, _, _, _, _, _, _⟩ := s
    obtain ⟨_, _, _, _, _, _, _, _, _, _, _⟩ := s'
    simpa [entries] using hget

/-- The settings of the cutter. -/
def JetSettings.entries : List (SettingEntry JetSettings) :=
  [.bool "enable" (·.enable),
    .text "door_switch_pin" (·.doorSwitchPin),
    .text "middle_float_pin" (·.middleFloatPin),
    .text "high_float_pin" (·.highFloatPin),
    .text "dump_valve_pin" (·.dumpValvePin),
    .text "low_pressure_pump_pin" (·.lowPressurePumpPin),
    .text "high_pressure_pump_pin" (·.highPressurePumpPin),
    .text "error_wl_low_menu" (·.lowWaterMenu),
    .text "error_wl_high_menu" (·.highWaterMenu),
    .text "error_clean_filters_menu" (·.filtersBlockedMenu),
    .seconds "fill_cycle_seconds" (·.fillCycle),
    .seconds "filter_cleaning_seconds" (·.filterCleaning),
    .seconds "water_level_too_low_seconds" (·.tooLow)]

theorem JetSettings.implements : Implements keys entries where
  stores := by
    refine .cons (.ofDecoder decodes_bool (fun _ _ => rfl) ?_) <|
      .cons (.ofDecoder decodes_text (fun _ _ => rfl) ?_) <|
      .cons (.ofDecoder decodes_text (fun _ _ => rfl) ?_) <|
      .cons (.ofDecoder decodes_text (fun _ _ => rfl) ?_) <|
      .cons (.ofDecoder decodes_text (fun _ _ => rfl) ?_) <|
      .cons (.ofDecoder decodes_text (fun _ _ => rfl) ?_) <|
      .cons (.ofDecoder decodes_text (fun _ _ => rfl) ?_) <|
      .cons (.ofDecoder decodes_text (fun _ _ => rfl) ?_) <|
      .cons (.ofDecoder decodes_text (fun _ _ => rfl) ?_) <|
      .cons (.ofDecoder decodes_text (fun _ _ => rfl) ?_) <|
      .cons (.ofDecoder (decodes_whole rfl) (fun _ _ => rfl) ?_) <|
      .cons (.ofDecoder (decodes_whole rfl) (fun _ _ => rfl) ?_) <|
      .cons (.ofDecoder (decodes_whole rfl) (fun _ _ => rfl) ?_) .nil
    all_goals simp [entries]
  distinct := by decide
  ext {s s'} hget := by
    obtain ⟨_, _, _, _, _, _, _, _, _, _, _, _, _⟩ := s
    obtain ⟨_, _, _, _, _, _, _, _, _, _, _, _, _⟩ := s'
    simpa [entries] using hget

/-- The settings of the panel. -/
def PanelSettings.entries : List (SettingEntry PanelSettings) :=
  [.text "menu_root" (·.menuRoot),
    .text "language" (·.language)]

theorem PanelSettings.implements : Implements keys entries where
  stores := by
    refine .cons (.ofDecoder decodes_text (fun _ _ => rfl) ?_) <|
      .cons (.ofDecoder decodes_text (fun _ _ => rfl) ?_) .nil
    all_goals simp [entries]
  distinct := by decide
  ext {s s'} hget := by
    obtain ⟨_, _⟩ := s
    obtain ⟨_, _⟩ := s'
    simpa [entries] using hget

/-- All settings. The timers are a list, the modules are sections of their own. -/
def Settings.entries : List (SettingEntry Settings) :=
  [.sections "counter_timers" TimerSettings.entries {} (·.timers),
    .section_ "cutting_water_tank" TankSettings.entries {} (·.tank),
    .section_ "waterjetcutter" JetSettings.entries {} (·.jet),
    .section_ "panel" PanelSettings.entries {} (·.panel),
    .seconds "fault_delay_seconds" (·.faultDelay)]

theorem Settings.implements : Implements keys entries where
  stores := by
    refine .cons (.ofDecoder (TimerSettings.implements.decodes _).list (fun _ _ => rfl) ?_) <|
      .cons (.ofDecoder (TankSettings.implements.decodes _) (fun _ _ => rfl) ?_) <|
      .cons (.ofDecoder (JetSettings.implements.decodes _) (fun _ _ => rfl) ?_) <|
      .cons (.ofDecoder (PanelSettings.implements.decodes _) (fun _ _ => rfl) ?_) <|
      .cons (.ofDecoder (decodes_whole rfl) (fun _ _ => rfl) ?_) .nil
    all_goals simp [entries]
  distinct := by decide
  ext {s s'} hget := by
    obtain ⟨_, _, _, _, _⟩ := s
    obtain ⟨_, _, _, _, _⟩ := s'
    simpa [entries] using hget

end Interlock
