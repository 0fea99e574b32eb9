import Interlock.Json.Encode
import Interlock.Settings.Basic

namespace Interlock

open Json

instance : Encode SwitchBinding where
  encode b := .ofFields [field "name" b.name, field "on_trigger" b.onTrigger]

instance : Encode TimerSettings where
  encode s := .ofFields
    [field "name" s.name, field "enable" s.enable, field "switches" s.switches,
      field "threshold_seconds" s.threshold.toText, field "type" s.shot, field "trigger" s.trigger,
      field "inverted" s.inverted, field "arm_mcode" s.armCode, field "disarm_mcode" s.disarmCode,
      field "menu" s.menu]

instance : Encode TankSettings where
  encode s := .ofFields
    [field "enable" s.enable, field "middle_float_pin" s.middleFloatPin,
      field "high_float_pin" s.highFloatPin, field "dump_valve_pin" s.dumpValvePin,
      field "low_pressure_pump_pin" s.lowPressurePumpPin,
      field "low_water_detected_menu" s.lowWaterMenu,
      field "high_water_detected_menu" s.highWaterMenu,
      field "filters_blocked_menu" s.filtersBlockedMenu, field "fill_cycle_seconds" s.fillCycle,
      field "filter_cleaning_seconds" s.filterCleaning,
      field "water_level_too_low_seconds" s.tooLow]

instance : Encode JetSettings where
  encode s := .ofFields
    [field "enable" s.enable, field "door_switch_pin" s.doorSwitchPin,
      field "middle_float_pin" s.middleFloatPin, field "high_float_pin" s.highFloatPin,
      field "dump_valve_pin" s.dumpValvePin, field "low_pressure_pump_pin" s.lowPressurePumpPin,
      field "high_pressure_pump_pin" s.highPressurePumpPin,
      field "error_wl_low_menu" s.lowWaterMenu, field "error_wl_high_menu" s.highWaterMenu,
      field "error_clean_filters_menu" s.filtersBlockedMenu, field "fill_cycle_seconds" s.fillCycle,
      field "filter_cleaning_seconds" s.filterCleaning,
      field "water_level_too_low_seconds" s.tooLow]

instance : Encode PanelSettings where
  encode s := .ofFields [field "menu_root" s.menuRoot, field "language" s.language]

instance : Encode Settings where
  encode s := .ofFields
    [field "counter_timers" s.timers, field "cutting_water_tank" s.tank,
      field "waterjetcutter" s.jet, field "panel" s.panel, field "fault_delay_seconds" s.faultDelay]

end Interlock
