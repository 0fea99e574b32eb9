import Interlock.Failure
import Interlock.Json.Reader
import Interlock.Number.Word
import Interlock.Settings.Basic
import Interlock.Text.Utf8

namespace Interlock

open Interlock.Number

/-- A key of a section and how its value is stored. -/
structure SettingKey (α : Type) where
  name : String
  store : Json → α → Option α
  /-- Whether the key has to be given. -/
  required : Bool := false

namespace SettingKey

variable {α β : Type}

/-- Stores a value under a key in a section, if it can be decoded. -/
def ofDecoder (name : String) (decode : Json → Option β) (put : β → α → α)
    (required : Bool := false) : SettingKey α where
  name
  store value section_ := (decode value).map fun b => put b section_
  required

/-- Stores the field of a key if it is given. -/
def storeField (fields : List (Option String × Json)) (section_ : α) (key : SettingKey α) :
    Option α :=
  match Json.lookup? key.name fields with
  | none => if key.required then none else some section_
  | some value => key.store value section_

/-- Stores the values of an array under the keys in order. -/
def storeItems : List (SettingKey α) → List Json → α → Option α
  | _, [], section_ => some section_
  | [], _ :: _, _ => none
  | key :: keys, item :: items, section_ => (key.store item section_).bind (storeItems keys items)

/-- Decodes a section, starting from its defaults. It is an object, or an array
    of its values in the order of the keys. Keys that are absent keep their
    defaults and unknown keys are ignored, but a key that is given twice or that
    has a value of the wrong kind spoils the whole section. -/
def decodeSection (keys : List (SettingKey α)) (defaults : α) : Json → Option α
  | .object fields =>
    if fields.all (fun field => field.1.isSome) &&
        keys.all (fun key => Json.occurrences key.name fields ≤ 1) then
      keys.foldlM (storeField fields) defaults
    else none
  | .array items =>
    if (keys.drop items.length).any (·.required) then none else storeItems keys items defaults
  | _ => none

end SettingKey

namespace Json

/-- One of the two truth values. -/
def toBool? : Json → Option Bool
  | .bool b => some b
  | _ => none

/-- A text that spells characters. -/
def toString? : Json → Option String
  | .text s => s
  | _ => none

/-- A whole number without a sign, up to a bound. -/
def toNat? (greatest : Nat) : Json → Option Nat
  | .number n => n.toNat? greatest
  | _ => none

/-- A number in single precision. -/
def toSingle? : Json → Option Single
  | .number n => Single.ofNumeral? n
  | _ => none

/-- An array of which every item can be decoded. -/
def toList? {α : Type} (decode : Json → Option α) : Json → Option (List α)
  | .array items => items.mapM decode
  | _ => none

/-- The range of command codes. -/
def toCode? : Json → Option Nat :=
  toNat? Word.greatest16

/-- The range of times in seconds. -/
def toSeconds? : Json → Option Nat :=
  toNat? Word.greatest32

end Json

open SettingKey

/-- The keys of a switch binding. -/
def SwitchBinding.keys : List (SettingKey SwitchBinding) :=
  [ofDecoder "name" Json.toString? (fun v b => { b with name := v }) true,
    ofDecoder "on_trigger" Json.toBool? fun v b => { b with onTrigger := v }]

/-- A binding must be named, and is on when the timer triggers unless it says
    otherwise. -/
def SwitchBinding.ofJson? : Json → Option SwitchBinding :=
  decodeSection keys ⟨"", true⟩

/-- The keys of a switch timer. -/
def TimerSettings.keys : List (SettingKey TimerSettings) :=
  [ofDecoder "name" Json.toString? fun v s => { s with name := v },
    ofDecoder "enable" Json.toBool? fun v s => { s with enable := v },
    ofDecoder "switches" (Json.toList? SwitchBinding.ofJson?) fun v s => { s with switches := v },
    ofDecoder "threshold_seconds" Json.toSingle? fun v s => { s with threshold := v },
    ofDecoder "type" Json.toString? fun v s => { s with shot := v },
    ofDecoder "trigger" Json.toString? fun v s => { s with trigger := v },
    ofDecoder "inverted" Json.toBool? fun v s => { s with inverted := v },
    ofDecoder "arm_mcode" Json.toCode? fun v s => { s with armCode := v },
    ofDecoder "disarm_mcode" Json.toCode? fun v s => { s with disarmCode := v },
    ofDecoder "menu" Json.toString? fun v s => { s with menu := v }]

/-- A switch timer is disabled unless it says otherwise. -/
def TimerSettings.ofJson? : Json → Option TimerSettings :=
  decodeSection keys {}

/-- The keys of the water tank. -/
def TankSettings.keys : List (SettingKey TankSettings) :=
  [ofDecoder "enable" Json.toBool? fun v s => { s with enable := v },
    ofDecoder "middle_float_pin" Json.toString? fun v s => { s with middleFloatPin := v },
    ofDecoder "high_float_pin" Json.toString? fun v s => { s with highFloatPin := v },
    ofDecoder "dump_valve_pin" Json.toString? fun v s => { s with dumpValvePin := v },
    ofDecoder "low_pressure_pump_pin" Json.toString? fun v s => { s with lowPressurePumpPin := v },
    ofDecoder "low_water_detected_menu" Json.toString? fun v s => { s with lowWaterMenu := v },
    ofDecoder "high_water_detected_menu" Json.toString? fun v s => { s with highWaterMenu := v },
    ofDecoder "filters_blocked_menu" Json.toString? fun v s => { s with filtersBlockedMenu := v },
    ofDecoder "fill_cycle_seconds" Json.toSeconds? fun v s => { s with fillCycle := v },
    ofDecoder "filter_cleaning_seconds" Json.toSeconds? fun v s => { s with filterCleaning := v },
    ofDecoder "water_level_too_low_seconds" Json.toSeconds? fun v s => { s with tooLow := v }]

def TankSettings.ofJson? : Json → Option TankSettings :=
  decodeSection keys {}

/-- The keys of the cutter. -/
def JetSettings.keys : List (SettingKey JetSettings) :=
  [ofDecoder "enable" Json.toBool? fun v s => { s with enable := v },
    ofDecoder "door_switch_pin" Json.toString? fun v s => { s with doorSwitchPin := v },
    ofDecoder "middle_float_pin" Json.toString? fun v s => { s with middleFloatPin := v },
    ofDecoder "high_float_pin" Json.toString? fun v s => { s with highFloatPin := v },
    ofDecoder "dump_valve_pin" Json.toString? fun v s => { s with dumpValvePin := v },
    ofDecoder "low_pressure_pump_pin" Json.toString? fun v s => { s with lowPressurePumpPin := v },
    ofDecoder "high_pressure_pump_pin" Json.toString? fun v s =>
      { s with highPressurePumpPin := v },
    ofDecoder "error_wl_low_menu" Json.toString? fun v s => { s with lowWaterMenu := v },
    ofDecoder "error_wl_high_menu" Json.toString? fun v s => { s with highWaterMenu := v },
    ofDecoder "error_clean_filters_menu" Json.toString? fun v s =>
      { s with filtersBlockedMenu := v },
    ofDecoder "fill_cycle_seconds" Json.toSeconds? fun v s => { s with fillCycle := v },
    ofDecoder "filter_cleaning_seconds" Json.toSeconds? fun v s => { s with filterCleaning := v },
    ofDecoder "water_level_too_low_seconds" Json.toSeconds? fun v s => { s with tooLow := v }]

def JetSettings.ofJson? : Json → Option JetSettings :=
  decodeSection keys {}

/-- The keys of the operator panel. -/
def PanelSettings.keys : List (SettingKey PanelSettings) :=
  [ofDecoder "menu_root" Json.toString? fun v s => { s with menuRoot := v },
    ofDecoder "language" Json.toString? fun v s => { s with language := v }]

def PanelSettings.ofJson? : Json → Option PanelSettings :=
  decodeSection keys {}

namespace Settings

/-- The keys of the whole document. -/
def keys : List (SettingKey Settings) :=
  [ofDecoder "counter_timers" (Json.toList? TimerSettings.ofJson?) fun v s =>
    { s with timers := v },
    ofDecoder "cutting_water_tank" TankSettings.ofJson? fun v s => { s with tank := v },
    ofDecoder "waterjetcutter" JetSettings.ofJson? fun v s => { s with jet := v },
    ofDecoder "panel" PanelSettings.ofJson? fun v s => { s with panel := v },
    ofDecoder "fault_delay_seconds" Json.toSeconds? fun v s => { s with faultDelay := v }]

/-- The settings of a document. One fault in any section spoils them all. -/
def ofJson? : Json → Option Settings :=
  decodeSection keys {}

/-- The failure that stands for any fault of a document. -/
def undecodable : Failure :=
  .setup (.invalid "config" "json")

/-- Reads the settings from the text of a document. -/
def parse (text : String) : Except Failure Settings :=
  match (Json.parse? text).bind ofJson? with
  | some settings => .ok settings
  | none => .error undecodable

/-- Reads the settings from a file, given its bytes if there is such a file. -/
def load (file : Option (List UInt8)) : Except Failure Settings :=
  match file.bind Text.Utf8.decode? with
  | some text => parse text
  | none => .error (.access .configuration)

end Settings

end Interlock
