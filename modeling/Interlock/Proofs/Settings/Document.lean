import Interlock.Proofs.Json.Grammar
import Interlock.Proofs.Settings.Entries

namespace Interlock.Settings

open Interlock.Json Interlock.Number

/-- The settings that a document describes. What it gives for a key stands in
    them, and everything else is at its default. -/
def Describes : Json → Settings → Prop :=
  SettingEntry.Describes entries {}

/-- The shape of a document that describes settings. -/
def shape : Shape :=
  SettingEntry.shapeOf entries

/-- The decoder finds the settings that a document describes, as it implements
    every section. -/
theorem decodes : Decodes ofJson? shape Describes :=
  implements.decodes {}

/-- What becomes of the text of a document, which is the same for all of its
    spellings. -/
theorem parse_eq {document : Json} {text : String} (hspelling : document.Spelling text) :
    parse text = (ofJson? document).elim (.error undecodable) .ok := by
  rw [parse, hspelling.parse?_eq, Option.bind_some]
  cases ofJson? document <;> rfl

/-- The text of a document becomes the settings that the document describes, and
    no others. -/
theorem parse_eq_ok_iff {document : Json} {text : String} (hspelling : document.Spelling text)
    (settings : Settings) : parse text = .ok settings ↔ Describes document settings := by
  rw [parse_eq hspelling, ← decodes.eq_some_iff document settings]
  cases ofJson? document <;> simp

theorem parse_of_faulty {document : Json} {text : String} (hspelling : document.Spelling text)
    (hfaulty : shape.Faulty document) : parse text = .error undecodable := by
  rw [parse_eq hspelling, (decodes.eq_none_iff document).2 hfaulty]
  rfl

/-- A key that nothing knows, a timer with one switch, a time with a fraction
    and whole numbers. -/
def partialDocument : Json :=
  ofFields [("x", .array []),
    ("counter_timers",
    .array [ofFields [("switches", .array [ofFields [("name", ofString "mist")]]),
      ("threshold_seconds", .number ⟨false, ['0'], ['1'], none⟩),
      ("arm_mcode", .number ⟨false, ['5'], [], none⟩)]]),
    ("fault_delay_seconds", .number ⟨false, ['7'], [], none⟩)]

/-- One of its spellings. -/
def partialText : String :=
  "\x7b\"x\":[],\"counter_timers\":[\x7b\"switches\":[\x7b\"name\":\"mist\"\x7d]," ++
    "\"threshold_seconds\":0.1,\"arm_mcode\":5\x7d],\"fault_delay_seconds\":7\x7d"

end Interlock.Settings
