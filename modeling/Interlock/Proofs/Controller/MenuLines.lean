import Interlock.Proofs.Controller.Menus
import Interlock.Proofs.Menu.StateLine

namespace Interlock

open Interlock.Menu

namespace Controller

open ConsoleCommand

/-- No module takes the command to resume when something is behind it, but for a
    timer with that code. -/
theorem command_resumeCode (c : Controller) :
    (c.command 601).value.1.isSuspended = c.isSuspended ∧ "resumed" ∉ (c.command 601).value.2 := by
  obtain ⟨htank, hjet⟩ := c.value_command 601
  have hjetKept (jet : WaterJet) : (jet.command 601).value = (jet, none) := rfl
  constructor
  · unfold isSuspended
    rw [htank, hjet]
    congr 1
    · cases c.tank with
      | none => rfl
      | some tank => exact tank.isPaused_command 601
    · cases c.jet with
      | none => rfl
      | some jet => simp [hjetKept]
  · have hreplies : (c.command 601).value.2 =
        (commandTimers 601 c.timers).value.2 ++ (commandTank 601 c.tank).value.2 ++
          (commandJet 601 c.jet).value.2 := rfl
    have htimers : "resumed" ∉ (commandTimers 601 c.timers).value.2 :=
      not_mem_commandTimers (by decide) 601 c.timers
    have htankReply : (commandTank 601 c.tank).value.2 = [] := by
      cases c.tank <;> rfl
    have hjetReply : (commandJet 601 c.jet).value.2 = [] := by
      cases c.jet <;> rfl
    rwa [hreplies, htankReply, hjetReply, List.append_nil, List.append_nil]

section

variable {c : Controller} {word : String}

/-- A word that asks to resume ends every pause, and is answered so if there was
    one. -/
theorem handleLine_resumeWord (hsuspended : c.isSuspended = true) (hword : IsResumeWord word) :
    (c.handleLine word).value.1.isSuspended = false ∧
      (c.handleLine word).value.2 = ["resumed"] := by
  unfold handleLine
  rw [parse_resumeWord hword]
  exact ⟨c.isSuspended_resume, replies_resume hsuspended⟩

/-- With more than blanks behind the word the machine stays suspended: the line
    is then a code that no water module takes, or no line for the modules at
    all. -/
theorem handleLine_resumeWord_with (hsuspended : c.isSuspended = true) (hword : IsResumeWord word)
    {rest : String} (hrest : ∃ ch ∈ rest.toList, Text.isBlank ch = false) :
    let answered := c.handleLine (word ++ " " ++ rest)
    answered.value.1.isSuspended = true ∧ "resumed" ∉ answered.value.2 := by
  unfold handleLine
  rcases parse_resumeWord_with hword hrest with ⟨line, hparse⟩ | ⟨rest', hparse⟩
  · rw [hparse]
    exact ⟨hsuspended, List.not_mem_nil⟩
  · rw [hparse]
    obtain ⟨hkept, hreplies⟩ := c.command_resumeCode
    exact ⟨hkept.trans hsuspended, hreplies⟩

end

/-- A click on a line that runs a command sends it, with the selected file
    behind it, and leaves the menus. -/
theorem click_runCommand {c : Controller} {card : Card} {flags : MachineFlags} {line : Nat}
    {command : String}
    (hoffered : c.navigator.offered? card flags line = some (.runCommand command)) :
    let sent := c.navigator.selected.elim command fun file => command ++ " " ++ file
    let clicked := c.click line card flags
    clicked.value.2 = .ok (.commandSent sent) ∧ clicked.trace.sent = [sent] ∧
      clicked.value.1.isSuspended = c.isSuspended := by
  obtain ⟨hvalue, hsent⟩ := Navigator.click_offered hoffered
  generalize hsentIs : c.navigator.selected.elim command (fun file => command ++ " " ++ file) = sent
  have hperformed (n : Navigator) (hsame : n.selected = c.navigator.selected) :
      (n.perform (.runCommand command)).value = (n.leaveToWatch, .commandSent sent) ∧
        (n.perform (.runCommand command)).trace.sent = [sent] := by
    rw [← hsentIs, ← hsame]
    exact ⟨rfl, rfl⟩
  obtain ⟨hleft, hcommand⟩ := hperformed { c.navigator with line } rfl
  dsimp only at hvalue hsent ⊢
  rw [hleft] at hvalue
  rw [hcommand] at hsent
  unfold Controller.click
  simp only [Traced.value_bind, Traced.trace_bind, Trace.sent_append, hvalue, hsent,
    Traced.value_pure, Traced.trace_pure, true_and]
  exact ⟨rfl, rfl⟩

/-- What comes of a line that runs the command to resume, in either form, while
    the machine is suspended. If nothing is selected it ends every pause. With a
    job file selected, the command is sent with the file behind it, and that
    resumes nothing. -/
structure ResumesFrom (c : Controller)
    (clicked : Traced (Controller × Except AccessFailure Outcome)) (sent : String) : Prop where
  outcome_eq : clicked.value.2 = .ok (.commandSent sent)
  sent_eq : clicked.trace.sent = [sent]
  resumes : c.navigator.selection = none →
    (clicked.value.1.handleLine sent).value.1.isSuspended = false ∧
      (clicked.value.1.handleLine sent).value.2 = ["resumed"]
  stays : c.navigator.selection ≠ none →
    (clicked.value.1.handleLine sent).value.1.isSuspended = true ∧
      "resumed" ∉ (clicked.value.1.handleLine sent).value.2

/-- A click on a line that runs the command to resume comes to what
    `ResumesFrom` says. The selected file has to be a job file, since a name of
    blanks alone would leave the word as it is; every selection of a run is one. -/
theorem resumesFrom_click {c : Controller} (hsuspended : c.isSuspended = true)
    (hjobs : ∀ {chosen}, c.navigator.selection = some chosen → isJobName chosen.path = true)
    {card : Card} {flags : MachineFlags} {line : Nat} {word : String} (hword : IsResumeWord word)
    (hoffered : c.navigator.offered? card flags line = some (.runCommand word)) :
    c.ResumesFrom (c.click line card flags)
      (c.navigator.selected.elim word fun file => word ++ " " ++ file) := by
  obtain ⟨houtcome, hsent, hkept⟩ := click_runCommand hoffered
  have hstill := hkept.trans hsuspended
  refine ⟨houtcome, hsent, fun hnone => ?_, fun hsome => ?_⟩
  · have hselected : c.navigator.selected = none := by
      rw [Navigator.selected, hnone, Option.map_none]
    rw [hselected, Option.elim_none]
    exact handleLine_resumeWord hstill hword
  · obtain ⟨chosen, hchosen⟩ := Option.ne_none_iff_exists'.1 hsome
    have hselected : c.navigator.selected = some chosen.path := by
      rw [Navigator.selected, hchosen, Option.map_some]
    rw [hselected, Option.elim_some]
    exact handleLine_resumeWord_with hstill hword (exists_not_blank_of_isJobName (hjobs hchosen))

/-- In every run, a line that runs the command to resume ends every pause
    exactly if no job file is selected. -/
theorem resume_line_by_selection {ι : Type} [PinAccess ι] (s : Settings) (pins : ι)
    (uses : List Use) (card : Card) (flags : MachineFlags) (line : Nat) (word : String)
    (hword : IsResumeWord word) :
    let c := ((build s pins).value.useAll uses).value
    c.isSuspended = true → c.navigator.offered? card flags line = some (.runCommand word) →
      ∃ sent, c.ResumesFrom (c.click line card flags) sent := by
  intro c hsuspended hoffered
  have hjobs {chosen : Selection} (hchosen : c.navigator.selection = some chosen) :=
    isJobName_of_useAll hchosen
  exact ⟨_, resumesFrom_click hsuspended hjobs hword hoffered⟩

/-- A menu with a line that pauses the cutter, one that resumes, and one to
    choose a job file. -/
def pauseCard : Card where
  list
    | "/sd/menu/main" => .ok [⟨"1.txt", false, 14⟩, ⟨"2.txt", false, 23⟩, ⟨"3.txt", false, 35⟩]
    | "/sd/gcode" => .ok [⟨"part.gcode", false, 2⟩]
    | _ => .error .menuDirectory
  read
    | "/sd/menu/main/1.txt" => .ok "action state 7".toUTF8.toList
    | "/sd/menu/main/2.txt" => .ok "action run-command M601".toUTF8.toList
    | "/sd/menu/main/3.txt" => .ok "file-select /sd/gcode /sd/menu/main".toUTF8.toList
    | _ => .error .menuFile

/-- The cutter is paused from the menu. -/
def pausing : List Use :=
  [.openMenu, .click 1 pauseCard {}]

/-- Nothing is selected, and the line resumes the cutter. -/
theorem resume_line_without_file :
    let c := ((build waterSettings (waterPins [])).value.useAll pausing).value
    ∃ sent, (c.click 2 pauseCard {}).value.2 = .ok (.commandSent sent) ∧
      ((c.click 2 pauseCard {}).value.1.handleLine sent).value.1.isSuspended = false := by
  intro c
  have hsuspended : c.isSuspended = true := by decide +kernel
  have hoffered : c.navigator.offered? pauseCard {} 2 = some (.runCommand "M601") := by
    decide +kernel
  have hnone : c.navigator.selection = none := by decide +kernel
  have hclick : ∃ sent, c.ResumesFrom (c.click 2 pauseCard {}) sent :=
    resume_line_by_selection waterSettings (waterPins []) pausing pauseCard {} 2 "M601"
      (.inr (by decide)) hsuspended hoffered
  clear_value c
  obtain ⟨sent, hresumes⟩ := hclick
  exact ⟨sent, hresumes.outcome_eq, (hresumes.resumes hnone).1⟩

/-- During the pause a job file is chosen. -/
def choosing : List Use :=
  pausing ++ [.click 3 pauseCard {}, .click 1 pauseCard {}]

/-- With a job file selected, the line to resume leaves the cutter paused. -/
theorem resume_line_with_file :
    ¬∀ (s : Settings) (pins : PinBank) (uses : List Use) (card : Card) (flags : MachineFlags)
      (line : Nat) (word : String), IsResumeWord word →
      let c := ((build s pins).value.useAll uses).value
      c.isSuspended = true → c.navigator.offered? card flags line = some (.runCommand word) →
        ∃ sent, (c.click line card flags).value.2 = .ok (.commandSent sent) ∧
          let answered := (c.click line card flags).value.1.handleLine sent
          answered.value.1.isSuspended = false ∧ answered.value.2 = ["resumed"] := by
  intro hresumes
  have hword : IsResumeWord "M601" := .inr (by decide)
  have hclaim := hresumes waterSettings (waterPins []) choosing pauseCard {} 2 "M601" hword
  have hsuspended : ((build waterSettings (waterPins [])).value.useAll choosing).value.isSuspended =
      true := by decide +kernel
  have hoffered : ((build waterSettings (waterPins [])).value.useAll
      choosing).value.navigator.offered? pauseCard {} 2 = some (.runCommand "M601") := by
    decide +kernel
  have hselection : ((build waterSettings (waterPins [])).value.useAll
      choosing).value.navigator.selection = some ⟨"/sd/gcode/part.gcode", 2⟩ := by decide +kernel
  generalize ((build waterSettings (waterPins [])).value.useAll choosing).value = c at *
  have hjobs {chosen : Selection} (hchosen : c.navigator.selection = some chosen) :
      isJobName chosen.path = true := by
    rw [hselection] at hchosen
    obtain rfl := Option.some.inj hchosen
    decide
  have hclick := resumesFrom_click hsuspended hjobs hword hoffered
  obtain ⟨sent, hsent, hresumed, _⟩ := hclaim hsuspended hoffered
  obtain rfl := Outcome.commandSent.inj (Except.ok.inj (hsent.symm.trans hclick.outcome_eq))
  exact absurd (hresumed.symm.trans (hclick.stays (by simp [hselection])).1) Bool.false_ne_true

/-- A click on a line that asks for a state hands the number to the cutter, if
    there is one, and says so either way. -/
theorem click_setState {c : Controller} {card : Card} {flags : MachineFlags} {line raw : Nat}
    (hoffered : c.navigator.offered? card flags line = some (.setState raw)) :
    (c.click line card flags).value.2 = .ok (.stateRequested raw) ∧
      (c.click line card flags).value.1.jet =
        c.jet.map fun jet => (jet.requestState raw).value := by
  obtain ⟨hvalue, _⟩ := Navigator.click_offered hoffered
  have hperformed (n : Navigator) : (n.perform (.setState raw)).value = (n, .stateRequested raw) :=
    rfl
  rw [hperformed] at hvalue
  unfold Controller.click
  simp only [Traced.value_bind, hvalue]
  exact ⟨rfl, (value_requestState _ raw).2⟩

/-- A line that can be selected but has no action only takes the cursor. -/
theorem click_no_action {c : Controller} {card : Card} {flags : MachineFlags} {line : Nat}
    {found : Line} (hshown : c.navigator.shown? card flags line = some (.line found))
    (haction : found.action = none) :
    (c.click line card flags).value =
      ({ c with navigator := { c.navigator with line } }, .ok .stayed) := by
  obtain ⟨hvalue, _⟩ := Navigator.click_shown hshown
  have hfollowed (n : Navigator) : (n.follow (some (.line found))).value = (n, .stayed) := by
    unfold Navigator.follow
    simp [haction]
  rw [hfollowed] at hvalue
  unfold Controller.click
  simp only [Traced.value_bind, hvalue]
  rfl

theorem raw_ofRaw {n : Nat} (hstate : n ≤ 16) : (ProcessState.ofRaw n).raw = n := by
  revert n
  decide

theorem ofRaw_of_gt {n : Nat} (hgreat : 16 < n) : ProcessState.ofRaw n = .invalid := by
  obtain ⟨m, rfl⟩ := Nat.exists_eq_add_of_le' (Nat.succ_le_of_lt hgreat)
  rfl

/-- A selectable line whose only action is to ask for the state of a number
    hands the number to the cutter, exactly if it is a 32-bit word: the cutter
    is then in the state of that number, or in the invalid one if there is no
    such state. A greater number is dropped. -/
theorem state_line_by_word {c : Controller} {jet : WaterJet} (hjet : c.jet = some jet) {card : Card}
    {flags : MachineFlags} {line : Nat} {bytes : List UInt8}
    (hshown : c.navigator.shown? card flags line =
      some (.line (Line.ofBytes c.navigator.language bytes)))
    (hselectable : (Line.ofBytes c.navigator.language bytes).selectable = true) {n : Nat}
    (hacts : OnlyActs bytes ("action state " ++ Nat.repr n)) :
    let clicked := c.click line card flags
    (n ≤ Number.Word.greatest32 → clicked.value.2 = .ok (.stateRequested (min n 255)) ∧
        ∃ after, clicked.value.1.jet = some after ∧ (n ≤ 16 → after.state.raw = n) ∧
          (16 < n → after.state = .invalid)) ∧
      (Number.Word.greatest32 < n →
        clicked.value.2 = .ok .stayed ∧ clicked.value.1.jet = some jet) := by
  intro clicked
  have haction := hacts.action_eq c.navigator.language
  constructor
  · intro hfits
    rw [if_pos hfits] at haction
    have hoffered : c.navigator.offered? card flags line = some (.setState (min n 255)) := by
      rw [Navigator.offered?, hshown]
      simp only [hselectable, if_true, haction]
      rfl
    obtain ⟨houtcome, hafter⟩ := click_setState hoffered
    rw [hjet, Option.map_some] at hafter
    refine ⟨houtcome, _, hafter, ?_⟩
    have hstate : (jet.requestState (min n 255)).value.state = ProcessState.ofRaw (min n 255) :=
      jet.state_goto _
    rw [hstate]
    constructor
    · intro hsmall
      rw [Nat.min_eq_left (hsmall.trans (by decide)), raw_ofRaw hsmall]
    · intro hlarge
      exact ofRaw_of_gt (Nat.lt_min.2 ⟨hlarge, by decide⟩)
  · intro hgreat
    rw [if_neg (Nat.not_le.2 hgreat)] at haction
    have hclicked := click_no_action hshown haction
    rw [hclicked]
    exact ⟨rfl, hjet⟩

/-- A menu with a line that asks for a state. -/
def stateCard (text : String) : Card where
  list _ := .ok [⟨"1.txt", false, 0⟩]
  read _ := .ok text.toUTF8.toList

/-- A cutter with a panel that shows its root menu. -/
def attended : Controller where
  timers := []
  tank := none
  jet := some (WaterJet.ofSettings waterSettings.jet waterSettings.faultDelay)
  navigator := .ofRoot "/sd/menu/main" "en"

/-- The one definition of the card is the line in the first place, if its
    conditions hold. -/
theorem shown_stateCard (text : String)
    (heligible : (Line.ofBytes "en" text.toUTF8.toList).isEligible {} none = true) :
    attended.navigator.shown? (stateCard text) {} 1 =
      some (.line (Line.ofBytes "en" text.toUTF8.toList)) := by
  have haccepts : EntryFilter.definitions.accepts ⟨"1.txt", false, 0⟩ = true := by decide
  have hlines : (stateCard text).menuLines (attended.navigator.view {}) attended.navigator.path
      [⟨"1.txt", false, 0⟩] = [Line.ofBytes "en" text.toUTF8.toList] := by
    rw [Card.menuLines, Card.menuDefinitions, List.filter_cons_of_pos haccepts]
    simp only [Line.decide_holds]
    exact List.filter_cons_of_pos heligible
  have hitems : attended.navigator.items (stateCard text) {} =
      .ok [.line (Line.ofBytes "en" text.toUTF8.toList)] := by
    have hlist : (stateCard text).list attended.navigator.path = .ok [⟨"1.txt", false, 0⟩] := rfl
    have hmode : attended.navigator.mode = .menu := rfl
    rw [Navigator.items, hlist, Except.map, hmode, hlines]
    rfl
  rw [Navigator.shown?, hitems]
  rfl

/-- The line asks for the state of a tank that was given up, and the cutter
    enters it. -/
theorem state_line_asks_idle :
    ∃ after, (attended.click 1 (stateCard "action state 10") {}).value.1.jet = some after ∧
      after.state.raw = 10 := by
  have hacts : OnlyActs "action state 10".toUTF8.toList ("action state " ++ Nat.repr 10) :=
    onlyActs_of_line (by decide +kernel) (by decide +kernel) (by decide +kernel)
  have hshown := shown_stateCard "action state 10" (by decide +kernel)
  obtain ⟨hasks, _⟩ := state_line_by_word rfl hshown (by decide +kernel) hacts
  obtain ⟨_, after, hafter, hstate, _⟩ := hasks (by decide)
  exact ⟨after, hafter, hstate (by decide)⟩

/-- The number after the greatest one of 32 bits: the click leaves the cutter
    where it is, though the number names no state. -/
theorem state_line_dropped :
    ¬∀ (c : Controller) (jet : WaterJet) (card : Card) (flags : MachineFlags) (line : Nat)
      (bytes : List UInt8) (n : Nat), c.jet = some jet →
      c.navigator.shown? card flags line =
        some (.line (Line.ofBytes c.navigator.language bytes)) →
      (Line.ofBytes c.navigator.language bytes).selectable = true →
      OnlyActs bytes ("action state " ++ Nat.repr n) →
        ∃ after, (c.click line card flags).value.1.jet = some after ∧
          (n ≤ 16 → after.state.raw = n) ∧ (16 < n → after.state = .invalid) := by
  intro hasks
  have hacts : OnlyActs "action state 4294967296".toUTF8.toList
      ("action state " ++ Nat.repr 4294967296) :=
    onlyActs_of_line (by decide +kernel) (by decide +kernel) (by decide +kernel)
  have hshown := shown_stateCard "action state 4294967296" (by decide +kernel)
  obtain ⟨after, hafter, _, hinvalid⟩ :=
    hasks attended _ _ {} 1 _ 4294967296 rfl hshown (by decide +kernel) hacts
  have haction : (Line.ofBytes "en" "action state 4294967296".toUTF8.toList).action = none := by
    decide +kernel
  have hclicked := click_no_action hshown haction
  rw [hclicked] at hafter
  obtain rfl : WaterJet.ofSettings waterSettings.jet waterSettings.faultDelay = after :=
    Option.some.inj hafter
  exact absurd (hinvalid (by decide)) (by decide)

end Controller

end Interlock
