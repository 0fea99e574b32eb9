import Interlock.Proofs.Menu.Browse

namespace Interlock.Menu

open Interlock.Text

namespace Navigator

/-- Browsing, a click takes a job file: the card lists it in the directory on
    display, it is accepted as a job file and no directory, and it stands in the
    line that is clicked. -/
inductive Takes (n : Navigator) : Move → Selection → Prop
  | click {card : Card} {flags : MachineFlags} {line : Nat} {entries : List CardEntry}
    {entry : CardEntry} (browsing : n.isBrowsing = true) (listed : card.list n.path = .ok entries)
    (mem : entry ∈ entries) (accepted : EntryFilter.jobs.accepts entry = true)
    (file : entry.isDirectory = false) (shown : n.shown? card flags line = some (.job entry)) :
    Takes n (.click line card flags) ⟨joinPath n.path entry.name, entry.size⟩

/-- A move leaves the menus, or comes to the root menu. Nothing else drops what
    is selected. -/
inductive Drops (n : Navigator) : Move → Prop
  | opens : Drops n .openRoot
  | shows {dir : String} (root_eq : trimDir dir = n.root) : Drops n (.called (.showMenu dir))
  | runs {card : Card} {flags : MachineFlags} {line : Nat} {command : String}
    (offered : n.offered? card flags line = some (.runCommand command)) :
    Drops n (.click line card flags)
  | watches {card : Card} {flags : MachineFlags} {line : Nat}
    (offered : n.offered? card flags line = some .gotoWatch) : Drops n (.click line card flags)
  | enters {card : Card} {flags : MachineFlags} {line : Nat} {dir : String}
    (offered : n.offered? card flags line = some (.gotoMenu dir)) (root_eq : trimDir dir = n.root) :
    Drops n (.click line card flags)
  | leaves {card : Card} {flags : MachineFlags} (menu : n.mode = .menu) (top : n.path = n.root) :
    Drops n (.click 0 card flags)
  | climbs {card : Card} {flags : MachineFlags} (menu : n.mode = .menu)
    (root_eq : trimDir n.above = n.root) : Drops n (.click 0 card flags)
  /-- Out of browsing, into the root menu where it began. -/
  | returns {card : Card} {flags : MachineFlags} {start returnMenu origin : String}
    (browse : n.mode = .browse start returnMenu origin) (top : n.path = start)
    (root_eq : trimDir origin = n.root) : Drops n (.click 0 card flags)

/-- What is selected stays so through moves, of which none drops it or takes
    another file. -/
def KeepsSelection (n : Navigator) : List Move → Prop
  | [] => True
  | m :: later => ¬n.Drops m ∧ (∀ other, ¬n.Takes m other) ∧ (n.move m).KeepsSelection later

section

variable {n : Navigator} {card : Card} {flags : MachineFlags} {line : Nat}

theorem selection_enter_root (hmode : n.mode = .menu) {dir : String}
    (hroot : trimDir dir = n.root) :
    (n.enter dir).selection = none := by
  simp [enter, isBrowsing_eq_false hmode, hroot, reset]

theorem selection_enter_of_ne {dir : String} (hother : trimDir dir ≠ n.root) :
    (n.enter dir).selection = n.selection := by
  simp [enter, hother]

/-- Browsing keeps what is selected, also where it comes to the directory of the
    root menu. -/
theorem selection_enter_of_browsing (hbrowsing : n.isBrowsing = true) (dir : String) :
    (n.enter dir).selection = n.selection := by
  simp [enter, hbrowsing]

theorem up_of_root (hmode : n.mode = .menu) (hpath : n.path = n.root) :
    n.up = leaveToWatch { n with line := 0 } := by
  simp only [up, goUp, hmode, hpath, if_true]

theorem up_of_above (hmode : n.mode = .menu) (hpath : n.path ≠ n.root) :
    n.up = enter { n with line := 0 } n.above := by
  rw [up_of_menu hmode hpath, above_of_menu hmode]

/-- The file that a click takes is selected after it. Coming to the menu that
    follows may drop what was selected, but the file is noted only then. -/
theorem Takes.selection_eq {m : Move} {chosen : Selection} (htakes : n.Takes m chosen) :
    (n.move m).selection = some chosen := by
  cases htakes with
  | click _ _ _ _ hfile hshown =>
    cases stands_of_shown hshown with
    | job hmode =>
      rw [move, (click_shown hshown).1]
      simp [follow, hmode, takeEntry, hfile]

/-- A file that is taken has the name of a job file. The card accepted it by its
    own name, and a directory before a name does not change how it ends. -/
theorem Takes.isJobName {m : Move} {chosen : Selection} (htakes : n.Takes m chosen) :
    Menu.isJobName chosen.path = true := by
  cases htakes with
  | click _ _ _ haccepted hfile =>
    exact hasExtension_joinPath (isJobName_of_accepts haccepted hfile) n.path

theorem selection_showMenu_root {dir : String} (hroot : trimDir dir = n.root) :
    (n.showMenu dir).selection = none := by
  dsimp only [showMenu]
  exact selection_enter_root rfl hroot

theorem selection_showMenu_of_ne {dir : String} (hother : trimDir dir ≠ n.root) :
    (n.showMenu dir).selection = n.selection := by
  dsimp only [showMenu]
  exact selection_enter_of_ne hother

/-- Nothing is selected after a move that drops. The root has no slash at its
    end, so that the way up from it is told apart from that of every other menu. -/
theorem Drops.selection_eq (hroot : Trimmed n.root) {m : Move} (hdrops : n.Drops m) :
    (n.move m).selection = none := by
  cases hdrops with
  | opens => exact selection_showMenu_root (trimDir_of_trimmed hroot)
  | shows hdir => exact selection_showMenu_root hdir
  | runs hoffered | watches hoffered =>
    rw [move, (click_offered hoffered).1]
    rfl
  | @enters _ _ line dir hoffered hdir =>
    have hmode : ({ n with line } : Navigator).mode = .menu := (line_of_offered hoffered).1
    rw [move, (click_offered hoffered).1]
    dsimp only [perform]
    exact selection_enter_root hmode hdir
  | leaves hmode hpath =>
    rw [move, value_click_up, up_of_root hmode hpath]
    rfl
  | climbs hmode habove =>
    rw [move, value_click_up]
    by_cases hpath : n.path = n.root
    · rw [up_of_root hmode hpath]
      rfl
    · rw [up_of_above hmode hpath]
      exact selection_enter_root hmode habove
  | returns hmode hpath horigin =>
    rw [move, value_click_up, up_of_start hmode hpath]
    exact selection_enter_root rfl horigin

/-- A click on the way up keeps what is selected, unless it drops it. -/
theorem selection_up_of_not_drops (hkept : ¬n.Drops (.click 0 card flags)) :
    n.up.selection = n.selection := by
  cases hmode : n.mode with
  | menu =>
    have hpath : n.path ≠ n.root := fun htop => hkept (.leaves hmode htop)
    rw [up_of_above hmode hpath]
    exact selection_enter_of_ne fun hroot => hkept (.climbs hmode hroot)
  | browse start returnMenu origin =>
    by_cases hpath : n.path = start
    · rw [up_of_start hmode hpath]
      exact selection_enter_of_ne fun hroot => hkept (.returns hmode hpath hroot)
    · rw [up_of_browse hmode hpath]
      exact selection_enter_of_browsing (isBrowsing_eq_true hmode) _

/-- A click on an action keeps what is selected, unless it drops it. -/
theorem selection_click_of_offered {action : Action}
    (hoffered : n.offered? card flags line = some action)
    (hkept : ¬n.Drops (.click line card flags)) :
    (n.click line card flags).value.1.selection = n.selection := by
  rw [(click_offered hoffered).1]
  cases action with
  | gotoMenu dir =>
    dsimp only [perform]
    exact selection_enter_of_ne fun hroot => hkept (.enters hoffered hroot)
  | runCommand command => exact absurd (.runs hoffered) hkept
  | gotoWatch => exact absurd (.watches hoffered) hkept
  | fileSelect start returnMenu =>
    dsimp only [perform]
    exact selection_enter_of_browsing (isBrowsing_eq_true rfl) start
  | setState raw => rfl

/-- Browsing, a click on an entry keeps what is selected, unless it takes a
    file. -/
theorem selection_click_of_job {entry : CardEntry}
    (hshown : n.shown? card flags line = some (.job entry))
    (hkept : ∀ other, ¬n.Takes (.click line card flags) other) :
    (n.click line card flags).value.1.selection = n.selection := by
  cases stands_of_shown hshown with
  | job hmode hlist hmem haccepted =>
    have hbrowsing : n.isBrowsing = true := isBrowsing_eq_true hmode
    cases hdirectory : entry.isDirectory with
    | false => exact absurd (.click hbrowsing hlist hmem haccepted hdirectory hshown) (hkept _)
    | true =>
      rw [value_click_directory hmode hshown hdirectory]
      exact selection_enter_of_browsing hbrowsing _

/-- A move that neither drops nor takes keeps what is selected: it comes to
    another menu than the root, browses, or leads nowhere. -/
theorem selection_move_of_kept {m : Move} (hdrops : ¬n.Drops m)
    (htakes : ∀ other, ¬n.Takes m other) :
    (n.move m).selection = n.selection := by
  cases m with
  | openRoot => exact absurd .opens hdrops
  | called call =>
    cases call with
    | showMenu dir => exact selection_showMenu_of_ne fun hroot => hdrops (.shows hroot)
    | faultIndicator on => rfl
  | scroll delta card flags =>
    obtain ⟨line, hscrolled⟩ := n.value_scroll delta card flags
    rw [move, hscrolled]
  | click line card flags =>
    cases line with
    | zero => exact selection_up_of_not_drops hdrops
    | succ place =>
      cases hshown : n.shown? card flags (place + 1) with
      | none => rw [move, click_nothing hshown]
      | some item =>
        cases item with
        | job entry => exact selection_click_of_job hshown htakes
        | line found =>
          cases hoffered : n.offered? card flags (place + 1) with
          | none => rw [move, click_line_stays hshown hoffered]
          | some action => exact selection_click_of_offered hoffered hdrops

/-- What is selected after a move was taken by it, or selected before and kept. -/
theorem selection_move_iff (hroot : Trimmed n.root) {m : Move} {chosen : Selection} :
    (n.move m).selection = some chosen ↔ n.Takes m chosen ∨
      n.selection = some chosen ∧ ¬n.Drops m ∧ ∀ other, ¬n.Takes m other := by
  by_cases htakes : ∃ other, n.Takes m other
  · obtain ⟨other, htakes⟩ := htakes
    constructor
    · intro hchosen
      obtain rfl := Option.some.inj (htakes.selection_eq.symm.trans hchosen)
      exact .inl htakes
    · rintro (hchosen | ⟨_, _, hnone⟩)
      · exact hchosen.selection_eq
      · exact absurd htakes (hnone other)
  · have hnone : ∀ other, ¬n.Takes m other := not_exists.1 htakes
    by_cases hdrops : n.Drops m
    · simp [hdrops.selection_eq hroot, hdrops, hnone]
    · simp [selection_move_of_kept hdrops hnone, hdrops, hnone]

/-- Nothing is selected after a move that drops, and after one that takes
    nothing if nothing was selected before. -/
theorem selection_move_eq_none_iff (hroot : Trimmed n.root) {m : Move} :
    (n.move m).selection = none ↔ n.Drops m ∨ n.selection = none ∧ ∀ chosen, ¬n.Takes m chosen := by
  simp only [Option.eq_none_iff_forall_ne_some, ne_eq, selection_move_iff hroot]
  constructor
  · intro hnone
    refine or_iff_not_imp_left.2 fun hdrops => ?_
    have htakes (chosen : Selection) : ¬n.Takes m chosen := fun htakes => hnone chosen (.inl htakes)
    exact ⟨fun chosen hkept => hnone chosen (.inr ⟨hkept, hdrops, htakes⟩), htakes⟩
  · rintro (hdrops | ⟨hnone, htakes⟩) chosen (htaken | ⟨hkept, hstays, _⟩)
    · exact absurd (htaken.selection_eq.symm.trans (hdrops.selection_eq hroot)) nofun
    · exact hstays hdrops
    · exact htakes chosen htaken
    · exact hnone chosen hkept

end

/-- A move of a history takes a job file, and the moves after it keep it
    selected. -/
def LastTaken (n : Navigator) (moves : List Move) (chosen : Selection) : Prop :=
  ∃ before m after, moves = before ++ m :: after ∧ (n.moveAll before).Takes m chosen ∧
    ((n.moveAll before).move m).KeepsSelection after

/-- What is selected after moves was selected before and kept by all of them, or
    is the last one taken. -/
theorem selection_moveAll_iff {n : Navigator} (hroot : Trimmed n.root) {moves : List Move}
    {chosen : Selection} :
    (n.moveAll moves).selection = some chosen ↔
      n.selection = some chosen ∧ n.KeepsSelection moves ∨ n.LastTaken moves chosen := by
  induction moves generalizing n with
  | nil => simp [moveAll, KeepsSelection, LastTaken]
  | cons m moves ih =>
    have hmoved : Trimmed (n.move m).root := by
      rwa [← root_moveAll n [m]] at hroot
    have hcons : n.moveAll (m :: moves) = (n.move m).moveAll moves := rfl
    rw [hcons, ih hmoved, selection_move_iff hroot]
    constructor
    · rintro (⟨htakes | ⟨hkept, hdrops, hnone⟩, hlater⟩ |
        ⟨before, take, after, rfl, htakes, hlater⟩)
      · exact .inr ⟨[], m, moves, rfl, htakes, hlater⟩
      · exact .inl ⟨hkept, hdrops, hnone, hlater⟩
      · exact .inr ⟨m :: before, take, after, rfl, htakes, hlater⟩
    · rintro (⟨hkept, hdrops, hnone, hlater⟩ | ⟨before, take, after, hsplit, htakes, hlater⟩)
      · exact .inl ⟨.inr ⟨hkept, hdrops, hnone⟩, hlater⟩
      · rcases List.cons_eq_append_iff.1 hsplit with ⟨rfl, hhead⟩ | ⟨before, rfl, rfl⟩
        · obtain ⟨rfl, rfl⟩ := List.cons.inj hhead
          exact .inl ⟨.inl htakes, hlater⟩
        · exact .inr ⟨before, take, after, rfl, htakes, hlater⟩

theorem LastTaken.isJobName {n : Navigator} {moves : List Move} {chosen : Selection}
    (htaken : n.LastTaken moves chosen) : Menu.isJobName chosen.path = true := by
  obtain ⟨_, _, _, _, htakes, _⟩ := htaken
  exact htakes.isJobName

/-- In the beginning nothing is selected, so that only what a move took can be. -/
theorem selection_iff_lastTaken (root language : String) (moves : List Move) (chosen : Selection) :
    ((ofRoot root language).moveAll moves).selection = some chosen ↔
      (ofRoot root language).LastTaken moves chosen := by
  have hnone : (ofRoot root language).selection = none := rfl
  rw [selection_moveAll_iff (placed_ofRoot root language).root_trimmed, hnone]
  simp

end Navigator

/-- Of the lines of a definition about the selection of a job file, the last one
    wants one or not. -/
def WantsJob (bytes : List UInt8) (wanted : Bool) : Prop :=
  ∃ name rest, LastEntry (IsAbout .fileIsGcode) (splitAll 10 bytes) (some (name, rest)) ∧
    flagOf rest = wanted

theorem WantsJob.expected_eq {bytes : List UInt8} {wanted : Bool} (hwants : WantsJob bytes wanted)
    (language : String) : (Line.ofBytes language bytes).expected .fileIsGcode = some wanted := by
  obtain ⟨name, rest, hlast, rfl⟩ := hwants
  rw [ofBytes_eq_lineFrom, lineFrom_expected hlast]
  rfl

namespace Line

/-- Only one condition looks at the selection. -/
theorem actual_of_ne (flags : MachineFlags) (selected : Option String) {c : Condition}
    (hother : c ≠ .fileIsGcode) : actual flags selected c = flags.holds c := by
  cases c with
  | fileIsGcode => exact absurd rfl hother
  | _ => rfl

/-- A line is shown if the selection is as the line wants it and the machine
    meets its other conditions. -/
theorem isEligible_iff_of_expected {line : Line} {wanted : Bool}
    (hwants : line.expected .fileIsGcode = some wanted) (flags : MachineFlags)
    (selected : Option String) :
    line.isEligible flags selected = true ↔ actual flags selected .fileIsGcode = wanted ∧
      ∀ c expected, c ≠ .fileIsGcode → line.expected c = some expected →
        flags.holds c = expected := by
  rw [isEligible_iff, Holds]
  constructor
  · intro hholds
    refine ⟨hholds _ _ hwants, fun c expected hother hexpected => ?_⟩
    rw [← hholds c expected hexpected, actual_of_ne flags selected hother]
  · rintro ⟨hselected, hothers⟩ c expected hexpected
    by_cases hc : c = .fileIsGcode
    · subst hc
      rw [hselected]
      exact Option.some.inj (hwants.symm.trans hexpected)
    · rw [actual_of_ne flags selected hc]
      exact hothers c expected hc hexpected

end Line

namespace Navigator

/-- The condition that looks at the name of the selected file tells whether
    there is one, as long as every file that is selected has the name of a job
    file. -/
theorem actual_fileIsGcode {n : Navigator}
    (hjobs : ∀ chosen, n.selection = some chosen → isJobName chosen.path = true)
    (flags : MachineFlags) :
    Line.actual flags n.selected .fileIsGcode = n.selection.isSome := by
  unfold selected
  cases hselection : n.selection with
  | none => rfl
  | some chosen => exact hjobs chosen hselection

/-- In every history, what is selected is the file of the last click that took
    one, unless it has been dropped since, and it has the name of a job file. So
    a line that wants a job file, or none, has its condition met exactly if one
    is selected, or none. Nothing is selected after a move exactly if the move
    drops it, or nothing was selected before and no file is taken. -/
theorem job_condition_iff_selected (root language : String) (moves : List Move) :
    let n := (ofRoot root language).moveAll moves
    (∀ chosen, n.selection = some chosen ↔ (ofRoot root language).LastTaken moves chosen) ∧
      (∀ chosen, n.selection = some chosen →
        isJobName chosen.path = true ∧ EndsIn EntryFilter.jobs.extension chosen.path) ∧
      (∀ (bytes : List UInt8) (wanted : Bool) (flags : MachineFlags), WantsJob bytes wanted →
        let line := Line.ofBytes n.language bytes
        (line.expected .fileIsGcode = some (Line.actual flags n.selected .fileIsGcode) ↔
            n.selection.isSome = wanted) ∧
          (line.isEligible flags n.selected = true ↔ n.selection.isSome = wanted ∧
            ∀ c expected, c ≠ .fileIsGcode → line.expected c = some expected →
              flags.holds c = expected)) ∧
      ∀ m, (n.move m).selection = none ↔
        n.Drops m ∨ n.selection = none ∧ ∀ chosen, ¬n.Takes m chosen := by
  intro n
  have htaken (chosen : Selection) : n.selection = some chosen ↔ _ :=
    selection_iff_lastTaken root language moves chosen
  have hjobs (chosen : Selection) (hchosen : n.selection = some chosen) :
      isJobName chosen.path = true := ((htaken chosen).1 hchosen).isJobName
  have hroot : Trimmed n.root := ((placed_ofRoot root language).moveAll moves).root_trimmed
  refine ⟨htaken, fun chosen hchosen => ?_, fun bytes wanted flags hwants => ?_, fun m =>
    selection_move_eq_none_iff hroot⟩
  · have hjob := hjobs chosen hchosen
    exact ⟨hjob, isJobName_iff_endsIn.1 hjob⟩
  intro line
  have hexpected := hwants.expected_eq n.language
  have hactual := actual_fileIsGcode hjobs flags
  constructor
  · rw [hexpected, hactual, Option.some.injEq, eq_comm]
  · rw [Line.isEligible_iff_of_expected hexpected, hactual]

/-- A definition of one line, which wants a job file. -/
def wantingLine : List UInt8 :=
  "only-if-file-is-gcode 1".toUTF8.toList

/-- A card with a line to choose a job file, and a menu with a line that runs a
    command. -/
def playCard : Card where
  list
    | "/sd/menu" => .ok [⟨"1.txt", false, 29⟩]
    | "/sd/gcode" => .ok [⟨"old", true, 0⟩, ⟨"part.GCODE", false, 6⟩]
    | "/sd/run" => .ok [⟨"1.txt", false, 23⟩, ⟨"2.txt", false, 23⟩]
    | _ => .error .menuDirectory
  read
    | "/sd/menu/1.txt" => .ok "file-select /sd/gcode /sd/run".toUTF8.toList
    | "/sd/run/1.txt" => .ok "action run-command play".toUTF8.toList
    | "/sd/run/2.txt" => .ok wantingLine
    | _ => .error .menuFile

/-- With a file taken, the line that wants one is shown. The command is run with
    it, and then there is none. -/
theorem job_condition_iff_selected_play :
    let n := (ofRoot "/sd/menu" "en").moveAll
      [.openRoot, .click 1 playCard {}, .click 2 playCard {}]
    n.selection = some ⟨"/sd/gcode/part.GCODE", 6⟩ ∧ isJobName "/sd/gcode/part.GCODE" = true ∧
      WantsJob wantingLine true ∧
      (Line.ofBytes n.language wantingLine).isEligible {} n.selected = true ∧
      n.offered? playCard {} 1 = some (.runCommand "play") ∧
      (n.move (.click 1 playCard {})).selection = none := by
  intro n
  have hselection : n.selection = some ⟨"/sd/gcode/part.GCODE", 6⟩ := by decide +kernel
  have hoffered : n.offered? playCard {} 1 = some (.runCommand "play") := by decide +kernel
  have hwants : WantsJob wantingLine true := by
    have hlines : splitAll 10 wantingLine = [] ++ wantingLine :: [] := by decide +kernel
    have hentry : Entry wantingLine "only-if-file-is-gcode" "1" :=
      ⟨by decide +kernel, by decide +kernel, by decide +kernel, cut_iff.2 (by decide +kernel)⟩
    have habout : IsAbout .fileIsGcode "only-if-file-is-gcode" :=
      ⟨"file-is-gcode", by decide, .inl rfl⟩
    exact ⟨_, _, .some hlines hentry habout fun _ hmem => absurd hmem List.not_mem_nil, by decide⟩
  have hsays : directives n.language wantingLine = [.onlyIf .fileIsGcode true] := by decide +kernel
  have hothers {c : Condition} (hc : c ≠ .fileIsGcode) :
      (Line.ofBytes n.language wantingLine).expected c = none := by
    rw [Line.ofBytes, hsays]
    exact if_neg hc
  obtain ⟨-, hjobs, hwanted, hdropped⟩ := job_condition_iff_selected "/sd/menu" "en"
    [.openRoot, .click 1 playCard {}, .click 2 playCard {}]
  have heligible : (Line.ofBytes n.language wantingLine).isEligible {} n.selected = true := by
    refine (hwanted wantingLine true {} hwants).2.2 ⟨congrArg Option.isSome hselection, ?_⟩
    intro c expected hc hexpected
    cases (hothers hc).symm.trans hexpected
  have hjob := (hjobs ⟨"/sd/gcode/part.GCODE", 6⟩ hselection).1
  exact ⟨hselection, hjob, hwants, heligible, hoffered,
    (hdropped (.click 1 playCard {})).2 (.inl (.runs hoffered))⟩

end Navigator

end Interlock.Menu
