import Interlock.Proofs.Menu.Definition
import Interlock.Proofs.Menu.Extension
import Interlock.Proofs.Menu.Lights

namespace Interlock.Menu

open Interlock.Text

/-- The directory of a file selection is a word, and so not empty. -/
theorem Selects.start_ne {text start returnMenu : String}
    (hselects : Selects text (.fileSelect start returnMenu)) : start ≠ "" := by
  obtain ⟨⟨lead, _, _, hword, _⟩, _⟩ := hselects
  rintro rfl
  exact hword rfl

/-- No line of a card lets the operator choose from a directory without a name,
    whatever bytes the card holds. -/
theorem start_ne_of_definition {card : Card} {language path start returnMenu : String}
    (haction : (card.definition language path).action = some (.fileSelect start returnMenu)) :
    start ≠ "" := by
  unfold Card.definition at haction
  split at haction
  · rw [ofBytes_eq_lineFrom] at haction
    obtain ⟨said, hlast⟩ := exists_lastEntry
      (fun name => name = "action" ∨ name = "file-select") (splitAll 10 _)
    obtain ⟨name, rest, _, hdescribes | hselects⟩ := (lineFrom_action_iff hlast).1 haction
    · obtain ⟨_, hdescribes⟩ := hdescribes
      cases hdescribes with
      | fileSelect _ _ hselects => exact hselects.start_ne
    · exact hselects.2.start_ne
  · cases haction

namespace Navigator

section

variable (n : Navigator) (dir : String)

@[simp] theorem root_enter : (n.enter dir).root = n.root := by
  unfold enter
  split <;> rfl

@[simp] theorem mode_enter : (n.enter dir).mode = n.mode := by
  unfold enter
  split <;> rfl

@[simp] theorem screen_enter : (n.enter dir).screen = n.screen := by
  unfold enter
  split <;> rfl

/-- Entering the root is no exception here. -/
@[simp] theorem path_enter : (n.enter dir).path = trimDir dir := by
  unfold enter
  split
  · rename_i hroot
    simp only [Bool.and_eq_true, decide_eq_true_eq] at hroot
    exact hroot.1.symm
  · rfl

@[simp] theorem root_showMenu : (n.showMenu dir).root = n.root := by
  simp [showMenu]

@[simp] theorem mode_showMenu : (n.showMenu dir).mode = .menu := by
  simp [showMenu]

end

/-- What the operator and the modules may do with a navigator. -/
inductive Move where
  | openRoot
  | called (call : PanelCall)
  | scroll (delta : Int) (card : Card) (flags : MachineFlags)
  | click (place : Nat) (card : Card) (flags : MachineFlags)

/-- The navigator after a move. -/
def move (n : Navigator) : Move → Navigator
  | .openRoot => n.openRoot.value
  | .called call => Panel.take n call
  | .scroll delta card flags => (n.scroll delta card flags).value.1
  | .click place card flags => (n.click place card flags).value.1

/-- The navigator after several moves, in any order and on any cards. -/
def moveAll (n : Navigator) (moves : List Move) : Navigator :=
  moves.foldl move n

@[simp] theorem moveAll_append (n : Navigator) (first second : List Move) :
    n.moveAll (first ++ second) = (n.moveAll first).moveAll second :=
  List.foldl_append

/-- All that a move can do, but for the line of the cursor before it. -/
inductive Step (n : Navigator) : Navigator → Prop where
  | stayed (line : Nat) (lights : Lights) : Step n { n with line, lights }
  | shown (dir : String) : Step n (n.showMenu dir)
  /-- Into another menu, which may be the one above. -/
  | entered (menu : n.mode = .menu) (dir : String) : Step n (n.enter dir)
  | left (menu : n.mode = .menu) : Step n n.leaveToWatch
  | chosen (menu : n.mode = .menu) {start : String} (start_ne : start ≠ "") (returnMenu : String) :
    Step n (enter { n with mode := .browse (trimDir start) returnMenu n.path } start)
  | climbed {start returnMenu origin : String} (browse : n.mode = .browse start returnMenu origin)
    (deeper : n.path ≠ start) : Step n (n.enter (parentOf n.path))
  | returned {start returnMenu origin : String} (browse : n.mode = .browse start returnMenu origin)
    (top : n.path = start) : Step n (enter { n with mode := .menu } origin)
  | descended {start returnMenu origin : String}
    (browse : n.mode = .browse start returnMenu origin) {entry : CardEntry}
    (accepted : EntryFilter.jobs.accepts entry = true) (directory : entry.isDirectory = true) :
    Step n (n.enter (joinPath n.path entry.name))
  | selected {start returnMenu origin : String}
    (browse : n.mode = .browse start returnMenu origin) {entry : CardEntry}
    (accepted : EntryFilter.jobs.accepts entry = true) (file : entry.isDirectory = false) :
    Step n { enter { n with mode := .menu } returnMenu with
      selection := some ⟨joinPath n.path entry.name, entry.size⟩ }

section

variable {n : Navigator}

/-- The way up is a step: into the directory above, into the menu, or out of the
    menus. -/
theorem step_goUp : Step n n.goUp.value.1 := by
  unfold goUp
  split
  · rename_i start returnMenu origin hmode
    split <;> dsimp only
    · rename_i htop
      exact .returned hmode htop
    · rename_i hdeeper
      have habove : n.above = parentOf n.path := by
        simp [above, isBrowsing_eq_true hmode]
      rw [habove]
      exact .climbed hmode hdeeper
  · rename_i hmode
    split <;> dsimp only
    · exact .left hmode
    · exact .entered hmode n.above

/-- An action of a menu line is a step. A directory to choose from has to be
    named, which those of cards are. -/
theorem step_perform (hmode : n.mode = .menu) {action : Action}
    (hstart : ∀ start returnMenu, action = .fileSelect start returnMenu → start ≠ "") :
    Step n (n.perform action).value.1 := by
  cases action with
  | gotoMenu dir =>
    dsimp only [perform]
    exact .entered hmode dir
  | runCommand command => exact .left hmode
  | gotoWatch => exact .left hmode
  | fileSelect start returnMenu =>
    dsimp only [perform]
    exact .chosen hmode (hstart start returnMenu rfl) returnMenu
  | setState raw => exact .stayed n.line n.lights

/-- Taking an entry is a step: down into a directory, or into the menu with the
    file selected. -/
theorem step_takeEntry {start returnMenu origin : String}
    (hmode : n.mode = .browse start returnMenu origin) {entry : CardEntry}
    (haccepted : EntryFilter.jobs.accepts entry = true) :
    Step n (n.takeEntry returnMenu entry).value.1 := by
  unfold takeEntry
  dsimp only
  split <;> dsimp only
  · rename_i hdirectory
    exact .descended hmode haccepted hdirectory
  · rename_i hfile
    exact .selected hmode haccepted (Bool.eq_false_iff.2 hfile)

/-- In a menu stand the lines that the card defines, and while browsing the
    entries of the directory that can be chosen. -/
inductive Stands (n : Navigator) (card : Card) : Item → Prop
  | line (menu : n.mode = .menu) (path : String) :
    Stands n card (.line (card.definition n.language path))
  | job {start returnMenu origin : String} (browse : n.mode = .browse start returnMenu origin)
    {entries : List CardEntry} (listed : card.list n.path = .ok entries) {entry : CardEntry}
    (mem : entry ∈ entries) (accepted : EntryFilter.jobs.accepts entry = true) :
    Stands n card (.job entry)

/-- The items of a directory stand there: each is a line that the card defines,
    or an entry that can be chosen. -/
theorem stands_of_mem {card : Card} {flags : MachineFlags} {items : List Item}
    (hitems : n.items card flags = .ok items) {item : Item} (hmem : item ∈ items) :
    n.Stands card item := by
  unfold Navigator.items at hitems
  cases hlist : card.list n.path with
  | error cause =>
    rw [hlist] at hitems
    cases hitems
  | ok entries =>
    rw [hlist] at hitems
    cases hmode : n.mode with
    | menu =>
      simp only [hmode, Except.map, Except.ok.injEq] at hitems
      rw [← hitems] at hmem
      obtain ⟨line, hline, rfl⟩ := List.mem_map.1 hmem
      obtain ⟨entry, _, rfl⟩ := List.mem_map.1 (List.mem_filter.1 hline).1
      exact .line hmode (joinPath n.path entry.name)
    | browse start returnMenu origin =>
      simp only [hmode, Except.map, Except.ok.injEq] at hitems
      rw [← hitems] at hmem
      obtain ⟨entry, hentry, rfl⟩ := List.mem_map.1 hmem
      obtain ⟨hlisted, haccepted⟩ := List.mem_filter.1 hentry
      exact .job hmode hlist hlisted haccepted

theorem stands_of_shown {card : Card} {flags : MachineFlags} {line : Nat} {item : Item}
    (hshown : n.shown? card flags line = some item) : n.Stands card item := by
  obtain ⟨items, hitems, hmem⟩ := exists_items_of_shown hshown
  exact stands_of_mem hitems hmem

/-- Following what stands in a place is a step, and so is following nothing. -/
theorem step_follow {card : Card} {flags : MachineFlags} {items : List Item}
    (hitems : n.items card flags = .ok items) (place : Nat) :
    Step n (n.follow items[place]?).value.1 := by
  have hstays : Step n n := .stayed n.line n.lights
  cases hitem : items[place]? with
  | none => exact hstays
  | some item =>
    cases stands_of_mem hitems (List.mem_of_getElem? hitem) with
    | line hmode path =>
      unfold follow
      dsimp only
      split
      · cases haction : (card.definition n.language path).action with
        | none => exact hstays
        | some action =>
          refine step_perform hmode fun start returnMenu hselect => ?_
          exact start_ne_of_definition (haction.trans (congrArg some hselect))
      · exact hstays
    | job hmode _ _ haccepted =>
      unfold follow
      simp only [hmode]
      exact step_takeEntry hmode haccepted

/-- A click is a step from its line. -/
theorem step_click (n : Navigator) (place : Nat) (card : Card) (flags : MachineFlags) :
    Step { n with line := place } (n.click place card flags).value.1 := by
  cases place with
  | zero => exact step_goUp
  | succ place =>
    have hfollows := n.click_follows card flags place
    have hcursor : ({ n with line := place + 1 } : Navigator).items card flags =
      n.items card flags := rfl
    cases hitems : n.items card flags with
    | error cause =>
      rw [hitems] at hfollows
      rw [hfollows.1]
      exact .stayed _ n.lights
    | ok items =>
      rw [hitems] at hfollows
      rw [hfollows.1]
      exact step_follow (hcursor.trans hitems) place

/-- Every move is a step, from some line of the cursor. Only clicks choose the
    line, and where a scroll leads depends on the card. -/
theorem exists_step (n : Navigator) (m : Move) : ∃ line, Step { n with line } (n.move m) := by
  cases m with
  | openRoot => exact ⟨n.line, .shown n.root⟩
  | called call =>
    refine ⟨n.line, ?_⟩
    cases call with
    | showMenu dir => exact .shown dir
    | faultIndicator on => exact .stayed n.line ⟨on, !on⟩
  | scroll delta card flags =>
    obtain ⟨line, hscrolled⟩ := n.value_scroll delta card flags
    refine ⟨line, ?_⟩
    rw [move, hscrolled]
    exact .stayed line n.lights
  | click place card flags => exact ⟨place, n.step_click place card flags⟩

end

section

variable {n n' : Navigator}

theorem Step.root_eq (hstep : Step n n') : n'.root = n.root := by
  cases hstep with
  | stayed | left => rfl
  | shown | entered | chosen | climbed | returned | descended | selected => simp

/-- What the paths of a navigator satisfy whenever no move is under way. -/
structure Placed (n : Navigator) : Prop where
  root_trimmed : Trimmed n.root
  browses : ∀ {start returnMenu origin : String}, n.mode = .browse start returnMenu origin →
    Trimmed start ∧ start ≠ "" ∧ Inside start n.path

theorem placed_ofRoot (root language : String) : (ofRoot root language).Placed where
  root_trimmed := trimmed_trimDir root
  browses := nofun

/-- In a menu only the root counts. -/
theorem Placed.of_menu (hplaced : n.Placed) (hroot : n'.root = n.root) (hmode : n'.mode = .menu) :
    n'.Placed where
  root_trimmed := hroot ▸ hplaced.root_trimmed
  browses := by
    rw [hmode]
    nofun

/-- While browsing, the start has to be trimmed, named and above the current
    directory. -/
theorem Placed.of_browse (hplaced : n.Placed) (hroot : n'.root = n.root)
    {start returnMenu origin : String} (hmode : n'.mode = .browse start returnMenu origin)
    (hstart : Trimmed start) (hne : start ≠ "") (hpath : Inside start n'.path) : n'.Placed where
  root_trimmed := hroot ▸ hplaced.root_trimmed
  browses := by
    intro _ _ _ hsame
    obtain ⟨rfl, _⟩ := Mode.browse.inj (hmode.symm.trans hsame)
    exact ⟨hstart, hne, hpath⟩

/-- A step keeps the paths of a navigator in order. Up from the start leads into
    the menu, so that browsing never comes out above it. -/
theorem Placed.step (hplaced : n.Placed) (hstep : Step n n') : n'.Placed := by
  have hroot := hstep.root_eq
  cases hstep with
  | stayed => exact ⟨hplaced.root_trimmed, hplaced.browses⟩
  | shown dir => exact hplaced.of_menu hroot (mode_showMenu n dir)
  | entered hmode dir => exact hplaced.of_menu hroot ((mode_enter n dir).trans hmode)
  | left => exact hplaced.of_menu hroot rfl
  | chosen hmode hne returnMenu =>
    refine hplaced.of_browse hroot (mode_enter _ _) (trimmed_trimDir _) (trimDir_ne hne) ?_
    exact .inl (path_enter _ _)
  | climbed hmode hdeeper =>
    obtain ⟨hstart, hne, hinside⟩ := hplaced.browses hmode
    refine hplaced.of_browse hroot ((mode_enter _ _).trans hmode) hstart hne ?_
    rw [path_enter]
    exact hinside.up hstart hne hdeeper
  | returned => exact hplaced.of_menu hroot (mode_enter _ _)
  | @descended _ _ _ hmode entry =>
    obtain ⟨hstart, hne, hinside⟩ := hplaced.browses hmode
    refine hplaced.of_browse hroot ((mode_enter _ _).trans hmode) hstart hne ?_
    rw [path_enter]
    exact hinside.down hstart hne entry.name
  | @selected _ returnMenu =>
    exact hplaced.of_menu hroot (mode_enter { n with mode := .menu } returnMenu)

theorem Placed.move (hplaced : n.Placed) (m : Move) : (n.move m).Placed := by
  obtain ⟨line, hstep⟩ := n.exists_step m
  have hcursor : Placed { n with line } := ⟨hplaced.root_trimmed, hplaced.browses⟩
  exact hcursor.step hstep

/-- Every history leaves a placed navigator placed, move by move. -/
theorem Placed.moveAll (hplaced : n.Placed) (moves : List Move) : (n.moveAll moves).Placed := by
  induction moves generalizing n with
  | nil => exact hplaced
  | cons m moves ih => exact ih (hplaced.move m)

/-- The root stays what it was built with. -/
theorem root_moveAll (n : Navigator) (moves : List Move) : (n.moveAll moves).root = n.root := by
  induction moves generalizing n with
  | nil => rfl
  | cons m moves ih =>
    obtain ⟨line, hstep⟩ := n.exists_step m
    exact (ih (n.move m)).trans hstep.root_eq

/-- Entering a directory keeps the selection or drops it. -/
theorem selection_enter (n : Navigator) (dir : String) :
    (n.enter dir).selection = n.selection ∨ (n.enter dir).selection = none := by
  unfold enter
  split
  · exact .inr rfl
  · exact .inl rfl

/-- A selection is kept, dropped, or made of a job file. The card accepted that
    file by its own name, which the directory before it does not change. -/
theorem Step.selection_cases (hstep : Step n n') :
    n'.selection = n.selection ∨ n'.selection = none ∨
      ∃ chosen, n'.selection = some chosen ∧ isJobName chosen.path = true := by
  cases hstep with
  | stayed => exact .inl rfl
  | left => exact .inr (.inl rfl)
  | shown dir =>
    dsimp only [showMenu]
    exact (selection_enter _ dir).imp_right .inl
  | entered | chosen | climbed | returned | descended =>
    exact (selection_enter _ _).imp_right .inl
  | selected _ haccepted hfile =>
    exact .inr (.inr ⟨_, rfl, hasExtension_joinPath (isJobName_of_accepts haccepted hfile) _⟩)

/-- What is selected after moves is a job file, if what was selected before was. -/
theorem isJobName_of_moveAll {moves : List Move}
    (hn : ∀ {chosen}, n.selection = some chosen → isJobName chosen.path = true)
    {chosen : Selection} (hchosen : (n.moveAll moves).selection = some chosen) :
    isJobName chosen.path = true := by
  induction moves generalizing n with
  | nil => exact hn hchosen
  | cons m moves ih =>
    refine ih (fun {chosen'} hchosen' => ?_) hchosen
    obtain ⟨line, hstep⟩ := n.exists_step m
    rcases hstep.selection_cases with hkept | hnone | ⟨_, hsome, hjob⟩
    · exact hn (hkept.symm.trans hchosen')
    · cases hnone.symm.trans hchosen'
    · obtain rfl := Option.some.inj (hsome.symm.trans hchosen')
      exact hjob

end

/-- Clicks are on 64-bit numbers. -/
def Move.OnWord : Move → Prop
  | .click place _ _ => place ≤ Number.Word.greatest64
  | _ => True

/-- What a navigator can come to, by moves and by being put into directories
    from outside. -/
inductive Reached (root language : String) : Navigator → Prop
  | start : Reached root language (ofRoot root language)
  | moved {n : Navigator} (hn : Reached root language n) {m : Move} (hm : m.OnWord) :
    Reached root language (n.move m)
  | entered {n : Navigator} (hn : Reached root language n) (dir : String) :
    Reached root language (n.enter dir)

/-- What a navigator can come to select is a job file. -/
theorem Reached.isJobName {root language : String} {n : Navigator}
    (hn : Reached root language n) {chosen : Selection} (hchosen : n.selection = some chosen) :
    Menu.isJobName chosen.path = true := by
  induction hn generalizing chosen with
  | start => cases hchosen
  | @moved n _ m _ ih =>
    have hmoved : (n.moveAll [m]).selection = some chosen := hchosen
    exact isJobName_of_moveAll ih hmoved
  | @entered n _ dir ih =>
    rcases selection_enter n dir with hkept | hnone
    · exact ih (hkept.symm.trans hchosen)
    · cases hnone.symm.trans hchosen

end Navigator

end Interlock.Menu
