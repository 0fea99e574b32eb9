import Interlock.Proofs.Menu.Up

namespace Interlock.Menu

/-- A name is not empty, and no slash cuts it. -/
def Named (name : String) : Prop :=
  name ≠ "" ∧ '/' ∉ name.toList

instance (name : String) : Decidable (Named name) :=
  inferInstanceAs (Decidable (_ ∧ _))

/-- A path lies a number of names below a directory. -/
inductive Below (start : String) : Nat → String → Prop
  | top : Below start 0 start
  | down {depth : Nat} {path name : String} (hpath : Below start depth path) (hname : Named name) :
    Below start (depth + 1) (joinPath path name)

/-- A path that ends in a name has no slash at its end. -/
theorem trimmed_joinPath (dir : String) {name : String} (hname : Named name) :
    Trimmed (joinPath dir name) := by
  intro hends
  have hchars : name.toList ≠ [] := by simpa using hname.1
  rw [toList_joinPath, List.getLast?_append_of_ne_nil _ hchars] at hends
  exact absurd (List.mem_of_getLast? hends) hname.2

/-- A name makes a path longer, by one slash at least. -/
theorem length_joinPath_lt (dir : String) {name : String} (hname : Named name) :
    dir.toList.length < (joinPath dir name).toList.length := by
  have hchars : 0 < name.toList.length := by
    rw [List.length_pos_iff]
    simpa using hname.1
  have hdir : dir.toList.length ≤ (joinPath dir "").toList.length := by
    unfold joinPath
    split <;> simp
  rw [toList_joinPath, List.length_append]
  omega

section

variable {start path : String} {depth : Nat}

/-- Each name makes the path longer. -/
theorem Below.length_le (hpath : Below start depth path) :
    start.toList.length + depth ≤ path.toList.length := by
  induction hpath with
  | top => rfl
  | @down depth path name _ hname ih =>
    have hlonger := length_joinPath_lt path hname
    omega

theorem Below.ne_start (hpath : Below start (depth + 1) path) : path ≠ start := by
  rintro rfl
  have hlength := hpath.length_le
  omega

theorem Below.trimmed (hpath : Below start depth path) (hstart : Trimmed start) :
    Trimmed path := by
  cases hpath with
  | top => exact hstart
  | down _ hname => exact trimmed_joinPath _ hname

/-- A path below a directory that is named is not empty. -/
theorem Below.ne_empty (hpath : Below start depth path) (hne : start ≠ "") : path ≠ "" := by
  cases hpath with
  | top => exact hne
  | @down _ path name =>
    intro hempty
    have hslash := slash_mem_joinPath path name
    rw [hempty] at hslash
    exact absurd hslash List.not_mem_nil

/-- A path below a directory is inside it. -/
theorem Below.inside (hpath : Below start depth path) (hstart : Trimmed start)
    (hne : start ≠ "") : Inside start path := by
  induction hpath with
  | top => exact .inl rfl
  | @down _ path name _ hname ih =>
    have hdown := ih.down hstart hne name
    rwa [trimDir_of_trimmed (trimmed_joinPath path hname)] at hdown

/-- The way up drops the name that was entered last. Names have no slash, so
    that the last one stands in front of it. -/
theorem Below.up (hpath : Below start (depth + 1) path) (hstart : Trimmed start)
    (hne : start ≠ "") : Below start depth (parentOf path) := by
  cases hpath with
  | down hpath hname =>
    rwa [parentOf_joinPath (hpath.trimmed hstart) (hpath.ne_empty hne) hname.2]

end

/-- All entries of a card have names. -/
def Card.NamesEntries (card : Card) : Prop :=
  ∀ dir entries, card.list dir = .ok entries → ∀ entry ∈ entries, Named entry.name

namespace Navigator

/-- Clicks are on cards whose entries have names. -/
def Move.OnNamedCard : Move → Prop
  | .click _ card _ => card.NamesEntries
  | _ => True

/-- How many names a move goes down: one into a directory that is clicked, one
    back on the way up. -/
def descents (n : Navigator) : Move → Int
  | .click 0 _ _ => -1
  | .click line card flags =>
    match n.shown? card flags line with
    | some (.job entry) => if entry.isDirectory then 1 else 0
    | _ => 0
  | _ => 0

/-- How many names moves go down, all in all. -/
def netDescents (n : Navigator) : List Move → Int
  | [] => 0
  | m :: moves => n.descents m + (n.move m).netDescents moves

/-- The navigator browses from a directory, and stands a number of names below
    it. -/
structure BrowsesAt (n : Navigator) (start origin : String) (depth : Nat) : Prop where
  browses : ∃ returnMenu, n.mode = .browse start returnMenu origin
  start_trimmed : Trimmed start
  start_ne : start ≠ ""
  path_below : Below start depth n.path

theorem not_isBrowsing {n : Navigator} (hmode : n.mode = .menu) : ¬n.isBrowsing = true := by
  rw [isBrowsing_eq_false hmode]
  exact Bool.false_ne_true

/-- While browsing a directory is entered even if it is the root, and the
    selection is kept. -/
theorem enter_of_browsing {n : Navigator} (hbrowsing : n.isBrowsing = true) (line : Nat)
    (dir : String) : enter { n with line } dir = { n with path := trimDir dir, line := 0 } := by
  have hcursor : isBrowsing { n with line } = true := hbrowsing
  simp [enter, hcursor]

section

variable {n : Navigator} {start origin : String} {depth : Nat} {card : Card} {flags : MachineFlags}
  {line : Nat}

theorem BrowsesAt.isBrowsing (hn : n.BrowsesAt start origin depth) : n.isBrowsing = true := by
  obtain ⟨returnMenu, hmode⟩ := hn.browses
  exact isBrowsing_eq_true hmode

theorem BrowsesAt.of_same {n' : Navigator} (hn : n.BrowsesAt start origin depth)
    (hmode : n'.mode = n.mode) (hpath : n'.path = n.path) : n'.BrowsesAt start origin depth :=
  ⟨hmode ▸ hn.browses, hn.start_trimmed, hn.start_ne, hpath ▸ hn.path_below⟩

/-- Up from below the start, the parent is entered. It is not the start of the
    menus but of the browsing that stops the way up. -/
theorem BrowsesAt.up_eq (hn : n.BrowsesAt start origin (depth + 1)) :
    n.up = { n with path := parentOf n.path, line := 0 } := by
  obtain ⟨returnMenu, hmode⟩ := hn.browses
  have habove := hn.path_below.up hn.start_trimmed hn.start_ne
  rw [up_of_browse hmode hn.path_below.ne_start, enter_of_browsing (isBrowsing_eq_true hmode),
    trimDir_of_trimmed (habove.trimmed hn.start_trimmed)]

theorem BrowsesAt.up (hn : n.BrowsesAt start origin (depth + 1)) :
    n.up.BrowsesAt start origin depth := by
  rw [hn.up_eq]
  exact ⟨hn.browses, hn.start_trimmed, hn.start_ne,
    hn.path_below.up hn.start_trimmed hn.start_ne⟩

/-- Up from the start, into the menu. -/
theorem BrowsesAt.up_of_top (hn : n.BrowsesAt start origin 0) :
    n.up.mode = .menu ∧ n.up.path = trimDir origin := by
  obtain ⟨returnMenu, hmode⟩ := hn.browses
  have hpath : n.path = start := by
    have hbelow := hn.path_below
    generalize n.path = path at hbelow
    cases hbelow
    rfl
  rw [up_of_start hmode hpath]
  exact ⟨mode_enter _ _, path_enter _ _⟩

theorem BrowsesAt.iterate_up {count : Nat} (hn : n.BrowsesAt start origin (depth + count)) :
    (Navigator.up^[count] n).BrowsesAt start origin depth := by
  induction count generalizing n with
  | zero => exact hn
  | succ count ih => exact ih hn.up

/-- While browsing, the lines are entries of the directory. -/
theorem BrowsesAt.shown_cases (hn : n.BrowsesAt start origin depth) {item : Item}
    (hshown : n.shown? card flags line = some item) :
    ∃ entries entry, card.list n.path = .ok entries ∧ entry ∈ entries ∧ item = .job entry := by
  obtain ⟨returnMenu, hmode⟩ := hn.browses
  cases stands_of_shown hshown with
  | line hmenu => cases hmode.symm.trans hmenu
  | job _ hlist hmem => exact ⟨_, _, hlist, hmem, rfl⟩

/-- A click on a directory enters it. -/
theorem value_click_directory {returnMenu : String}
    (hmode : n.mode = .browse start returnMenu origin)
    {entry : CardEntry} (hshown : n.shown? card flags line = some (.job entry))
    (hdirectory : entry.isDirectory = true) :
    (n.click line card flags).value.1 = enter { n with line } (joinPath n.path entry.name) := by
  have hfollowed : (follow { n with line } (some (.job entry))).value.1 =
      enter { n with line } (joinPath n.path entry.name) := by
    simp only [follow, hmode, takeEntry, hdirectory, if_true]
  rw [(click_shown hshown).1, hfollowed]

/-- Down into a directory. -/
theorem BrowsesAt.click_directory (hn : n.BrowsesAt start origin depth) (hcard : card.NamesEntries)
    {entry : CardEntry} (hshown : n.shown? card flags line = some (.job entry))
    (hdirectory : entry.isDirectory = true) :
    Named entry.name ∧ (n.click line card flags).value.1 =
      { n with path := joinPath n.path entry.name, line := 0 } := by
  obtain ⟨entries, entry', hlist, hmem, hentry⟩ := hn.shown_cases hshown
  obtain rfl := Item.job.inj hentry
  have hname := hcard _ _ hlist entry hmem
  obtain ⟨returnMenu, hmode⟩ := hn.browses
  refine ⟨hname, ?_⟩
  rw [value_click_directory hmode hshown hdirectory, enter_of_browsing hn.isBrowsing,
    trimDir_of_trimmed (trimmed_joinPath _ hname)]

/-- A click where nothing stands takes the cursor there. This is also all that
    it does where the directory cannot be listed. -/
theorem click_nothing {place : Nat} (hshown : n.shown? card flags (place + 1) = none) :
    (n.click (place + 1) card flags).value.1 = { n with line := place + 1 } := by
  have hfollows := n.click_follows card flags place
  unfold shown? at hshown
  cases hitems : n.items card flags with
  | error cause =>
    rw [hitems] at hfollows
    rw [hfollows.1]
  | ok items =>
    rw [hitems] at hfollows hshown
    simp only [Except.toOption, Option.bind_some] at hshown
    dsimp only at hfollows
    rw [hfollows.1, hshown]
    rfl

/-- A click that browsing outlasts keeps its start, and changes the depth by the
    names it goes. That browsing goes on is what keeps the depth from falling
    below zero. -/
theorem BrowsesAt.click (hn : n.BrowsesAt start origin depth) (hcard : card.NamesEntries)
    (hstill : (n.click line card flags).value.1.isBrowsing = true) :
    ∃ depth' : Nat, (depth' : Int) = depth + n.descents (.click line card flags) ∧
      (n.click line card flags).value.1.BrowsesAt start origin depth' := by
  cases line with
  | zero =>
    rw [value_click_up] at hstill ⊢
    cases depth with
    | zero => exact absurd hstill (not_isBrowsing hn.up_of_top.1)
    | succ depth =>
      refine ⟨depth, ?_, hn.up⟩
      rw [descents]
      omega
  | succ place =>
    cases hshown : n.shown? card flags (place + 1) with
    | none =>
      refine ⟨depth, by simp [descents, hshown], ?_⟩
      rw [click_nothing hshown]
      exact hn.of_same rfl rfl
    | some item =>
      obtain ⟨_, entry, _, _, rfl⟩ := hn.shown_cases hshown
      cases hdirectory : entry.isDirectory with
      | true =>
        obtain ⟨hname, hclicked⟩ := hn.click_directory hcard hshown hdirectory
        refine ⟨depth + 1, by simp [descents, hshown, hdirectory], ?_⟩
        rw [hclicked]
        exact ⟨hn.browses, hn.start_trimmed, hn.start_ne, hn.path_below.down hname⟩
      | false =>
        -- A file that is taken ends browsing.
        obtain ⟨returnMenu, hmode⟩ := hn.browses
        rw [(click_shown hshown).1] at hstill
        have hmenu :
            (follow { n with line := place + 1 } (some (.job entry))).value.1.mode = .menu := by
          simp [follow, hmode, takeEntry, hdirectory]
        exact absurd hstill (not_isBrowsing hmenu)

/-- A move that browsing outlasts leads to a depth that can be told from its
    clicks. Modules that show a menu end the browsing, and scrolling keeps the
    depth. -/
theorem BrowsesAt.move (hn : n.BrowsesAt start origin depth) {m : Move} (hm : m.OnNamedCard)
    (hstill : (n.move m).isBrowsing = true) :
    ∃ depth' : Nat, (depth' : Int) = depth + n.descents m ∧
      (n.move m).BrowsesAt start origin depth' := by
  cases m with
  | openRoot => exact absurd hstill (not_isBrowsing (mode_showMenu n n.root))
  | called call =>
    cases call with
    | showMenu dir => exact absurd hstill (not_isBrowsing (mode_showMenu n dir))
    | faultIndicator on => exact ⟨depth, by simp [descents], hn.of_same rfl rfl⟩
  | scroll delta card flags =>
    obtain ⟨line, hscrolled⟩ := n.value_scroll delta card flags
    refine ⟨depth, by simp [descents], ?_⟩
    rw [Navigator.move, hscrolled]
    exact hn.of_same rfl rfl
  | click line card flags => exact hn.click hm hstill

/-- Browsing that lasts through moves keeps its start, and stands as deep as the
    moves went. It has to last at every moment, as it could end and begin anew
    from another directory. -/
theorem BrowsesAt.moveAll (hn : n.BrowsesAt start origin depth) {moves : List Move}
    (hmoves : ∀ m ∈ moves, m.OnNamedCard)
    (hstill : ∀ part, part <+: moves → (n.moveAll part).isBrowsing = true) :
    ∃ depth' : Nat, (depth' : Int) = depth + n.netDescents moves ∧
      (n.moveAll moves).BrowsesAt start origin depth' := by
  induction moves generalizing n depth with
  | nil => exact ⟨depth, by simp [netDescents], hn⟩
  | cons m moves ih =>
    obtain ⟨hm, hrest⟩ := List.forall_mem_cons.1 hmoves
    obtain ⟨between, hbetween, hmoved⟩ := hn.move hm (hstill [m] ⟨moves, rfl⟩)
    obtain ⟨depth', hdepth', hall⟩ := ih hmoved hrest fun part hpart =>
      hstill (m :: part) (List.cons_prefix_cons.2 ⟨rfl, hpart⟩)
    refine ⟨depth', ?_, hall⟩
    rw [hdepth', hbetween, netDescents]
    omega

end

section

variable {n : Navigator} {card : Card} {flags : MachineFlags} {line : Nat}

/-- Only the lines of a menu offer something, and they offer the action of their
    definition. -/
theorem line_of_offered {action : Action} (hoffered : n.offered? card flags line = some action) :
    n.mode = .menu ∧ ∃ path, (card.definition n.language path).action = some action := by
  unfold offered? at hoffered
  split at hoffered
  · rename_i found hshown
    obtain ⟨_, haction⟩ := Option.ite_none_right_eq_some.1 hoffered
    cases stands_of_shown hshown with
    | line hmode path => exact ⟨hmode, path, haction⟩
  · cases hoffered

/-- A line that lets the operator choose names the directory, as a definition
    without one does not describe the action. -/
theorem start_ne_of_offered {start returnMenu : String}
    (hoffered : n.offered? card flags line = some (.fileSelect start returnMenu)) : start ≠ "" := by
  obtain ⟨_, _, haction⟩ := line_of_offered hoffered
  exact start_ne_of_definition haction

/-- A click on such a line begins at the directory that it names. -/
theorem browsesAt_choose {start returnMenu : String}
    (hoffered : n.offered? card flags line = some (.fileSelect start returnMenu)) :
    (n.click line card flags).value.1.BrowsesAt (trimDir start) n.path 0 := by
  have hperformed : (perform { n with line } (.fileSelect start returnMenu)).value.1 =
      enter { n with line, mode := .browse (trimDir start) returnMenu n.path } start := by
    dsimp only [perform]
  rw [(click_offered hoffered).1, hperformed]
  refine ⟨⟨returnMenu, ?_⟩, trimmed_trimDir start, trimDir_ne (start_ne_of_offered hoffered), ?_⟩
  · rw [mode_enter]
  · rw [path_enter]
    exact .top

end

/-- The operator clicks on a line to choose a file from a directory, and then
    browses all along. -/
structure Session (n : Navigator) (start : String) (choose : Move) (moves : List Move) : Prop where
  offers : ∃ line card flags returnMenu, choose = .click line card flags ∧
    n.offered? card flags line = some (.fileSelect start returnMenu)
  browses : ∀ part, part <+: moves → ((n.move choose).moveAll part).isBrowsing = true

/-- A click on a menu line that offers nothing takes the cursor there. -/
theorem click_line_stays {n : Navigator} {card : Card} {flags : MachineFlags} {line : Nat}
    {found : Line} (hshown : n.shown? card flags line = some (.line found))
    (hnone : n.offered? card flags line = none) :
    (n.click line card flags).value.1 = { n with line } := by
  rw [(click_shown hshown).1]
  rw [offered?, hshown] at hnone
  unfold follow
  dsimp only at hnone ⊢
  cases hselectable : found.selectable with
  | false => rfl
  | true =>
    rw [hselectable, if_pos rfl] at hnone
    rw [if_pos rfl, hnone]
    rfl

/-- In a menu, a click begins browsing only where a line lets the operator
    choose. -/
theorem offered_of_browses {n : Navigator} (hmenu : n.mode = .menu) {card : Card}
    {flags : MachineFlags} {line : Nat}
    (hbrowses : (n.click line card flags).value.1.isBrowsing = true) :
    ∃ start returnMenu, n.offered? card flags line = some (.fileSelect start returnMenu) := by
  cases line with
  | zero =>
    have hup : n.up.mode = .menu := by
      by_cases hpath : n.path = n.root
      · simp [up, goUp, hmenu, hpath, leaveToWatch, reset]
      · rw [up_of_menu hmenu hpath, mode_enter]
        exact hmenu
    exact absurd hbrowses (not_isBrowsing hup)
  | succ place =>
    cases hshown : n.shown? card flags (place + 1) with
    | none =>
      rw [click_nothing hshown] at hbrowses
      exact absurd hbrowses (not_isBrowsing hmenu)
    | some item =>
      cases hoffered : n.offered? card flags (place + 1) with
      | none =>
        cases item with
        | job entry =>
          have hstays : (follow { n with line := place + 1 } (some (.job entry))).value.1.mode =
              .menu := by
            simp [follow, hmenu]
          rw [(click_shown hshown).1] at hbrowses
          exact absurd hbrowses (not_isBrowsing hstays)
        | line found =>
          rw [click_line_stays hshown hoffered] at hbrowses
          exact absurd hbrowses (not_isBrowsing hmenu)
      | some action =>
        rw [(click_offered hoffered).1] at hbrowses
        have hkept (dir : String) : (enter { n with line := place + 1 } dir).mode = .menu :=
          (mode_enter _ dir).trans hmenu
        cases action with
        | fileSelect start returnMenu => exact ⟨start, returnMenu, rfl⟩
        | gotoMenu dir => exact absurd hbrowses (not_isBrowsing (hkept dir))
        | runCommand command => exact absurd hbrowses (not_isBrowsing rfl)
        | gotoWatch => exact absurd hbrowses (not_isBrowsing rfl)
        | setState raw => exact absurd hbrowses (not_isBrowsing hmenu)

/-- In a menu, a move begins browsing only by a click to choose a file, and then
    is its session. -/
theorem choice_of_browses {n : Navigator} (hmenu : n.mode = .menu) {m : Move}
    (hbrowses : (n.move m).isBrowsing = true) : ∃ start, n.Session start m [] := by
  cases m with
  | openRoot => exact absurd hbrowses (not_isBrowsing (mode_showMenu n n.root))
  | called call =>
    cases call with
    | showMenu dir => exact absurd hbrowses (not_isBrowsing (mode_showMenu n dir))
    | faultIndicator on => exact absurd hbrowses (not_isBrowsing hmenu)
  | scroll delta card flags =>
    obtain ⟨line, hscrolled⟩ := n.value_scroll delta card flags
    rw [move, hscrolled] at hbrowses
    exact absurd hbrowses (not_isBrowsing hmenu)
  | click line card flags =>
    obtain ⟨start, returnMenu, hoffered⟩ := offered_of_browses hmenu hbrowses
    refine ⟨start, ⟨line, card, flags, returnMenu, rfl, hoffered⟩, ?_⟩
    intro part hpart
    rwa [List.prefix_nil.1 hpart]

/-- A session goes on with every move that browsing outlasts. -/
theorem Session.concat {n : Navigator} {start : String} {choose m : Move} {moves : List Move}
    (hsession : n.Session start choose moves)
    (hstill : ((n.move choose).moveAll (moves ++ [m])).isBrowsing = true) :
    n.Session start choose (moves ++ [m]) := by
  refine ⟨hsession.offers, fun part hpart => ?_⟩
  rcases List.prefix_concat_iff.1 hpart with rfl | hbefore
  · exact hstill
  · exact hsession.browses part hbefore

/-- Whenever a navigator browses, it is in a session: the last click from a menu
    began it. A navigator starts in a menu, so there was one. -/
theorem exists_session (root language : String) (moves : List Move)
    (hbrowses : ((ofRoot root language).moveAll moves).isBrowsing = true) :
    ∃ before choose after start, moves = before ++ choose :: after ∧
      Session ((ofRoot root language).moveAll before) start choose after := by
  induction moves using List.reverseRecOn with
  | nil => cases hbrowses
  | append_singleton moves m ih =>
    cases hmode : ((ofRoot root language).moveAll moves).mode with
    | menu =>
      rw [moveAll_append] at hbrowses
      obtain ⟨start, hsession⟩ := choice_of_browses hmode hbrowses
      exact ⟨moves, m, [], start, rfl, hsession⟩
    | browse start returnMenu origin =>
      obtain ⟨before, choose, after, start, rfl, hsession⟩ := ih (isBrowsing_eq_true hmode)
      refine ⟨before, choose, after ++ [m], start, by simp, hsession.concat ?_⟩
      simpa [moveAll, List.foldl_append] using hbrowses

/-- A step leaves the navigator in a directory without a slash at its end. Every
    directory is trimmed as it comes on display, and to leave the menus leads to
    the root, which is trimmed. -/
theorem Step.path_trimmed {n n' : Navigator} (hstep : Step n n') (hroot : Trimmed n.root)
    (hpath : Trimmed n.path) : Trimmed n'.path := by
  cases hstep with
  | stayed => exact hpath
  | left => exact hroot
  | shown dir =>
    simp only [showMenu, path_enter]
    exact trimmed_trimDir dir
  | entered | chosen | climbed | returned | descended | selected =>
    simp only [path_enter]
    exact trimmed_trimDir _

theorem Placed.path_trimmed {n : Navigator} (hplaced : n.Placed) (hpath : Trimmed n.path)
    (moves : List Move) : Trimmed (n.moveAll moves).path := by
  induction moves generalizing n with
  | nil => exact hpath
  | cons m moves ih =>
    obtain ⟨line, hstep⟩ := n.exists_step m
    exact ih (hplaced.move m) (hstep.path_trimmed hplaced.root_trimmed hpath)

/-- Browsing is below its start and can be retraced: out of every directory of a
    card whose entries have names, and into the menu where it began, by one more
    step than the depth. -/
structure Retraces (n : Navigator) (start origin : String) (descents : Int) : Prop where
  inside : Inside start n.path
  returns : ∀ (card : Card) (flags : MachineFlags) (line : Nat) (entry : CardEntry),
    card.NamesEntries → n.shown? card flags line = some (.job entry) → entry.isDirectory = true →
    ∀ (card' : Card) (flags' : MachineFlags),
      n.moveAll [.click line card flags, .click 0 card' flags'] = { n with line := 0 }
  leaves : ∃ depth : Nat, descents = depth ∧ ∀ looks : List (Card × MachineFlags),
    (looks.length ≤ depth → (n.moveAll (upward looks)).isBrowsing = true) ∧
    (looks.length = depth + 1 →
      (n.moveAll (upward looks)).mode = .menu ∧ (n.moveAll (upward looks)).path = origin)

/-- Browsing at a depth is inside of its start and can be retraced, by one more
    step than the depth. -/
theorem BrowsesAt.retraces {n : Navigator} {start origin : String} {depth : Nat}
    (hn : n.BrowsesAt start origin depth) (horigin : Trimmed origin) :
    n.Retraces start origin depth where
  inside := hn.path_below.inside hn.start_trimmed hn.start_ne
  returns card flags line entry hcard hshown hdirectory card' flags' := by
    obtain ⟨hname, hclicked⟩ := hn.click_directory hcard hshown hdirectory
    have hpath := hn.path_below
    have hback : parentOf (joinPath n.path entry.name) = n.path :=
      parentOf_joinPath (hpath.trimmed hn.start_trimmed) (hpath.ne_empty hn.start_ne) hname.2
    have hdown : BrowsesAt { n with path := joinPath n.path entry.name, line := 0 } start origin
        (depth + 1) :=
      ⟨hn.browses, hn.start_trimmed, hn.start_ne, hpath.down hname⟩
    have hmoved : n.moveAll [.click line card flags, .click 0 card' flags'] =
        Navigator.up (n.click line card flags).value.1 := rfl
    rw [hmoved, hclicked, hdown.up_eq]
    dsimp only
    rw [hback]
  leaves := by
    refine ⟨depth, rfl, fun looks => ⟨fun hshort => ?_, fun hlong => ?_⟩⟩
    · rw [moveAll_upward]
      obtain ⟨rest, rfl⟩ := Nat.exists_eq_add_of_le' hshort
      exact hn.iterate_up.isBrowsing
    · have htop : (Navigator.up^[depth] n).BrowsesAt start origin 0 := by
        refine BrowsesAt.iterate_up ?_
        rwa [Nat.zero_add]
      rw [moveAll_upward, hlong, Function.iterate_succ_apply']
      obtain ⟨hmode, hpath⟩ := htop.up_of_top
      exact ⟨hmode, hpath.trans (trimDir_of_trimmed horigin)⟩

/-- In every history on cards whose entries have names, the navigator browses
    exactly in sessions that begin with a click to choose a file, and in each of
    them it can retrace its steps, one name at a time, into the menu of that
    click at last. -/
theorem browsing_retraces (root language : String) {moves : List Move}
    (hmoves : ∀ m ∈ moves, m.OnNamedCard) :
    let n := (ofRoot root language).moveAll moves
    (n.isBrowsing = true → ∃ before choose after start, moves = before ++ choose :: after ∧
        Session ((ofRoot root language).moveAll before) start choose after) ∧
      ∀ before choose after start, moves = before ++ choose :: after →
        let menu := (ofRoot root language).moveAll before
        menu.Session start choose after →
          n.Retraces (trimDir start) menu.path ((menu.move choose).netDescents after) := by
  intro n
  refine ⟨exists_session root language moves, ?_⟩
  rintro before choose after start rfl menu ⟨⟨line, card, flags, returnMenu, rfl, hoffered⟩, hstill⟩
  have hmenu : Trimmed menu.path :=
    (placed_ofRoot root language).path_trimmed (trimmed_trimDir root) before
  have hafter : ∀ m ∈ after, m.OnNamedCard := fun m hm => hmoves m (by simp [hm])
  obtain ⟨depth, hdepth, hn⟩ := (browsesAt_choose hoffered).moveAll hafter hstill
  have hnet : (menu.move (.click line card flags)).netDescents after = depth := by
    rw [hdepth]
    simp [move]
  have hmoved : n = (menu.move (.click line card flags)).moveAll after :=
    moveAll_append _ before _
  rw [hmoved, hnet]
  exact hn.retraces hmenu

/-- A card on which all directories are alike: with a line to choose a file from
    the top, and a directory. -/
def nestedCard : Card where
  list _ := .ok [⟨"1.txt", false, 22⟩, ⟨"parts", true, 0⟩]
  read _ := .ok "file-select // /sd/run".toUTF8.toList

/-- The root menu is opened, a choice begins at the top, and leads into the
    directory. -/
def nestedMoves : List Move :=
  [.openRoot, .click 1 nestedCard {}, .click 1 nestedCard {}]

/-- From the directory, two clicks on the way up lead back into the menu. -/
theorem browsing_retraces_nested :
    let n := (ofRoot "/sd/menu" "en").moveAll nestedMoves
    let back := n.moveAll (upward [(.absent, {}), (.absent, {})])
    (∀ m ∈ nestedMoves, m.OnNamedCard) ∧ n.isBrowsing = true ∧ n.path = "/parts" ∧
      Inside "/" n.path ∧ back.mode = .menu ∧ back.path = "/sd/menu" := by
  intro n back
  have hcard : nestedCard.NamesEntries := by
    rintro dir entries hlist entry hmem
    obtain rfl := Except.ok.inj hlist
    revert entry
    decide
  have hmoves : ∀ m ∈ nestedMoves, m.OnNamedCard := by
    simp [nestedMoves, Move.OnNamedCard, hcard]
  have hoffered : ((ofRoot "/sd/menu" "en").moveAll [.openRoot]).offered? nestedCard {} 1 =
      some (.fileSelect "//" "/sd/run") := by decide +kernel
  have hbegun : ((ofRoot "/sd/menu" "en").moveAll
      [.openRoot, .click 1 nestedCard {}]).isBrowsing = true := by decide +kernel
  have hbrowses : n.isBrowsing = true := by decide +kernel
  have hsession : Session ((ofRoot "/sd/menu" "en").moveAll [.openRoot]) "//"
      (.click 1 nestedCard {}) [.click 1 nestedCard {}] := by
    refine ⟨⟨1, nestedCard, {}, "/sd/run", rfl, hoffered⟩, fun part hpart => ?_⟩
    rcases List.prefix_cons_iff.1 hpart with rfl | ⟨rest, rfl, hrest⟩
    · exact hbegun
    · obtain rfl := List.prefix_nil.1 hrest
      exact hbrowses
  have hnet : netDescents (((ofRoot "/sd/menu" "en").moveAll [.openRoot]).move
      (.click 1 nestedCard {})) [.click 1 nestedCard {}] = 1 := by decide +kernel
  have hretraces := (browsing_retraces "/sd/menu" "en" hmoves).2 [.openRoot] _ _ "//" rfl hsession
  obtain ⟨depth, hdepth, hleaves⟩ := hretraces.leaves
  obtain rfl : depth = 1 := by omega
  obtain ⟨hmode, hpath⟩ := (hleaves [(.absent, {}), (.absent, {})]).2 rfl
  exact ⟨hmoves, hbrowses, by decide +kernel, hretraces.inside, hmode, hpath⟩

end Navigator

end Interlock.Menu
