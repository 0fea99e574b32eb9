import Interlock.Menu.Navigator
import Mathlib.Tactic.SplitIfs

namespace Interlock

/-- Nothing was done to the outside but writing to the log. -/
structure Trace.OnlyRecords (t : Trace) : Prop where
  events : t.events = []
  sent : t.sent = []
  panel : t.panel = []
  pins : t.pins = []
  switches : t.switches = []

/-- Two traces of records alone are one. -/
theorem Trace.OnlyRecords.append {s t : Trace} (hs : s.OnlyRecords) (ht : t.OnlyRecords) :
    (s ++ t).OnlyRecords where
  events := by simp [hs.events, ht.events]
  sent := by simp [hs.sent, ht.sent]
  panel := by simp [hs.panel, ht.panel]
  pins := by simp [hs.pins, ht.pins]
  switches := by simp [hs.switches, ht.switches]

end Interlock

namespace Interlock.Menu

namespace Line

/-- Every condition has the value that the line declares for it, if it declares
    one. -/
def Holds (line : Line) (flags : MachineFlags) (selected : Option String) : Prop :=
  ∀ c expected, line.expected c = some expected → actual flags selected c = expected

/-- A line is shown exactly if its conditions hold; a condition that it does not
    name is of no account. -/
theorem isEligible_iff (line : Line) (flags : MachineFlags) (selected : Option String) :
    line.isEligible flags selected = true ↔ line.Holds flags selected := by
  have hall (c : Condition) : c ∈ Condition.all := by cases c <;> decide
  simp only [isEligible, List.all_eq_true, Holds]
  constructor
  · intro heligible c expected hexpected
    have hvalue := heligible c (hall c)
    rw [hexpected] at hvalue
    exact eq_of_beq hvalue
  · intro hholds c _
    cases hexpected : line.expected c with
    | none => rfl
    | some expected => exact beq_iff_eq.2 (hholds c expected hexpected)

instance (line : Line) (flags : MachineFlags) (selected : Option String) :
    Decidable (line.Holds flags selected) :=
  decidable_of_iff _ (line.isEligible_iff flags selected)

/-- The test of the conditions decides whether they hold. -/
theorem decide_holds (line : Line) (flags : MachineFlags) (selected : Option String) :
    decide (line.Holds flags selected) = line.isEligible flags selected := by
  rw [Bool.eq_iff_iff, decide_eq_true_iff, isEligible_iff]

end Line

/-- The line that a file defines; a file that cannot be read defines a blank
    line. -/
def Card.definition (card : Card) (language path : String) : Line :=
  match card.read path with
  | .ok bytes => Line.ofBytes language bytes
  | .error _ => {}

theorem value_lineOf (card : Card) (language dir : String) (entry : CardEntry) :
    (lineOf card language dir entry).value =
      card.definition language (joinPath dir entry.name) := by
  cases hread : card.read (joinPath dir entry.name) <;> simp [lineOf, Card.definition, hread]

theorem onlyRecords_lineOf (card : Card) (language dir : String) (entry : CardEntry) :
    (lineOf card language dir entry).trace.OnlyRecords := by
  unfold lineOf
  dsimp only
  split <;> exact ⟨rfl, rfl, rfl, rfl, rfl⟩

/-- The definitions of a directory in its order. -/
def Card.menuDefinitions (card : Card) (language dir : String) (entries : List CardEntry) :
    List Line :=
  (entries.filter EntryFilter.definitions.accepts).map fun entry =>
    card.definition language (joinPath dir entry.name)

/-- The lines of a menu: the definitions whose conditions hold. The navigator
    looks at the card anew for every count of lines, every line on display and
    every click, and lists the directory again for every definition. All of
    these follow this one list. -/
def Card.menuLines (card : Card) (view : View) (dir : String) (entries : List CardEntry) :
    List Line :=
  (card.menuDefinitions view.language dir entries).filter fun line =>
    line.Holds view.flags view.selected

/-- One turn of the search. -/
theorem value_findShown_eq (card : Card) (view : View) (dir : String) (place seen ordinal : Nat) :
    (findShown card view dir place seen ordinal).value =
      match (resolve card view.language dir ordinal).value with
      | .error cause => .error cause
      | .ok none => .ok none
      | .ok (some line) =>
        if line.isEligible view.flags view.selected then
          if seen + 1 = place then .ok (some line)
          else (findShown card view dir place (seen + 1) (ordinal + 1)).value
        else (findShown card view dir place seen (ordinal + 1)).value := by
  rw [findShown]
  simp only [Traced.value_bind]
  split <;> rename_i hfound <;> rw [hfound]
  · rfl
  · rfl
  · dsimp only
    split_ifs <;> rfl

theorem value_countFrom_eq (card : Card) (view : View) (dir : String) (count ordinal : Nat) :
    (countFrom card view dir count ordinal).value =
      match (resolve card view.language dir ordinal).value with
      | .error cause => .error cause
      | .ok none => .ok count
      | .ok (some line) =>
        (countFrom card view dir
          (if line.isEligible view.flags view.selected then count + 1 else count)
          (ordinal + 1)).value := by
  rw [countFrom]
  simp only [Traced.value_bind]
  split <;> rename_i hfound <;> rw [hfound] <;> rfl

section Listed

variable {card : Card} {dir : String} {entries : List CardEntry}

/-- The ordinals of a directory run through its definitions, and then there are
    none. -/
theorem value_resolve (hlist : card.list dir = .ok entries) (language : String) (k : Nat) :
    (resolve card language dir (k + 1)).value =
      .ok (card.menuDefinitions language dir entries)[k]? := by
  unfold resolve Card.candidates Card.menuDefinitions
  rw [if_neg (Nat.succ_ne_zero k), hlist, List.getElem?_map]
  simp only [Except.map, Nat.add_sub_cancel]
  cases (entries.filter EntryFilter.definitions.accepts)[k]? with
  | none => rfl
  | some entry => simp [value_lineOf]

theorem value_resolve_of_drop (hlist : card.list dir = .ok entries) {language : String} {k : Nat}
    {rest : List Line} (hrest : (card.menuDefinitions language dir entries).drop k = rest) :
    (resolve card language dir (k + 1)).value = .ok rest.head? := by
  rw [value_resolve hlist, ← List.head?_drop, hrest]

/-- The search passes over the definitions whose conditions fail, and counts the
    others. It has not counted up to the place yet, so the line in that place is
    still to come. -/
theorem value_findShown (hlist : card.list dir = .ok entries) (view : View) {place seen : Nat}
    (hseen : seen < place) (k : Nat) :
    (findShown card view dir place seen (k + 1)).value =
      .ok (((card.menuDefinitions view.language dir entries).drop k).filter
        fun line => line.isEligible view.flags view.selected)[place - (seen + 1)]? := by
  -- The induction is on the definitions that the search has not come to yet.
  generalize hrest : (card.menuDefinitions view.language dir entries).drop k = rest
  induction rest generalizing seen k with
  | nil =>
    rw [value_findShown_eq, value_resolve_of_drop hlist hrest]
    rfl
  | cons line rest ih =>
    have hdrop : (card.menuDefinitions view.language dir entries).drop (k + 1) = rest := by
      rw [← List.tail_drop, hrest, List.tail_cons]
    rw [value_findShown_eq, value_resolve_of_drop hlist hrest, List.filter_cons]
    dsimp only [List.head?_cons]
    split_ifs with heligible hplace
    · simp [← hplace]
    · rw [ih (by omega) (k + 1) hdrop, List.getElem?_cons, if_neg (by omega), Nat.sub_sub]
    · exact ih hseen (k + 1) hdrop

/-- The count adds up the definitions whose conditions hold. The induction is on
    the definitions that are left, and the count so far is added to theirs. -/
theorem value_countFrom (hlist : card.list dir = .ok entries) (view : View) (count k : Nat) :
    (countFrom card view dir count (k + 1)).value =
      .ok (count + (((card.menuDefinitions view.language dir entries).drop k).filter
        fun line => line.isEligible view.flags view.selected).length) := by
  generalize hrest : (card.menuDefinitions view.language dir entries).drop k = rest
  induction rest generalizing count k with
  | nil =>
    rw [value_countFrom_eq, value_resolve_of_drop hlist hrest]
    rfl
  | cons line rest ih =>
    have hdrop : (card.menuDefinitions view.language dir entries).drop (k + 1) = rest := by
      rw [← List.tail_drop, hrest, List.tail_cons]
    rw [value_countFrom_eq, value_resolve_of_drop hlist hrest, List.filter_cons]
    dsimp only [List.head?_cons]
    rw [ih _ (k + 1) hdrop]
    split_ifs
    · rw [List.length_cons]
      congr 1
      omega
    · rfl

end Listed

/-- A directory that cannot be listed fails at the first definition, and at
    every other. -/
theorem value_resolve_error {card : Card} {dir : String} {cause : AccessFailure}
    (hlist : card.list dir = .error cause) (language : String) (k : Nat) :
    (resolve card language dir (k + 1)).value = .error cause := by
  unfold resolve Card.candidates
  rw [if_neg (Nat.succ_ne_zero k), hlist]
  rfl

/-- The line in a place is the one of that place in the list of lines. -/
theorem value_nthShown (card : Card) (view : View) (dir : String) (place : Nat) :
    (nthShown card view dir (place + 1)).value =
      (card.list dir).map fun entries => (card.menuLines view dir entries)[place]? := by
  cases hlist : card.list dir with
  | error cause =>
    rw [nthShown, value_findShown_eq, value_resolve_error hlist]
    rfl
  | ok entries =>
    simp only [nthShown, value_findShown hlist view place.succ_pos 0, Except.map, Card.menuLines,
      Line.decide_holds, List.drop_zero, Nat.zero_add, Nat.succ_eq_add_one, Nat.add_sub_cancel]

/-- The count of lines is the length of that list. -/
theorem value_countShown (card : Card) (view : View) (dir : String) :
    (countShown card view dir).value =
      (card.list dir).map fun entries => (card.menuLines view dir entries).length := by
  cases hlist : card.list dir with
  | error cause =>
    rw [countShown, value_countFrom_eq, value_resolve_error hlist]
    rfl
  | ok entries =>
    simp only [countShown, value_countFrom hlist view 0 0, Except.map, Card.menuLines,
      Line.decide_holds, List.drop_zero, Nat.zero_add]

/-- Looking for a definition writes to the log at most. -/
theorem onlyRecords_resolve (card : Card) (language dir : String) (ordinal : Nat) :
    (resolve card language dir ordinal).trace.OnlyRecords := by
  unfold resolve
  split
  · exact ⟨rfl, rfl, rfl, rfl, rfl⟩
  · split
    · exact ⟨rfl, rfl, rfl, rfl, rfl⟩
    · split
      · exact ⟨rfl, rfl, rfl, rfl, rfl⟩
      · exact (onlyRecords_lineOf ..).append ⟨rfl, rfl, rfl, rfl, rfl⟩

theorem onlyRecords_findShown (card : Card) (view : View) (dir : String)
    (place seen ordinal : Nat) :
    (findShown card view dir place seen ordinal).trace.OnlyRecords := by
  fun_induction findShown card view dir place seen ordinal with
  | case1 seen ordinal found ihShown ihHidden =>
    refine (onlyRecords_resolve ..).append ?_
    split
    · exact ⟨rfl, rfl, rfl, rfl, rfl⟩
    · exact ⟨rfl, rfl, rfl, rfl, rfl⟩
    · rename_i line hline
      split_ifs
      · exact ⟨rfl, rfl, rfl, rfl, rfl⟩
      · exact ihShown line hline
      · exact ihHidden line hline

theorem onlyRecords_nthShown (card : Card) (view : View) (dir : String) (place : Nat) :
    (nthShown card view dir place).trace.OnlyRecords :=
  onlyRecords_findShown card view dir place 0 1

theorem onlyRecords_countFrom (card : Card) (view : View) (dir : String) (count ordinal : Nat) :
    (countFrom card view dir count ordinal).trace.OnlyRecords := by
  fun_induction countFrom card view dir count ordinal with
  | case1 count ordinal found ih =>
    refine (onlyRecords_resolve ..).append ?_
    split
    · exact ⟨rfl, rfl, rfl, rfl, rfl⟩
    · exact ⟨rfl, rfl, rfl, rfl, rfl⟩
    · rename_i line hline
      exact ih line hline

/-- What stands in a line of the display: a line of a menu, or a job file or
    directory. -/
inductive Item where
  | line (line : Line)
  | job (entry : CardEntry)

namespace Navigator

/-- The items of the current directory in their order. -/
def items (n : Navigator) (card : Card) (flags : MachineFlags) :
    Except AccessFailure (List Item) :=
  (card.list n.path).map fun entries =>
    match n.mode with
    | .menu => (card.menuLines (n.view flags) n.path entries).map .line
    | .browse _ _ _ => (entries.filter EntryFilter.jobs.accepts).map .job

/-- An item on display. -/
def render (n : Navigator) : Item → DisplayLine
  | .line line => .entry (n.substitute line.label) line.isTitle line.selectable
  | .job entry => .entry (if entry.isDirectory then entry.name ++ "/" else entry.name) false true

/-- What a click on an item does, or on none: a line that can be selected is
    carried out if it has an action, and a job file or directory is taken. -/
def follow (n : Navigator) : Option Item → Traced (Navigator × Outcome)
  | some (.line line) =>
    if line.selectable then line.action.elim (pure (n, .stayed)) n.perform else pure (n, .stayed)
  | some (.job entry) =>
    match n.mode with
    | .menu => pure (n, .stayed)
    | .browse _ returnMenu _ => n.takeEntry returnMenu entry
  | none => pure (n, .stayed)

theorem followLine_eq (n : Navigator) (line : Line) :
    n.followLine line = n.follow (some (.line line)) := by
  cases hselectable : line.selectable <;> cases haction : line.action <;>
    simp [followLine, follow, hselectable, haction]

theorem isBrowsing_eq_false {n : Navigator} (hmode : n.mode = .menu) : n.isBrowsing = false := by
  simp [isBrowsing, hmode]

theorem isBrowsing_eq_true {n : Navigator} {start returnMenu origin : String}
    (hmode : n.mode = .browse start returnMenu origin) : n.isBrowsing = true := by
  simp [isBrowsing, hmode]

section

variable (n : Navigator) (card : Card) (flags : MachineFlags)

/-- There is one line more than items, for the way up. -/
theorem value_lineCount :
    (n.lineCount card flags).value = (n.items card flags).map fun items => items.length + 1 := by
  unfold lineCount items
  cases hmode : n.mode with
  | menu =>
    simp only [isBrowsing_eq_false hmode, Bool.false_eq_true, if_false, Traced.value_bind,
      Traced.value_pure, value_countShown]
    cases card.list n.path <;> simp [Except.map]
  | browse start returnMenu origin =>
    simp only [isBrowsing_eq_true hmode, if_true, Traced.value_pure, Card.candidates]
    cases card.list n.path <;> simp [Except.map]

/-- The display shows the item of a place, and a blank line below the items.
    Both kinds of directory number their items in the same way. -/
theorem value_display (place : Nat) :
    (n.display (place + 1) card flags).value =
      (n.items card flags).map fun items => items[place]?.elim .blank n.render := by
  unfold display items
  rw [if_neg place.succ_ne_zero]
  cases hmode : n.mode with
  | menu =>
    simp only [isBrowsing_eq_false hmode, Bool.false_eq_true, if_false, Traced.value_bind,
      Traced.value_pure, value_nthShown]
    cases card.list n.path with
    | error cause => rfl
    | ok entries =>
      simp only [Except.map, List.getElem?_map]
      cases (card.menuLines (n.view flags) n.path entries)[place]? <;> rfl
  | browse start returnMenu origin =>
    simp only [isBrowsing_eq_true hmode, if_true, Traced.value_pure, Card.candidates]
    cases card.list n.path with
    | error cause => rfl
    | ok entries =>
      simp only [Except.map, List.getElem?_map, Nat.add_sub_cancel]
      cases (entries.filter EntryFilter.jobs.accepts)[place]? <;> rfl

/-- A click takes the cursor to its place, looks for the item there and follows
    it. -/
theorem click_follows (place : Nat) :
    let cursor : Navigator := { n with line := place + 1 }
    let clicked := n.click (place + 1) card flags
    match n.items card flags with
    | .error cause => clicked.value = (cursor, .error cause) ∧ clicked.trace.sent = []
    | .ok items =>
      let followed := cursor.follow items[place]?
      clicked.value = (followed.value.1, .ok followed.value.2) ∧
        clicked.trace.sent = followed.trace.sent := by
  obtain ⟨_, _, path, _, _, mode, _, _⟩ := n
  unfold click items
  rw [if_neg place.succ_ne_zero]
  cases mode with
  | menu =>
    simp only [Traced.value_bind, Traced.trace_bind, Trace.sent_append,
      (onlyRecords_nthShown ..).sent, List.nil_append, value_nthShown, view, selected]
    cases card.list path with
    | error cause => exact ⟨rfl, rfl⟩
    | ok entries =>
      simp only [Except.map, List.getElem?_map]
      generalize (card.menuLines _ path entries)[place]? = found
      cases found with
      | none => exact ⟨rfl, rfl⟩
      | some line => simp [followLine_eq]
  | browse start returnMenu origin =>
    simp only [Card.candidates, Nat.add_sub_cancel]
    cases card.list path with
    | error cause => exact ⟨rfl, rfl⟩
    | ok entries =>
      simp only [Except.map, List.getElem?_map]
      cases (entries.filter EntryFilter.jobs.accepts)[place]? with
      | none => exact ⟨rfl, rfl⟩
      | some entry => simp [follow]

/-- The count of lines, the display and the clicks agree with the items of the
    directory, and fail with it: the way up stands above the items, every item
    is shown in its place, there is nothing below them, and a click follows the
    item of its line. Any card will do, even one that cannot be read. -/
theorem count_display_and_click_agree :
    (n.lineCount card flags).value = (n.items card flags).map (fun items => items.length + 1) ∧
      (n.display 0 card flags).value = .ok .up ∧
      ∀ place,
        let cursor : Navigator := { n with line := place + 1 }
        let clicked := n.click (place + 1) card flags
        (n.display (place + 1) card flags).value =
            (n.items card flags).map (fun items => items[place]?.elim .blank n.render) ∧
          match n.items card flags with
          | .error cause => clicked.value = (cursor, .error cause) ∧ clicked.trace.sent = []
          | .ok items =>
            let followed := cursor.follow items[place]?
            clicked.value = (followed.value.1, .ok followed.value.2) ∧
              clicked.trace.sent = followed.trace.sent :=
  ⟨n.value_lineCount card flags, rfl, fun place =>
    ⟨n.value_display card flags place, n.click_follows card flags place⟩⟩

end

/-- What stands in a line of the display; nothing stands in that of the way up. -/
def shown? (n : Navigator) (card : Card) (flags : MachineFlags) : Nat → Option Item
  | 0 => none
  | place + 1 => (n.items card flags).toOption.bind (·[place]?)

/-- The action that a line of the display offers: that of a menu line that can
    be selected. -/
def offered? (n : Navigator) (card : Card) (flags : MachineFlags) (line : Nat) : Option Action :=
  match n.shown? card flags line with
  | some (.line found) => if found.selectable then found.action else none
  | _ => none

section

variable {n : Navigator} {card : Card} {flags : MachineFlags} {line : Nat}

/-- What stands in a line is an item of the directory, which could then be
    listed. -/
theorem exists_items_of_shown {item : Item} (hshown : n.shown? card flags line = some item) :
    ∃ items, n.items card flags = .ok items ∧ item ∈ items := by
  cases line with
  | zero => cases hshown
  | succ place =>
    unfold shown? at hshown
    cases hitems : n.items card flags with
    | error cause =>
      rw [hitems] at hshown
      cases hshown
    | ok items =>
      rw [hitems] at hshown
      exact ⟨items, rfl, List.mem_of_getElem? hshown⟩

/-- A click on a line follows what stands there. The search of the click and the
    list of the display find the same item. -/
theorem click_shown {item : Item} (hshown : n.shown? card flags line = some item) :
    let followed := follow { n with line } (some item)
    (n.click line card flags).value = (followed.value.1, .ok followed.value.2) ∧
      (n.click line card flags).trace.sent = followed.trace.sent := by
  cases line with
  | zero => cases hshown
  | succ place =>
    have hfollows := n.click_follows card flags place
    unfold shown? at hshown
    cases hitems : n.items card flags with
    | error cause =>
      rw [hitems] at hshown
      cases hshown
    | ok items =>
      rw [hitems] at hfollows hshown
      simp only [Except.toOption, Option.bind_some] at hshown
      dsimp only at hfollows
      rwa [hshown] at hfollows

/-- A click on a line carries out the action that it offers. -/
theorem click_offered {action : Action} (hoffered : n.offered? card flags line = some action) :
    let performed := perform { n with line } action
    (n.click line card flags).value = (performed.value.1, .ok performed.value.2) ∧
      (n.click line card flags).trace.sent = performed.trace.sent := by
  unfold offered? at hoffered
  split at hoffered
  · rename_i found hshown
    obtain ⟨hselectable, haction⟩ := Option.ite_none_right_eq_some.1 hoffered
    have hclicked := click_shown hshown
    simpa only [follow, hselectable, if_true, haction, Option.elim_some] using hclicked
  · cases hoffered

end

end Navigator

end Interlock.Menu
