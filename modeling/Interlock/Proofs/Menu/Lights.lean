import Interlock.Proofs.Alarm.Panel
import Interlock.Proofs.Menu.Items
import Mathlib.Data.List.Induction

namespace Interlock.Menu

namespace Navigator

@[simp] theorem lights_enter (n : Navigator) (dir : String) : (n.enter dir).lights = n.lights := by
  unfold enter
  split <;> rfl

@[simp] theorem lights_showMenu (n : Navigator) (dir : String) :
    (n.showMenu dir).lights = n.lights := by
  simp [showMenu]

/-- After calls of the modules the lights are as the indicator was set last;
    menus that are shown keep them. -/
theorem lights_takeAll (n : Navigator) (calls : List PanelCall) :
    (Panel.takeAll n calls).lights = (PanelCall.lit calls).elim n.lights fun on => ⟨on, !on⟩ := by
  induction calls using List.reverseRecOn with
  | nil => rfl
  | append_singleton calls call ih =>
    rw [Panel.takeAll_append, PanelCall.lit_append]
    cases call with
    | faultIndicator on => rfl
    | showMenu path =>
      rw [PanelCall.lit_showMenu, Option.none_or, ← ih]
      exact lights_showMenu (Panel.takeAll n calls) path

section

variable (n : Navigator)

/-- The way up keeps the lights. -/
theorem lights_goUp : n.goUp.value.1.lights = n.lights := by
  unfold goUp
  split
  · split <;> simp
  · split
    · rfl
    · simp

theorem lights_takeEntry (returnMenu : String) (entry : CardEntry) :
    (n.takeEntry returnMenu entry).value.1.lights = n.lights := by
  unfold takeEntry
  dsimp only
  split <;> simp

theorem lights_perform (action : Action) : (n.perform action).value.1.lights = n.lights := by
  cases action <;> simp [perform, leaveToWatch, reset]

/-- Following an item keeps the lights, whatever the item is. -/
theorem lights_follow (item : Option Item) : (n.follow item).value.1.lights = n.lights := by
  unfold follow
  split
  · rename_i line
    split
    · cases line.action with
      | none => rfl
      | some action => exact n.lights_perform action
    · rfl
  · split
    · rfl
    · exact n.lights_takeEntry _ _
  · rfl

/-- Scrolling moves the cursor and nothing else. -/
theorem value_scroll (delta : Int) (card : Card) (flags : MachineFlags) :
    ∃ line, (n.scroll delta card flags).value.1 = { n with line } := by
  unfold scroll
  rw [Traced.value_bind]
  split
  · exact ⟨n.line, rfl⟩
  · exact ⟨_, rfl⟩

theorem lights_scroll (delta : Int) (card : Card) (flags : MachineFlags) :
    (n.scroll delta card flags).value.1.lights = n.lights := by
  obtain ⟨line, hscrolled⟩ := n.value_scroll delta card flags
  rw [hscrolled]

/-- The operator's moves keep the lights: only the fault indicator changes them. -/
theorem lights_click (place : Nat) (card : Card) (flags : MachineFlags) :
    (n.click place card flags).value.1.lights = n.lights := by
  cases place with
  | zero => exact lights_goUp { n with line := 0 }
  | succ place =>
    have hfollows := n.click_follows card flags place
    cases hitems : n.items card flags with
    | error cause =>
      rw [hitems] at hfollows
      rw [hfollows.1]
    | ok items =>
      rw [hitems] at hfollows
      rw [hfollows.1]
      exact lights_follow _ _

end

section

variable (n : Navigator)

/-- The way up tells of nothing. -/
theorem events_goUp : n.goUp.trace.events = [] := by
  unfold goUp
  split
  · split <;> rfl
  · split <;> rfl

theorem events_takeEntry (returnMenu : String) (entry : CardEntry) :
    (n.takeEntry returnMenu entry).trace.events = [] := by
  unfold takeEntry
  dsimp only
  split <;> rfl

/-- Carrying out a menu line tells of nothing, even if it asks for a state: that
    is up to the cutter. -/
theorem events_followLine (line : Line) : (n.followLine line).trace.events = [] := by
  unfold followLine
  split
  · rename_i action _ _
    cases action <;> rfl
  · rfl

/-- Scrolling tells of nothing. -/
theorem events_scroll (delta : Int) (card : Card) (flags : MachineFlags) :
    (n.scroll delta card flags).trace.events = [] := by
  have hcount : (n.lineCount card flags).trace.events = [] := by
    unfold lineCount
    split
    · rfl
    · simp [(onlyRecords_countFrom ..).events, countShown]
  simp only [scroll, Traced.trace_bind, Trace.events_append, hcount, List.nil_append]
  split <;> rfl

/-- The operator's moves tell nothing of the modules, as they write to the log
    and to the machine only. -/
theorem events_click (place : Nat) (card : Card) (flags : MachineFlags) :
    (n.click place card flags).trace.events = [] := by
  unfold click
  dsimp only
  split
  · simp [events_goUp]
  · split
    · split
      · rfl
      · split
        · rfl
        · simp [events_takeEntry]
    · simp only [Traced.trace_bind, Trace.events_append, (onlyRecords_nthShown ..).events,
        List.nil_append]
      split
      · rfl
      · rfl
      · simp [events_followLine]

end

end Navigator

end Interlock.Menu
