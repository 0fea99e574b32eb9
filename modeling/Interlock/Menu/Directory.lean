import Interlock.Menu.Definition
import Interlock.Menu.Path
import Interlock.Trace

namespace Interlock.Menu

/-- What the lines of a menu depend on besides the card. Nothing is remembered
    between two looks at a directory, so the lines always follow the state of
    the machine. -/
structure View where
  language : String
  flags : MachineFlags
  /-- The selected job file. -/
  selected : Option String := none

/-- The line of a definition; one that cannot be read leaves a blank line. -/
def lineOf (card : Card) (language dir : String) (entry : CardEntry) : Traced Line :=
  let path := joinPath dir entry.name
  match card.read path with
  | .ok bytes => ⟨Line.ofBytes language bytes, { records := definitionRecords language bytes }⟩
  | .error cause =>
    ⟨{}, { records := [⟨.warn, s!"{path}: {(Failure.access cause).message}"⟩] }⟩

/-- The line of the definition at a place of a directory, counted from one,
    shown or not. -/
def resolve (card : Card) (language dir : String) (ordinal : Nat) :
    Traced (Except AccessFailure (Option Line)) :=
  if ordinal = 0 then pure (.ok none)
  else
    match card.candidates dir .definitions with
    | .error cause => pure (.error cause)
    | .ok entries =>
      match entries[ordinal - 1]? with
      | none => pure (.ok none)
      | some entry => do return .ok (some (← lineOf card language dir entry))

/-- How many definitions stand from an ordinal on. -/
def remaining (card : Card) (dir : String) (ordinal : Nat) : Nat :=
  match card.candidates dir .definitions with
  | .error _ => 0
  | .ok entries => entries.length + 1 - ordinal

/-- A look-up that found a line leaves fewer definitions behind it, which ends
    both loops below. Nothing is asked of the ordinal: that a line was found
    shows it to lie within the directory. -/
theorem remaining_lt_of_resolve {card : Card} {language dir : String} {ordinal : Nat} {line : Line}
    (h : (resolve card language dir ordinal).value = .ok (some line)) :
    remaining card dir (ordinal + 1) < remaining card dir ordinal := by
  unfold resolve at h
  unfold remaining
  split at h
  · simp at h
  · cases hlist : card.candidates dir .definitions with
    | error cause => simp [hlist] at h
    | ok entries =>
      have hplace : ordinal - 1 < entries.length := Nat.lt_of_not_le fun hbeyond => by
        simp [hlist, List.getElem?_eq_none hbeyond] at h
      dsimp only
      omega

/-- Reads definitions in order from an ordinal on, up to the line that is shown
    in a given place, where some lines have been shown before. -/
def findShown (card : Card) (view : View) (dir : String) (place seen ordinal : Nat) :
    Traced (Except AccessFailure (Option Line)) := do
  let found := resolve card view.language dir ordinal
  let _ ← found
  match h : found.value with
  | .error cause => return .error cause
  | .ok none => return .ok none
  | .ok (some line) =>
    if line.isEligible view.flags view.selected then
      if seen + 1 = place then return .ok (some line)
      else findShown card view dir place (seen + 1) (ordinal + 1)
    else findShown card view dir place seen (ordinal + 1)
termination_by remaining card dir ordinal
decreasing_by all_goals exact remaining_lt_of_resolve h

/-- The line that is shown in a place, counted from one; no line is in place
    zero. -/
def nthShown (card : Card) (view : View) (dir : String) (place : Nat) :
    Traced (Except AccessFailure (Option Line)) :=
  findShown card view dir place 0 1

/-- Reads all definitions from an ordinal on and adds the lines that are shown
    to a count. -/
def countFrom (card : Card) (view : View) (dir : String) (count ordinal : Nat) :
    Traced (Except AccessFailure Nat) := do
  let found := resolve card view.language dir ordinal
  let _ ← found
  match h : found.value with
  | .error cause => return .error cause
  | .ok none => return .ok count
  | .ok (some line) =>
    let count := if line.isEligible view.flags view.selected then count + 1 else count
    countFrom card view dir count (ordinal + 1)
termination_by remaining card dir ordinal
decreasing_by exact remaining_lt_of_resolve h

/-- How many lines of a directory are shown. -/
def countShown (card : Card) (view : View) (dir : String) : Traced (Except AccessFailure Nat) :=
  countFrom card view dir 0 1

end Interlock.Menu
