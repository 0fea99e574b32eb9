import Interlock.Counter.Basic

namespace Interlock

/-- What a counter of a bank is for. -/
inductive CounterKind where
  /-- Guards a physical condition and always advances. -/
  | guard
  /-- Measures useful work and stands still while the bank is frozen. -/
  | productive
  deriving DecidableEq, Inhabited

/-- A counter with what was declared for it; `group` is its exclusive group. -/
structure BankCounter extends Counter where
  name : String
  kind : CounterKind
  group : Option Nat
  deriving DecidableEq, Inhabited

/-- Named counters that tick together. Counters may share an exclusive group:
    the start of one stops the others of the group in the same tick. Counters of
    useful work stand still while the bank is frozen. -/
structure CounterBank where
  counters : List BankCounter
  frozen : Bool := false
  deriving DecidableEq, Inhabited

namespace CounterBank

/-- The number of counters that a bank holds at most. -/
def capacity : Nat := 4

/-- A bank of stopped counters in the order of their declarations, which give
    name, kind and group; `none` when there are too many. -/
def declare? (specs : List (String × CounterKind × Option Nat)) : Option CounterBank :=
  if specs.length ≤ capacity then
    some { counters := specs.map fun (name, kind, group) => { name, kind, group } }
  else none

/-- Changes the counter at a position; a position beyond the bank changes
    nothing. -/
def modify (b : CounterBank) (key : Nat) (f : Counter → Counter) : CounterBank :=
  { b with counters := b.counters.modify key fun c => { c with toCounter := f c.toCounter } }

/-- Asks for a restart of the counter at a position. -/
def requestStart (b : CounterBank) (key : Nat) : CounterBank :=
  b.modify key Counter.requestStart

/-- Asks for a stop of the counter at a position. -/
def requestStop (b : CounterBank) (key : Nat) : CounterBank :=
  b.modify key Counter.requestStop

/-- Starts the counter at a position unless it runs. -/
def ensureRunning (b : CounterBank) (key : Nat) : CounterBank :=
  b.modify key Counter.ensureRunning

/-- Freezes or thaws the counters of useful work. -/
def setFrozen (b : CounterBank) (frozen : Bool) : CounterBank :=
  { b with frozen }

/-- The start of the counter at a position asks the others of its group to stop,
    apart from those for which a start is requested as well. -/
def stopRivals (counters : List BankCounter) (key : Nat) : List BankCounter :=
  match counters[key]? with
  | none => counters
  | some starter =>
    if starter.startRequested && starter.group.isSome then
      counters.mapIdx fun place c =>
        if place != key && c.group == starter.group && !c.startRequested then
          { c with toCounter := c.requestStop }
        else c
    else counters

/-- One position after the other, the starts ask their rivals to stop. -/
def stopAllRivals (counters : List BankCounter) : List BankCounter :=
  (List.range counters.length).foldl stopRivals counters

/-- Applies the requests of a counter and counts the second. -/
def tickAlone (frozen : Bool) (c : BankCounter) : BankCounter :=
  { c with toCounter := c.tick (frozen && c.kind == .productive) false }

/-- One second: first the groups, and then every counter by itself. -/
def tick (b : CounterBank) : CounterBank :=
  { b with counters := (stopAllRivals b.counters).map (tickAlone b.frozen) }

/-- Stops and zeroes every counter of a kind and drops its requests. -/
def resetKind (b : CounterBank) (kind : CounterKind) : CounterBank :=
  { b with
    counters := b.counters.map fun c => if c.kind == kind then { c with toCounter := {} } else c }

/-- The count at a position, and zero beyond the bank. -/
def elapsed (b : CounterBank) (key : Nat) : Nat :=
  (b.counters[key]?).elim 0 (·.elapsed)

/-- Whether the counter at a position runs; none does beyond the bank. -/
def isRunning (b : CounterBank) (key : Nat) : Bool :=
  (b.counters[key]?).elim false (·.running)

/-- Several ticks. -/
def ticks : Nat → CounterBank → CounterBank
  | 0, b => b
  | n + 1, b => ticks n b.tick

end CounterBank

end Interlock
