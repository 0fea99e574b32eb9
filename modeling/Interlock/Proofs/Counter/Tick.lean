import Interlock.Counter.Bank
import Mathlib.Data.List.Basic

namespace Interlock

theorem Counter.tick_requestStop (c : Counter) (held : Bool) :
    c.requestStop.tick held false = c.tick held true := by
  simp [tick, settle, requestStop]

theorem Counter.tick_of_startRequested {c : Counter} (hstart : c.startRequested = true)
    (held rivalStarts : Bool) : c.tick held false = c.tick held rivalStarts := by
  simp [tick, settle, hstart]

namespace CounterBank

/-- Whether a start is requested for another counter of the same group. A
    counter for which a start is requested itself need not be told apart: its
    own start wins. -/
def rivalStarts (b : CounterBank) (c : BankCounter) : Bool :=
  c.group.isSome && b.counters.any fun other => other.startRequested && other.group == c.group

/-- A second of one counter, told from the requests that the bank holds before
    the second. -/
def tickCounter (b : CounterBank) (c : BankCounter) : BankCounter :=
  { c with toCounter := c.tick (b.frozen && c.kind == .productive) (b.rivalStarts c) }

/-- A counter after some of the starts have asked their rivals to stop. -/
def stoppedBy (starters : List BankCounter) (c : BankCounter) : BankCounter :=
  if starters.any (fun starter => starter.startRequested && starter.group.isSome &&
      c.group == starter.group) && !c.startRequested then
    { c with toCounter := c.requestStop }
  else c

section

variable (starters : List BankCounter) (c : BankCounter)

@[simp] theorem startRequested_stoppedBy :
    (stoppedBy starters c).startRequested = c.startRequested := by
  unfold stoppedBy
  split <;> rfl

@[simp] theorem group_stoppedBy : (stoppedBy starters c).group = c.group := by
  unfold stoppedBy
  split <;> rfl

@[simp] theorem stoppedBy_nil : stoppedBy [] = id := by
  funext c
  simp [stoppedBy]

theorem stoppedBy_singleton (starter : BankCounter) :
    stoppedBy [starter] c =
      if starter.startRequested && starter.group.isSome && c.group == starter.group &&
          !c.startRequested then
        { c with toCounter := c.requestStop }
      else c := by
  rw [stoppedBy, List.any_cons, List.any_nil, Bool.or_false]

/-- Only the starts and the groups of the starters count, and these stay as they
    are, so a starter may have been stopped by others before. -/
theorem stoppedBy_singleton_stoppedBy (starter : BankCounter) :
    stoppedBy [stoppedBy starters starter] c = stoppedBy [starter] c := by
  rw [stoppedBy_singleton, stoppedBy_singleton, startRequested_stoppedBy, group_stoppedBy]

/-- Starters that come later act as if they came at once with the others: a stop
    that is requested twice is requested. -/
theorem stoppedBy_stoppedBy (more : List BankCounter) :
    stoppedBy more (stoppedBy starters c) = stoppedBy (starters ++ more) c := by
  rw [stoppedBy, group_stoppedBy, startRequested_stoppedBy, stoppedBy, stoppedBy, List.any_append]
  cases starters.any fun starter => starter.startRequested && starter.group.isSome &&
    c.group == starter.group <;>
    cases more.any fun starter => starter.startRequested && starter.group.isSome &&
      c.group == starter.group <;>
    cases c.startRequested <;> rfl

end

/-- The start at one position stops the others of its group. It need not be told
    apart from them, because a starter does not stop itself: its own start is
    requested. -/
theorem getElem?_stopRivals (counters : List BankCounter) (key place : Nat) :
    (stopRivals counters key)[place]? =
      (counters[place]?).map (stoppedBy (counters[key]?).toList) := by
  unfold stopRivals
  cases hstarter : counters[key]? with
  | none => simp
  | some starter =>
    dsimp only [Option.toList_some]
    cases hstarts : starter.startRequested && starter.group.isSome with
    | false =>
      have hnone : stoppedBy [starter] = id := by
        funext c
        rw [stoppedBy_singleton, hstarts]
        rfl
      rw [if_neg Bool.false_ne_true, hnone, Option.map_id, id]
    | true =>
      rw [if_pos rfl, List.getElem?_mapIdx]
      cases hplace : counters[place]? with
      | none => rfl
      | some c =>
        rw [Option.map_some, Option.map_some, stoppedBy_singleton, hstarts, Bool.true_and]
        by_cases hkey : place = key
        · have hown : c = starter := by
            rw [hkey] at hplace
            exact Option.some.inj (hplace.symm.trans hstarter)
          have hstart : c.startRequested = true := by
            rw [hown]
            exact (Bool.and_eq_true_iff.1 hstarts).1
          simp [hstart]
        · rw [bne_iff_ne.2 hkey, Bool.true_and]

/-- The requests of the counters that come first are those before the second, as
    the starts that have been carried out add stops only. -/
theorem getElem?_foldl_stopRivals (counters : List BankCounter) (done place : Nat) :
    ((List.range done).foldl stopRivals counters)[place]? =
      (counters[place]?).map (stoppedBy (counters.take done)) := by
  induction done generalizing place with
  | zero => simp
  | succ done ih =>
    have hstarter (c : BankCounter) :
        stoppedBy ((counters[done]?).map (stoppedBy (counters.take done))).toList c =
          stoppedBy (counters[done]?).toList c := by
      cases counters[done]? with
      | none => rfl
      | some starter => exact stoppedBy_singleton_stoppedBy _ c starter
    rw [List.range_succ, List.foldl_append, List.foldl_cons, List.foldl_nil, getElem?_stopRivals,
      ih, ih, Option.map_map, List.take_add_one]
    refine congrArg (Option.map · _) (funext fun c => ?_)
    rw [Function.comp_apply, hstarter, stoppedBy_stoppedBy]

/-- When all starts have asked, every counter has been stopped by all starters
    as they were at first. -/
theorem stopAllRivals_eq (counters : List BankCounter) :
    stopAllRivals counters = counters.map (stoppedBy counters) := by
  refine List.ext_getElem? fun place => ?_
  rw [stopAllRivals, getElem?_foldl_stopRivals, List.take_length, List.getElem?_map]

/-- The second of a bank is the second of each of its counters, and the order of
    the counters plays no part in it: who starts is settled before any request
    is carried out, and a start that is stopped by a rival would have to be no
    start. -/
theorem tick_eq (b : CounterBank) :
    b.tick = { b with counters := b.counters.map b.tickCounter } := by
  have hcounter (c : BankCounter) :
      tickAlone b.frozen (stoppedBy b.counters c) = b.tickCounter c := by
    have hrivals : (b.counters.any fun starter => starter.startRequested && starter.group.isSome &&
        c.group == starter.group) = b.rivalStarts c := by
      rw [rivalStarts, Bool.eq_iff_iff]
      simp only [List.any_eq_true, Bool.and_eq_true, beq_iff_eq]
      constructor
      · rintro ⟨starter, hmem, ⟨hstart, hgroup⟩, hsame⟩
        exact ⟨hsame ▸ hgroup, starter, hmem, hstart, hsame.symm⟩
      · rintro ⟨hgroup, starter, hmem, hstart, hsame⟩
        exact ⟨starter, hmem, ⟨hstart, hsame ▸ hgroup⟩, hsame.symm⟩
    unfold stoppedBy tickCounter tickAlone
    rw [hrivals]
    cases hstart : c.startRequested with
    | true => simp [Counter.tick_of_startRequested hstart _ (b.rivalStarts c)]
    | false => cases b.rivalStarts c <;> simp [Counter.tick_requestStop]
  rw [tick, stopAllRivals_eq, List.map_map]
  congr 1
  exact List.map_congr_left fun c _ => hcounter c

end CounterBank

end Interlock
