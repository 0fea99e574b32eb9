import Interlock.Proofs.Counter.Tick
import Mathlib.Data.List.Induction

namespace Interlock

/-- A start wins over every stop; without one, a stop and the start of a rival
    both end the count. -/
theorem Counter.running_tick (c : Counter) (held rivalStarts : Bool) :
    (c.tick held rivalStarts).running =
      (c.startRequested || (c.running && !(c.stopRequested || rivalStarts))) := by
  have hcount (c : Counter) : (c.count held).running = c.running := by
    unfold count
    split <;> rfl
  rw [tick, hcount]
  unfold settle
  cases hstart : c.startRequested with
  | true => simp
  | false => cases hstop : c.stopRequested <;> cases rivalStarts <;> simp

namespace CounterBank

/-- What may be done with a bank. -/
inductive Operation where
  | requestStart (key : Nat)
  | requestStop (key : Nat)
  | ensureRunning (key : Nat)
  | setFrozen (frozen : Bool)
  | resetKind (kind : CounterKind)
  | tick
  deriving DecidableEq

/-- The bank after an operation. -/
def perform (b : CounterBank) : Operation → CounterBank
  | .requestStart key => b.requestStart key
  | .requestStop key => b.requestStop key
  | .ensureRunning key => b.ensureRunning key
  | .setFrozen frozen => b.setFrozen frozen
  | .resetKind kind => b.resetKind kind
  | .tick => b.tick

/-- The bank after a history. -/
def performAll (b : CounterBank) (ops : List Operation) : CounterBank :=
  ops.foldl perform b

theorem performAll_concat (b : CounterBank) (ops : List Operation) (op : Operation) :
    b.performAll (ops ++ [op]) = (b.performAll ops).perform op :=
  List.foldl_append

/-- The number of counters of a group with a property. -/
def members (b : CounterBank) (group : Nat) (p : Counter → Bool) : Nat :=
  b.counters.countP fun c => c.group == some group && p c.toCounter

/-- The number of counters of a group that run. -/
def running (b : CounterBank) (group : Nat) : Nat :=
  b.members group Counter.running

/-- The number of counters of a group for which a start waits. -/
def starting (b : CounterBank) (group : Nat) : Nat :=
  b.members group Counter.startRequested

/-- A change that keeps the property of every counter keeps the number of
    members with it, wherever the changed counter stands. -/
theorem members_modify {p : Counter → Bool} {f : Counter → Counter} (hkept : ∀ c, p (f c) = p c)
    (b : CounterBank) (key group : Nat) : (b.modify key f).members group p = b.members group p := by
  unfold members modify
  dsimp only
  induction b.counters generalizing key with
  | nil => simp
  | cons c rest ih =>
    cases key with
    | zero => simp [List.countP_cons, hkept]
    | succ key => simp [List.countP_cons, ih]

theorem starting_le (b : CounterBank) (group : Nat) :
    b.starting group ≤ b.counters.countP fun c => c.startRequested := by
  refine List.countP_mono_left fun c _ hstarts => ?_
  exact (Bool.and_eq_true_iff.1 hstarts).2

/-- For a counter of a group, a rival starts when a start waits for any counter
    of the group. The counter itself may be the one: its own start wins then. -/
theorem rivalStarts_of_group {b : CounterBank} {c : BankCounter} {group : Nat}
    (hgroup : c.group = some group) : b.rivalStarts c = decide (0 < b.starting group) := by
  rw [Bool.eq_iff_iff, decide_eq_true_iff]
  simp [rivalStarts, hgroup, starting, members, List.countP_pos_iff, and_comm]

/-- After a tick that finds starts in a group, exactly the started counters of
    the group run. One start is enough, since it stops all counters that have
    none. -/
theorem running_tick_of_starting {b : CounterBank} {group : Nat} (hstarts : 0 < b.starting group) :
    b.tick.running group = b.starting group := by
  simp only [running, starting, members, tick_eq, List.countP_map]
  refine List.countP_congr fun c _ => ?_
  cases hgroup : c.group == some group with
  | false => simp [tickCounter, hgroup]
  | true =>
    have hrival := rivalStarts_of_group (b := b) (eq_of_beq hgroup)
    simp [tickCounter, hgroup, Counter.running_tick, hrival, hstarts]

/-- A tick that finds no start in a group starts none of its counters, so that
    those that run afterwards ran before. -/
theorem running_tick_le {b : CounterBank} {group : Nat} (hquiet : b.starting group = 0) :
    b.tick.running group ≤ b.running group := by
  have hnone : ∀ c ∈ b.counters, ¬(c.group == some group && c.startRequested) = true :=
    List.countP_eq_zero.1 hquiet
  simp only [running, members, tick_eq, List.countP_map]
  refine List.countP_mono_left fun c hc hruns => ?_
  have hstart := hnone c hc
  simp only [tickCounter, Function.comp_apply, Counter.running_tick, Bool.and_eq_true,
    Bool.or_eq_true] at hruns hstart ⊢
  obtain ⟨hgroup, hstarted | ⟨hrunning, _⟩⟩ := hruns
  · exact absurd ⟨hgroup, hstarted⟩ hstart
  · exact ⟨hgroup, hrunning⟩

/-- Nothing but a tick starts a counter: all other operations set requests, or
    stop the counters of a kind. -/
theorem running_perform_le (b : CounterBank) {op : Operation} (hop : op ≠ .tick) (group : Nat) :
    (b.perform op).running group ≤ b.running group := by
  cases op with
  | requestStart key =>
    exact Nat.le_of_eq (members_modify (f := Counter.requestStart) (fun _ => rfl) b key group)
  | requestStop key =>
    exact Nat.le_of_eq (members_modify (f := Counter.requestStop) (fun _ => rfl) b key group)
  | ensureRunning key =>
    refine Nat.le_of_eq (members_modify (fun c => ?_) b key group)
    unfold Counter.ensureRunning
    split <;> rfl
  | setFrozen frozen => exact Nat.le_refl _
  | resetKind kind =>
    simp only [running, members, perform, resetKind, List.countP_map]
    refine List.countP_mono_left fun c _ hruns => ?_
    simp only [Function.comp_apply] at hruns
    split at hruns
    · simp at hruns
    · exact hruns
  | tick => exact absurd rfl hop

/-- The counters of a new bank stand still. -/
theorem running_declared {specs : List (String × CounterKind × Option Nat)} {new : CounterBank}
    (hdeclare : declare? specs = some new) (group : Nat) : new.running group = 0 := by
  unfold declare? at hdeclare
  split at hdeclare
  · cases hdeclare
    simp [running, members, List.countP_map, Function.comp_def]
  · cases hdeclare

/-- As long as no tick finds two starts in one group, no group has two counters
    running. Between the ticks the number can only fall, and a tick leaves
    either the one that it starts or some of those that ran. -/
theorem running_le_one {new : CounterBank} (hnew : ∀ group, new.running group ≤ 1)
    {ops : List Operation}
    (hsingle : ∀ before, before ++ [.tick] <+: ops →
      ∀ group, (new.performAll before).starting group ≤ 1)
    (group : Nat) : (new.performAll ops).running group ≤ 1 := by
  induction ops using List.reverseRecOn with
  | nil => exact hnew group
  | append_singleton ops op ih =>
    have hbefore := ih fun before hstart => hsingle before (hstart.trans (List.prefix_append ..))
    rw [performAll_concat]
    by_cases htick : op = .tick
    · subst htick
      have hstarts := hsingle ops (List.prefix_refl _) group
      rcases Nat.eq_zero_or_pos ((new.performAll ops).starting group) with hquiet | hpos
      · exact Nat.le_trans (running_tick_le hquiet) hbefore
      · exact Nat.le_trans (Nat.le_of_eq (running_tick_of_starting hpos)) hstarts
    · exact Nat.le_trans (running_perform_le _ htick group) hbefore

/-- In a run of a new bank, each tick leaves at most one counter of every group
    running exactly if none of these ticks finds starts waiting for two counters
    of one group. The start of a counter stops the others of its group, but
    starts that wait for several of them are all carried out. -/
theorem groups_exclude_iff {specs : List (String × CounterKind × Option Nat)} {new : CounterBank}
    (hdeclare : declare? specs = some new) (ops : List Operation) :
    (∀ before, before ++ [.tick] <+: ops →
        ∀ group, (new.performAll (before ++ [.tick])).running group ≤ 1) ↔
      ∀ before, before ++ [.tick] <+: ops →
        ∀ group, (new.performAll before).starting group ≤ 1 := by
  constructor
  · intro hexclusive before hstart group
    have hafter := hexclusive before hstart group
    rw [performAll_concat] at hafter
    rcases Nat.eq_zero_or_pos ((new.performAll before).starting group) with hquiet | hpos
    · omega
    · exact running_tick_of_starting hpos ▸ hafter
  · intro hsingle before hstart
    have hnew (group : Nat) : new.running group ≤ 1 := by
      rw [running_declared hdeclare]
      exact Nat.zero_le 1
    exact running_le_one hnew fun earlier hearlier => hsingle earlier (hearlier.trans hstart)

/-- Two counters of a group that take turns. -/
theorem groups_exclude_iff_turns :
    let pair := (declare? [("fill", .guard, some 0), ("dump", .guard, some 0)]).getD default
    let turns : List Operation := [.requestStart 0, .tick, .requestStart 1, .requestStop 1]
    (pair.performAll turns).starting 0 = 1 ∧ (pair.performAll turns).running 0 = 1 ∧
      ∀ group, (pair.performAll (turns ++ [.tick])).running group ≤ 1 := by
  intro pair turns
  have hpair : declare? [("fill", .guard, some 0), ("dump", .guard, some 0)] = some pair := rfl
  refine ⟨rfl, rfl, fun group => ?_⟩
  refine (groups_exclude_iff hpair (turns ++ [.tick])).2 ?_ turns (List.prefix_refl _) group
  intro before hstart other
  refine Nat.le_trans (starting_le _ other) ?_
  obtain ⟨rest, hsplit⟩ := hstart
  have hbefore : before = [.requestStart 0] ∨ before = turns := by
    obtain ⟨later, rfl, ⟨rfl, _⟩ | ⟨rfl, _⟩⟩ := by
      simpa [turns, List.append_eq_cons_iff, List.cons_eq_append_iff] using hsplit
    · exact .inl rfl
    · exact .inr rfl
  rcases hbefore with rfl | rfl <;> decide

/-- Two counters of one group that are both started run both. -/
theorem both_members_run :
    ¬∀ (specs : List (String × CounterKind × Option Nat)) (new : CounterBank),
      declare? specs = some new → ∀ (ops : List Operation) (group : Nat),
        (new.performAll (ops ++ [.tick])).running group ≤ 1 := by
  intro hexclusive
  have hpair := hexclusive [("fill", .guard, some 0), ("dump", .guard, some 0)] _ rfl
    [.requestStart 0, .requestStart 1] 0
  exact absurd hpair (by decide)

end CounterBank

end Interlock
