import Interlock.Proofs.Counter.Exclusive
import Mathlib.Logic.Equiv.Basic

namespace Interlock

/-- What a tick leaves of a counter: no request, and one second more than
    before, or than zero after a start, if it runs and is not held. -/
theorem Counter.tick_eq (c : Counter) (held rivalStarts : Bool) :
    c.tick held rivalStarts =
      let running := c.startRequested || (c.running && !(c.stopRequested || rivalStarts))
      let before := if c.startRequested then 0 else c.elapsed
      { elapsed := if running && !held then min (before + 1) greatest else before, running } := by
  obtain ⟨elapsed, running, startRequested, stopRequested⟩ := c
  cases startRequested <;> cases stopRequested <;> cases rivalStarts <;> cases running <;>
    cases held <;> rfl

/-- A counter for which a start waits takes no notice of its rivals, so two
    accounts of them need to agree only where no start waits. -/
theorem Counter.tick_congr {c : Counter} {rivalStarts rivalStarts' : Bool} (held : Bool)
    (hrivals : c.startRequested = false → rivalStarts = rivalStarts') :
    c.tick held rivalStarts = c.tick held rivalStarts' := by
  cases hstart : c.startRequested with
  | false => rw [hrivals hstart]
  | true => simp only [tick_eq, hstart, Bool.true_or]

namespace CounterBank

section Account

variable (specs : List (String × CounterKind × Option Nat))

/-- The kind that was declared for a counter. -/
def kindAt (key : Nat) : Option CounterKind :=
  (specs[key]?).map fun (_, kind, _) => kind

/-- The group that was declared for a counter. -/
def groupAt (key : Nat) : Option Nat :=
  (specs[key]?).bind fun (_, _, group) => group

/-- Whether a second counter is another one of the group of the first. -/
def rivals (key other : Nat) : Bool :=
  other != key && (groupAt specs key).isSome && groupAt specs other == groupAt specs key

/-- Whether no request for a counter waits after an operation: a tick carries
    them all out, and a reset of its kind drops them. -/
def settles (key : Nat) : Operation → Bool
  | .tick => true
  | .resetKind kind => kindAt specs key == some kind
  | _ => false

/-- What was done since the requests for a counter were last carried out or
    dropped. -/
def waiting (past : List Operation) (key : Nat) : List Operation :=
  past.takeWhile fun op => !settles specs key op

/-- Whether a start waits for a counter: one that was asked for, or one to
    ensure that it runs when it did not. A counter runs or not for as long as
    its requests wait. -/
def startWaits (past : List Operation) (running : Bool) (key : Nat) : Bool :=
  (waiting specs past key).any fun op =>
    op == .requestStart key || op == .ensureRunning key && !running

/-- Whether a stop waits for a counter. -/
def stopWaits (past : List Operation) (key : Nat) : Bool :=
  (waiting specs past key).any (· == .requestStop key)

/-- Whether a start waits for another counter of the group. -/
def rivalWaits (past : List Operation) (running : Nat → Bool) (key : Nat) : Bool :=
  (List.range specs.length).any fun other =>
    rivals specs key other && startWaits specs past (running other) other

/-- Whether a counter runs. At a tick a start of its own makes it run; without
    one, its own stop or the start of a rival stops it; otherwise it goes on as
    before. -/
def runs : List Operation → Nat → Bool
  | [], _ => false
  | .tick :: past, key =>
    if startWaits specs past (runs past key) key then true
    else if stopWaits specs past key || rivalWaits specs past (runs past) key then false
    else runs past key
  | .resetKind kind :: past, key => kindAt specs key != some kind && runs past key
  | _ :: past, key => runs past key

/-- Whether the productive counters are frozen. -/
def isFrozen : List Operation → Bool
  | [] => false
  | .setFrozen frozen :: _ => frozen
  | _ :: past => isFrozen past

/-- The ticks since the last applied start of a counter, that tick included,
    each as the history that it ends; `none` when the counter was never started
    or was reset since. -/
def sinceStart : List Operation → Nat → Option (List (List Operation))
  | [], _ => none
  | .tick :: past, key =>
    if startWaits specs past (runs specs past key) key then some [.tick :: past]
    else (sinceStart past key).map ((.tick :: past) :: ·)
  | .resetKind kind :: past, key =>
    if kindAt specs key == some kind then none else sinceStart past key
  | _ :: past, key => sinceStart past key

/-- Whether a counter counts the tick that ends a history: it runs and is not a
    frozen productive one. -/
def counts (key : Nat) (past : List Operation) : Bool :=
  runs specs past key && !(kindAt specs key == some .productive && isFrozen past)

/-- The count of a counter. -/
def elapsedAfter (past : List Operation) (key : Nat) : Nat :=
  (sinceStart specs past key).elim 0 fun ticks =>
    min Counter.greatest (ticks.countP (counts specs key))

/-- The state of a counter. -/
def counterAfter (past : List Operation) (key : Nat) : Counter where
  elapsed := elapsedAfter specs past key
  running := runs specs past key
  startRequested := startWaits specs past (runs specs past key) key
  stopRequested := stopWaits specs past key

/-- The bank that the history tells, the latest operation first. It is told
    counter by counter: which requests wait, whether the counter runs, and how
    many of the ticks since its last start counted. The account does not look at
    the places of the counters. -/
def bankAfter (past : List Operation) : CounterBank where
  counters := specs.mapIdx fun key (name, kind, group) =>
    { counterAfter specs past key with name, kind, group }
  frozen := isFrozen past

end Account

section Steps

variable {specs : List (String × CounterKind × Option Nat)} {past : List Operation} {key : Nat}

/-- Of one more operation, a start waits if it asks for one, or if one waited
    and the operation does not settle the requests. -/
theorem startWaits_cons (op : Operation) (running : Bool) :
    startWaits specs (op :: past) running key =
      (!settles specs key op && (op == .requestStart key || op == .ensureRunning key && !running ||
        startWaits specs past running key)) := by
  unfold startWaits waiting
  rw [List.takeWhile_cons]
  cases settles specs key op <;> simp

/-- Of one more operation, a stop waits if it asks for one, or if one waited and
    the operation does not settle the requests. -/
theorem stopWaits_cons (op : Operation) :
    stopWaits specs (op :: past) key =
      (!settles specs key op && (op == .requestStop key || stopWaits specs past key)) := by
  unfold stopWaits waiting
  rw [List.takeWhile_cons]
  cases settles specs key op <;> simp

theorem counterAfter_requestStart (other : Nat) :
    counterAfter specs (.requestStart other :: past) key =
      if other = key then (counterAfter specs past key).requestStart
      else counterAfter specs past key := by
  by_cases hkey : other = key <;>
    simp [counterAfter, elapsedAfter, sinceStart, runs, startWaits_cons, stopWaits_cons, settles,
      Counter.requestStart, hkey]

theorem counterAfter_requestStop (other : Nat) :
    counterAfter specs (.requestStop other :: past) key =
      if other = key then (counterAfter specs past key).requestStop
      else counterAfter specs past key := by
  by_cases hkey : other = key <;>
    simp [counterAfter, elapsedAfter, sinceStart, runs, startWaits_cons, stopWaits_cons, settles,
      Counter.requestStop, hkey]

/-- A counter that is to run gets a start only if it does not run. The account
    and the bank ask the same, since a counter runs or not for as long as its
    requests wait. -/
theorem counterAfter_ensureRunning (other : Nat) :
    counterAfter specs (.ensureRunning other :: past) key =
      if other = key then (counterAfter specs past key).ensureRunning
      else counterAfter specs past key := by
  by_cases hkey : other = key
  · cases hruns : runs specs past key <;>
      simp [counterAfter, elapsedAfter, sinceStart, runs, startWaits_cons, stopWaits_cons, settles,
        Counter.ensureRunning, Counter.requestStart, hkey, hruns]
  · simp [counterAfter, elapsedAfter, sinceStart, runs, startWaits_cons, stopWaits_cons,
      settles, hkey]

theorem counterAfter_setFrozen (frozen : Bool) :
    counterAfter specs (.setFrozen frozen :: past) key = counterAfter specs past key := by
  simp [counterAfter, elapsedAfter, sinceStart, runs, startWaits_cons, stopWaits_cons, settles]

/-- A reset takes the counters of its kind back to the beginning, with their
    requests. -/
theorem counterAfter_resetKind (kind : CounterKind) :
    counterAfter specs (.resetKind kind :: past) key =
      if kindAt specs key = some kind then {} else counterAfter specs past key := by
  have hruns : runs specs (.resetKind kind :: past) key =
      (kindAt specs key != some kind && runs specs past key) := rfl
  by_cases hkind : kindAt specs key = some kind
  · simp [counterAfter, elapsedAfter, sinceStart, hruns, startWaits_cons, stopWaits_cons, settles,
      hkind]
  · have hother : (kindAt specs key == some kind) = false := beq_false_of_ne hkind
    have hsame : runs specs (.resetKind kind :: past) key = runs specs past key := by
      simp [hruns, bne, hother]
    have hop (op : Operation) (hne : .resetKind kind ≠ op) :
        (Operation.resetKind kind == op) = false :=
      beq_false_of_ne hne
    simp [counterAfter, elapsedAfter, sinceStart, hsame, startWaits_cons, stopWaits_cons, settles,
      hother, hkind, hop]

/-- A tick starts a counter or lets it go on, in the words of the account. -/
theorem runs_tick : runs specs (.tick :: past) key =
    (startWaits specs past (runs specs past key) key || runs specs past key &&
      !(stopWaits specs past key || rivalWaits specs past (runs specs past) key)) := by
  rw [runs]
  cases startWaits specs past (runs specs past key) key <;>
    cases stopWaits specs past key || rivalWaits specs past (runs specs past) key <;>
    simp

/-- A counter without an applied start does not run: nothing else starts it, and
    a reset that drops the start stops it too. -/
theorem runs_of_sinceStart_eq_none (hnone : sinceStart specs past key = none) :
    runs specs past key = false := by
  induction past with
  | nil => rfl
  | cons op past ih =>
    cases op with
    | tick =>
      simp only [sinceStart] at hnone
      split at hnone
      · cases hnone
      · rename_i hstart
        have hrest := ih (Option.map_eq_none_iff.1 hnone)
        rw [runs_tick, Bool.eq_false_iff.2 hstart, hrest, Bool.false_and, Bool.or_false]
    | resetKind kind =>
      simp only [sinceStart] at hnone
      split at hnone
      · rename_i hkind
        simp [runs, bne, hkind]
      · simp [runs, ih hnone]
    | _ => exact ih hnone

/-- A tick counts on from zero at a start, and from the count before it
    otherwise. The greatest count is no exception, as the least of two counts
    stays the least when both go on. -/
theorem elapsedAfter_tick :
    elapsedAfter specs (.tick :: past) key =
      let before := if startWaits specs past (runs specs past key) key then 0
        else elapsedAfter specs past key
      if counts specs key (.tick :: past) then min (before + 1) Counter.greatest else before := by
  cases hstart : startWaits specs past (runs specs past key) key with
  | true =>
    cases hcounts : counts specs key (.tick :: past) <;>
      simp [elapsedAfter, sinceStart, hstart, hcounts, Nat.min_comm]
  | false =>
    cases hticks : sinceStart specs past key with
    | none =>
      have hrest : runs specs (.tick :: past) key = false := by
        rw [runs_tick, hstart, runs_of_sinceStart_eq_none hticks, Bool.false_and, Bool.or_false]
      simp [elapsedAfter, sinceStart, hstart, hticks, counts, hrest]
    | some ticks =>
      cases hcounts : counts specs key (.tick :: past)
      · simp [elapsedAfter, sinceStart, hstart, hticks, hcounts]
      · simp [elapsedAfter, sinceStart, hstart, hticks, hcounts]
        omega

/-- A stop leaves the count alone. Without a start, a stop of its own or the
    start of a rival is enough to keep the tick from counting. -/
theorem elapsedAfter_tick_of_stop
    (hstart : startWaits specs past (runs specs past key) key = false)
    (hstop : (stopWaits specs past key || rivalWaits specs past (runs specs past) key) = true) :
    elapsedAfter specs (.tick :: past) key = elapsedAfter specs past key := by
  have hrest : counts specs key (.tick :: past) = false := by
    rw [counts, runs_tick, hstart, hstop, Bool.not_true, Bool.and_false, Bool.or_false,
      Bool.false_and]
  rw [elapsedAfter_tick, hrest, hstart]
  rfl

/-- A tick does to the counter of the account what it does to one in a bank,
    with the rivals that the account knows of. -/
theorem counterAfter_tick :
    counterAfter specs (.tick :: past) key =
      (counterAfter specs past key).tick (isFrozen past && kindAt specs key == some .productive)
        (rivalWaits specs past (runs specs past) key) := by
  have hstart (running : Bool) : startWaits specs (.tick :: past) running key = false := by
    simp [startWaits_cons, settles]
  have hstop : stopWaits specs (.tick :: past) key = false := by
    simp [stopWaits_cons, settles]
  have hcounts : counts specs key (.tick :: past) = (runs specs (.tick :: past) key &&
      !(isFrozen past && kindAt specs key == some .productive)) := by
    rw [Bool.and_comm (isFrozen past)]
    rfl
  rw [Counter.tick_eq, counterAfter, elapsedAfter_tick, hstart, hstop, hcounts, runs_tick]
  rfl

end Steps

/-- Banks are the same if they are frozen alike and have the same counter at
    every place. -/
theorem ext_getElem? {b b' : CounterBank} (hfrozen : b.frozen = b'.frozen)
    (hcounters : ∀ key : Nat, b.counters[key]? = b'.counters[key]?) : b = b' := by
  obtain ⟨counters, frozen⟩ := b
  obtain ⟨counters', frozen'⟩ := b'
  cases List.ext_getElem? hcounters
  cases hfrozen
  rfl

theorem getElem?_modify (b : CounterBank) (other : Nat) (f : Counter → Counter) (key : Nat) :
    (b.modify other f).counters[key]? = (b.counters[key]?).map fun c =>
      { c with toCounter := if other = key then f c.toCounter else c.toCounter } := by
  unfold modify
  rw [List.getElem?_modify]
  by_cases hkey : other = key <;> cases b.counters[key]? <;> simp [hkey]

/-- A reset reaches the counters of one kind, wherever they are. -/
theorem getElem?_resetKind (b : CounterBank) (kind : CounterKind) (key : Nat) :
    (b.resetKind kind).counters[key]? = (b.counters[key]?).map fun c =>
      { c with toCounter := if c.kind = kind then {} else c.toCounter } := by
  unfold resetKind
  rw [List.getElem?_map]
  congr 1
  funext c
  by_cases hkind : c.kind = kind <;> simp [hkind]

theorem getElem?_tick (b : CounterBank) (key : Nat) :
    b.tick.counters[key]? = (b.counters[key]?).map b.tickCounter := by
  rw [tick_eq, List.getElem?_map]

section Account

variable {specs : List (String × CounterKind × Option Nat)}

theorem new_eq_of_declare? {new : CounterBank} (hdeclare : declare? specs = some new) :
    new = { counters := specs.map fun (name, kind, group) => { name, kind, group } } := by
  unfold declare? at hdeclare
  split at hdeclare <;> cases hdeclare
  rfl

/-- At every declared place the bank of the account has the counter of the
    account. -/
theorem getElem?_bankAfter (past : List Operation) (key : Nat) :
    (bankAfter specs past).counters[key]? = (specs[key]?).map fun (name, kind, group) =>
      { counterAfter specs past key with name, kind, group } := by
  unfold bankAfter
  rw [List.getElem?_mapIdx]

theorem isRunning_bankAfter (past : List Operation) {key : Nat} (hkey : key < specs.length) :
    (bankAfter specs past).isRunning key = runs specs past key := by
  rw [isRunning, getElem?_bankAfter, List.getElem?_eq_getElem hkey]
  rfl

theorem elapsed_bankAfter (past : List Operation) {key : Nat} (hkey : key < specs.length) :
    (bankAfter specs past).elapsed key = elapsedAfter specs past key := by
  rw [elapsed, getElem?_bankAfter, List.getElem?_eq_getElem hkey]
  rfl

/-- If one more operation changes the counter at one place in the account, it is
    that change of the bank. -/
theorem bankAfter_modify {past later : List Operation} {other : Nat} {f : Counter → Counter}
    (hfrozen : isFrozen past = isFrozen later)
    (hcounter : ∀ key, counterAfter specs later key =
      if other = key then f (counterAfter specs past key) else counterAfter specs past key) :
    (bankAfter specs past).modify other f = bankAfter specs later := by
  refine ext_getElem? hfrozen fun key => ?_
  rw [getElem?_modify, getElem?_bankAfter, getElem?_bankAfter, hcounter key, Option.map_map]
  rfl

/-- For a counter without a start of its own, the starts that wait in its group
    are those of its rivals: the start that is left out of the account is its
    own. -/
theorem rivalStarts_bankAfter {past : List Operation} {key : Nat} {name : String}
    {kind : CounterKind} {group : Option Nat} (hkey : specs[key]? = some (name, kind, group))
    (hstart : startWaits specs past (runs specs past key) key = false) (c : Counter) :
    (bankAfter specs past).rivalStarts { c with name, kind, group } =
      rivalWaits specs past (runs specs past) key := by
  have hgroup : groupAt specs key = group := by simp [groupAt, hkey]
  rw [Bool.eq_iff_iff]
  simp only [rivalStarts, rivalWaits, rivals, Bool.and_eq_true, List.any_eq_true, hgroup]
  constructor
  · rintro ⟨hsome, starter, hmem, hstarts, hsame⟩
    obtain ⟨other, hother⟩ := List.mem_iff_getElem?.1 hmem
    rw [getElem?_bankAfter] at hother
    obtain ⟨⟨name', kind', group'⟩, hspec, rfl⟩ := Option.map_eq_some_iff.1 hother
    have hlt := (List.getElem?_eq_some_iff.1 hspec).1
    refine ⟨other, List.mem_range.2 hlt, ⟨⟨?_, hsome⟩, ?_⟩, hstarts⟩
    · refine bne_iff_ne.2 fun hself => ?_
      subst hself
      exact Bool.noConfusion (hstart.symm.trans hstarts)
    · simpa [groupAt, hspec] using hsame
  · rintro ⟨other, hlt, ⟨⟨_, hsome⟩, hsame⟩, hstarts⟩
    obtain ⟨⟨name', kind', group'⟩, hspec⟩ : ∃ spec, specs[other]? = some spec :=
      ⟨_, List.getElem?_eq_getElem (List.mem_range.1 hlt)⟩
    refine
      ⟨hsome, { counterAfter specs past other with name := name', kind := kind', group := group' },
      List.mem_iff_getElem?.2 ⟨other, ?_⟩, hstarts, ?_⟩
    · rw [getElem?_bankAfter, hspec]
      rfl
    · simpa [groupAt, hspec] using hsame

/-- A tick of the bank is one more tick in the account. The rivals of a counter
    are told in two ways, which agree unless the counter starts, and then they
    do not count. -/
theorem tick_bankAfter (past : List Operation) :
    (bankAfter specs past).tick = bankAfter specs (.tick :: past) := by
  refine ext_getElem? rfl fun key => ?_
  rw [getElem?_tick, getElem?_bankAfter, getElem?_bankAfter, Option.map_map]
  refine Option.map_congr fun ⟨name, kind, group⟩ hspec => ?_
  have hkind : kindAt specs key = some kind := by simp [kindAt, hspec]
  have htick := Counter.tick_congr (c := counterAfter specs past key)
    (isFrozen past && kind == .productive) fun hstart =>
      rivalStarts_bankAfter hspec hstart (counterAfter specs past key)
  simp only [Function.comp_apply, tickCounter, counterAfter_tick, hkind]
  exact congrArg (fun c : Counter => ({ c with name, kind, group } : BankCounter)) htick

/-- Every operation of the bank is one more operation in the account. A request
    reaches the counter that it names, a reset those of its kind, and a tick all
    of them. -/
theorem perform_bankAfter (past : List Operation) (op : Operation) :
    (bankAfter specs past).perform op = bankAfter specs (op :: past) := by
  cases op with
  | requestStart other => exact bankAfter_modify rfl fun key => counterAfter_requestStart other
  | requestStop other => exact bankAfter_modify rfl fun key => counterAfter_requestStop other
  | ensureRunning other => exact bankAfter_modify rfl fun key => counterAfter_ensureRunning other
  | setFrozen frozen =>
    refine ext_getElem? rfl fun key => ?_
    rw [getElem?_bankAfter, counterAfter_setFrozen]
    exact getElem?_bankAfter past key
  | resetKind kind =>
    refine ext_getElem? rfl fun key => ?_
    rw [perform, getElem?_resetKind, getElem?_bankAfter, getElem?_bankAfter, Option.map_map]
    refine Option.map_congr fun spec hspec => ?_
    have hkind : kindAt specs key = some spec.2.1 := by simp [kindAt, hspec]
    simp only [Function.comp_apply, counterAfter_resetKind, hkind, Option.some.injEq]
  | tick => exact tick_bankAfter past

/-- The bank after a run is the one that the history of the run tells. The
    account has the latest operation first, hence the reversal. -/
theorem performAll_eq_bankAfter {new : CounterBank} (hdeclare : declare? specs = some new)
    (past : List Operation) : new.performAll past.reverse = bankAfter specs past := by
  induction past with
  | nil =>
    rw [new_eq_of_declare? hdeclare]
    refine ext_getElem? rfl fun key => ?_
    rw [getElem?_bankAfter]
    exact List.getElem?_map
  | cons op past ih => rw [List.reverse_cons, performAll_concat, ih, perform_bankAfter]

end Account

/-- The same operation when the places of the counters are renamed. -/
def Operation.rename (order : Nat → Nat) : Operation → Operation
  | .requestStart key => .requestStart (order key)
  | .requestStop key => .requestStop (order key)
  | .ensureRunning key => .ensureRunning (order key)
  | op => op

/-- Two banks with the same counters at other places. -/
structure Reordered (order : Equiv.Perm Nat) (b b' : CounterBank) : Prop where
  frozen : b'.frozen = b.frozen
  counters : ∀ key : Nat, b'.counters[order key]? = b.counters[key]?

namespace Reordered

variable {order : Equiv.Perm Nat} {b b' : CounterBank}

theorem modify (h : Reordered order b b') (key : Nat) (f : Counter → Counter) :
    Reordered order (b.modify key f) (b'.modify (order key) f) where
  frozen := h.frozen
  counters other := by
    rw [getElem?_modify, getElem?_modify, h.counters other]
    simp only [order.injective.eq_iff]

/-- A rival that starts in one bank does so in the other, at its place there. -/
theorem rivalStarts_le (h : Reordered order b b') (c : BankCounter)
    (hrival : b.rivalStarts c = true) : b'.rivalStarts c = true := by
  simp only [rivalStarts, Bool.and_eq_true, List.any_eq_true] at hrival ⊢
  obtain ⟨hsome, starter, hmem, hstarts⟩ := hrival
  obtain ⟨key, hkey⟩ := List.mem_iff_getElem?.1 hmem
  exact ⟨hsome, starter, List.mem_iff_getElem?.2 ⟨order key, (h.counters key).trans hkey⟩, hstarts⟩

theorem symm (h : Reordered order b b') : Reordered order.symm b' b where
  frozen := h.frozen.symm
  counters key := by rw [← h.counters, order.apply_symm_apply]

/-- A counter ticks alike in both banks, as the starts of its rivals are the
    same. -/
theorem tickCounter (h : Reordered order b b') (c : BankCounter) :
    b'.tickCounter c = b.tickCounter c := by
  have hrivals : b'.rivalStarts c = b.rivalStarts c :=
    Bool.eq_iff_iff.2 ⟨h.symm.rivalStarts_le c, h.rivalStarts_le c⟩
  unfold CounterBank.tickCounter
  rw [hrivals, h.frozen]

/-- An operation and the renamed one keep the banks alike. A tick may look at
    all counters of a group, but not at their order. -/
theorem perform (h : Reordered order b b') (op : Operation) :
    Reordered order (b.perform op) (b'.perform (op.rename order)) := by
  cases op with
  | requestStart key => exact h.modify key Counter.requestStart
  | requestStop key => exact h.modify key Counter.requestStop
  | ensureRunning key => exact h.modify key Counter.ensureRunning
  | setFrozen frozen => exact ⟨rfl, h.counters⟩
  | resetKind kind =>
    refine ⟨h.frozen, fun key => ?_⟩
    exact (getElem?_resetKind ..).trans (h.counters key ▸ (getElem?_resetKind ..).symm)
  | tick =>
    refine ⟨h.frozen, fun key => ?_⟩
    refine (getElem?_tick ..).trans (Eq.trans ?_ (getElem?_tick ..).symm)
    rw [h.counters key, funext h.tickCounter]

theorem performAll (h : Reordered order b b') (ops : List Operation) :
    Reordered order (b.performAll ops) (b'.performAll (ops.map (Operation.rename order))) := by
  induction ops generalizing b b' with
  | nil => exact h
  | cons op ops ih => exact ih (h.perform op)

theorem of_declare? {specs specs' : List (String × CounterKind × Option Nat)}
    {new new' : CounterBank} (hdeclare : declare? specs = some new)
    (hdeclare' : declare? specs' = some new')
    (horder : ∀ key : Nat, specs'[order key]? = specs[key]?) :
    Reordered order new new' := by
  rw [new_eq_of_declare? hdeclare, new_eq_of_declare? hdeclare']
  refine ⟨rfl, fun key => ?_⟩
  simp only [List.getElem?_map, horder key]

end Reordered

/-- In every run of a new bank, each counter obeys its own history. At a tick it
    runs if a start waits for it, stops if a stop or the start of a rival waits,
    and otherwise goes on. Its count is then the number of the ticks since its
    last applied start that it counted, up to the greatest count, and zero
    without such a start; a stop leaves the count alone. Declared at other
    places, it ends up the same: any permutation of the places will do. -/
theorem tick_by_history {specs : List (String × CounterKind × Option Nat)} {new : CounterBank}
    (hdeclare : declare? specs = some new) (ops : List Operation) {key : Nat}
    (hkey : key < specs.length) :
    let past := ops.reverse
    let before := new.performAll ops
    let after := before.tick
    let starts := startWaits specs past (runs specs past key) key
    let stops := stopWaits specs past key || rivalWaits specs past (runs specs past) key
    (before.isRunning key = runs specs past key ∧ before.frozen = isFrozen past) ∧
      after.isRunning key =
        (if starts then true else if stops then false else before.isRunning key) ∧
      (after.elapsed key = (sinceStart specs (.tick :: past) key).elim 0 fun ticks =>
        min Counter.greatest (ticks.countP (counts specs key))) ∧
      (starts = false → stops = true → after.elapsed key = before.elapsed key) ∧
      ∀ (order : Equiv.Perm Nat) (specs' : List (String × CounterKind × Option Nat))
        (new' : CounterBank), declare? specs' = some new' →
        (∀ other : Nat, specs'[order other]? = specs[other]?) →
        let after' := (new'.performAll (ops.map (Operation.rename order))).tick
        after'.isRunning (order key) = after.isRunning key ∧
          after'.elapsed (order key) = after.elapsed key := by
  intro past before after starts stops
  have hbefore : before = bankAfter specs past := by
    rw [← performAll_eq_bankAfter hdeclare past, List.reverse_reverse]
  have hafter : after = bankAfter specs (.tick :: past) :=
    (congrArg tick hbefore).trans (tick_bankAfter past)
  have hruns : before.isRunning key = runs specs past key := by
    rw [hbefore, isRunning_bankAfter past hkey]
  have helapsed : after.elapsed key = elapsedAfter specs (.tick :: past) key := by
    rw [hafter, elapsed_bankAfter _ hkey]
  refine ⟨⟨hruns, hbefore ▸ rfl⟩, ?_, helapsed, fun hstarts hstops => ?_, ?_⟩
  · rw [hafter, isRunning_bankAfter _ hkey, hruns]
    rfl
  · rw [helapsed, elapsedAfter_tick_of_stop hstarts hstops, hbefore, elapsed_bankAfter _ hkey]
  · intro order specs' new' hdeclare' horder after'
    have hsame := ((Reordered.of_declare? hdeclare hdeclare' horder).performAll ops).perform .tick
    have hcounter := hsame.counters key
    exact ⟨congrArg (·.elim false (·.running)) hcounter, congrArg (·.elim 0 (·.elapsed)) hcounter⟩

/-- A counter that its rival stops keeps its count, also when the two are
    declared the other way round, and a reset drops the start that waits for a
    counter of useful work. -/
theorem tick_by_history_rival :
    let fill := ("fill", .guard, some 0)
    let dump := ("dump", .guard, some 0)
    let hopper := ("hopper", .productive, none)
    let bank := (declare? [fill, dump, hopper]).getD default
    let turned := (declare? [dump, fill, hopper]).getD default
    let ops : List Operation :=
      [.requestStart 0, .ensureRunning 2, .tick, .setFrozen true, .tick, .requestStart 2,
        .resetKind .productive, .ensureRunning 1]
    declare? [fill, dump, hopper] = some bank ∧
      (bank.performAll ops).tick.isRunning 0 = false ∧ (bank.performAll ops).tick.elapsed 0 = 2 ∧
      (turned.performAll (ops.map (Operation.rename (Equiv.swap 0 1)))).tick.elapsed 1 = 2 ∧
      (bank.performAll ops).tick.elapsed 2 = 0 := by
  intro fill dump hopper bank turned ops
  have hbank : declare? [fill, dump, hopper] = some bank := rfl
  obtain ⟨-, hruns, helapsed, -, horder⟩ := tick_by_history hbank ops (by decide : 0 < 3)
  obtain ⟨-, -, hhopper, -⟩ := tick_by_history hbank ops (by decide : 2 < 3)
  have hturned : ∀ other : Nat,
      [dump, fill, hopper][Equiv.swap 0 1 other]? = [fill, dump, hopper][other]?
    | 0 => rfl
    | 1 => rfl
    | other + 2 => by rw [Equiv.swap_apply_of_ne_of_ne (by omega) (by omega)]; rfl
  have hcount := helapsed.trans (by decide : _ = 2)
  exact ⟨hbank, hruns.trans (by decide), hcount,
    (horder (Equiv.swap 0 1) _ turned rfl hturned).2.trans hcount, hhopper.trans (by decide)⟩

end CounterBank

end Interlock
