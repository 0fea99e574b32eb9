import Interlock.Proofs.Alarm.Panel
import Mathlib.Data.List.Induction

namespace Interlock

namespace Escalator

/-- What may be done with an escalator. The panel is whatever it is at that
    moment. -/
inductive Operation : Type 1 where
  | tick
  | raise {π : Type} [Panel π] (fault : LevelFault) (menu : String) (panel : π)
  | allClear {π : Type} [Panel π] (panel : π)
  | resume
  | markPaused

/-- The escalator after an operation. -/
def perform (e : Escalator) : Operation → Escalator
  | .tick => e.tick
  | @Operation.raise _ _ fault menu panel => (e.raise fault menu panel).value.1
  | @Operation.allClear _ _ panel => (e.allClear panel).value.1
  | .resume => e.resume
  | .markPaused => e.markPaused

/-- The escalator after a history. -/
def performAll (e : Escalator) (ops : List Operation) : Escalator :=
  ops.foldl perform e

theorem performAll_append (e : Escalator) (first second : List Operation) :
    e.performAll (first ++ second) = (e.performAll first).performAll second :=
  List.foldl_append

/-- The seconds that an operation takes. -/
def Operation.seconds : Operation → Nat
  | tick => 1
  | _ => 0

/-- The seconds that pass in a history. -/
def secondsOf : List Operation → Nat
  | [] => 0
  | op :: ops => op.seconds + secondsOf ops

theorem secondsOf_append (first second : List Operation) :
    secondsOf (first ++ second) = secondsOf first + secondsOf second := by
  induction first with
  | nil => simp [secondsOf]
  | cons op ops ih => rw [List.cons_append, secondsOf, ih, secondsOf, Nat.add_assoc]

/-- The operation takes note of an evaluation without a fault. -/
def Operation.IsClear : Operation → Prop
  | @allClear _ _ _ => True
  | _ => False

/-- The operation raises an overfull tank whose menu is not on the panel. -/
def RaisesOverfull (e : Escalator) : Operation → Prop
  | @Operation.raise _ _ fault menu panel => fault = .levelTooHigh ∧ e.onScreen menu panel = false
  | _ => False

/-- The fault whose menu an operation shows on the panel, if it shows one. -/
def shown? (e : Escalator) : Operation → Option LevelFault
  | @Operation.raise _ _ fault menu panel =>
    if .showMenu menu ∈ (e.raise fault menu panel).trace.panel then some fault else none
  | _ => none

/-- Raising a fault shows its menu as the escalator says. -/
theorem shown?_raise {π : Type} [Panel π] (e : Escalator) (fault : LevelFault) (menu : String)
    (panel : π) :
    e.shown? (.raise fault menu panel) =
      if e.displays fault menu panel then some fault else none := by
  obtain ⟨_, _, hcalls, _⟩ := e.raise_display fault menu panel
  simp only [shown?, hcalls, lighting]
  cases e.displays fault menu panel <;> split <;> simp

/-- With the menu of a fault the time since a menu was shown starts over, and
    the fault is noted. That a menu was shown is enough: only a raised fault
    shows one. -/
theorem perform_of_shown {e : Escalator} {op : Operation} {fault : LevelFault}
    (hshown : e.shown? op = some fault) :
    (e.perform op).sinceShown = some 0 ∧ (e.perform op).lastShown = some fault := by
  cases op with
  | raise raised menu panel =>
    rw [shown?_raise] at hshown
    split at hshown
    · rename_i hdisplays
      cases hshown
      simp [perform, (e.raise_display fault menu panel).2.1, hdisplays]
    · cases hshown
  | _ => cases hshown

/-- Without a menu only a clean evaluation changes the note of the last one. A
    fault that is raised in silence leaves no note, so the operation need not be
    known. -/
theorem lastShown_of_silent {e : Escalator} {op : Operation} (hsilent : e.shown? op = none)
    (hkeeps : ¬op.IsClear) : (e.perform op).lastShown = e.lastShown := by
  cases op with
  | raise fault menu panel =>
    rw [shown?_raise] at hsilent
    have hquiet : e.displays fault menu panel = false := by
      by_contra hdisplays
      simp [hdisplays] at hsilent
    simp [perform, (e.raise_display fault menu panel).2.1, hquiet]
  | allClear panel => exact absurd trivial hkeeps
  | _ => rfl

/-- A clean evaluation makes the escalator forget which menu it showed, and with
    it that the tank was overfull before. -/
theorem lastShown_of_clear {e : Escalator} {op : Operation} (hclear : op.IsClear) :
    (e.perform op).lastShown = none := by
  cases op with
  | allClear panel => simp [perform, (e.allClear_indicator panel).1]
  | _ => exact absurd hclear id

@[simp] theorem delay_perform (e : Escalator) (op : Operation) :
    (e.perform op).delay = e.delay := by
  cases op with
  | raise fault menu panel => simp [perform, (e.raise_display fault menu panel).2.1]
  | allClear panel => simp [perform, (e.allClear_indicator panel).1]
  | _ => rfl

/-- The time since a menu was shown grows with the seconds, if at all. It is a
    bound and no equation, since a menu that is shown starts the time over. -/
theorem sinceShown_perform {e : Escalator} {s : Nat} (hsince : e.sinceShown = some s)
    (op : Operation) : ∃ t ≤ s + op.seconds, (e.perform op).sinceShown = some t := by
  cases op with
  | tick => exact ⟨min (s + 1) greatest, Nat.min_le_left .., by simp [perform, tick, hsince]⟩
  | raise fault menu panel =>
    rw [perform, (e.raise_display fault menu panel).2.1]
    dsimp only
    split
    · exact ⟨0, Nat.zero_le _, rfl⟩
    · exact ⟨s, Nat.le_refl _, hsince⟩
  | allClear panel => exact ⟨s, Nat.le_refl _, by simpa [perform, (e.allClear_indicator panel).1]⟩
  | resume => exact ⟨s, Nat.le_refl _, hsince⟩
  | markPaused => exact ⟨s, Nat.le_refl _, hsince⟩

/-- Within the delay only an overfull tank is shown, and only after another
    fault or a clean evaluation. The delay has not passed, which leaves the
    second clause of `mayShow`. -/
theorem overfull_of_shown {e : Escalator} {s : Nat} (hsince : e.sinceShown = some s)
    (hwithin : s ≤ e.delay) {op : Operation} {fault : LevelFault}
    (hshown : e.shown? op = some fault) :
    fault = .levelTooHigh ∧ e.lastShown ≠ some .levelTooHigh ∧ e.RaisesOverfull op := by
  cases op with
  | raise raised menu panel =>
    rw [shown?_raise] at hshown
    split at hshown
    · rename_i hdisplays
      cases hshown
      simp only [displays, Bool.and_eq_true, Bool.not_eq_true', mayShow, hsince, Option.elim_some,
        decide_eq_false (Nat.not_lt.2 hwithin), Bool.false_or, beq_iff_eq, bne_iff_ne] at hdisplays
      exact ⟨hdisplays.2.1, hdisplays.2.2, hdisplays.2.1, hdisplays.1⟩
    · cases hshown
  | _ => cases hshown

/-- The menu of an overfull tank is withheld only if it was the last that was
    shown. Off the panel nothing else stands against it, neither the delay nor
    the menu of another fault. -/
theorem lastShown_of_raisesOverfull {e : Escalator} {op : Operation}
    (hraises : e.RaisesOverfull op) (hsilent : e.shown? op = none) :
    e.lastShown = some .levelTooHigh := by
  cases op with
  | raise fault menu panel =>
    obtain ⟨rfl, hoff⟩ := hraises
    rw [shown?_raise] at hsilent
    simp only [ite_eq_right_iff, reduceCtorEq, imp_false, Bool.not_eq_true, displays, hoff,
      Bool.not_false, Bool.true_and, mayShow, Bool.or_eq_false_iff, beq_self_eq_true,
      bne_eq_false_iff_eq] at hsilent
    exact hsilent.2
  | _ => exact absurd hraises id

@[simp] theorem delay_performAll (e : Escalator) (ops : List Operation) :
    (e.performAll ops).delay = e.delay := by
  induction ops generalizing e with
  | nil => rfl
  | cons op ops ih => exact (ih (e.perform op)).trans (delay_perform e op)

/-- Over a history the time since a menu was shown grows at most by its seconds:
    each second adds one, and a menu that is shown in between starts the time
    over. -/
theorem sinceShown_performAll {e : Escalator} {s : Nat} (hsince : e.sinceShown = some s)
    (ops : List Operation) :
    ∃ t ≤ s + secondsOf ops, (e.performAll ops).sinceShown = some t := by
  induction ops generalizing e s with
  | nil => exact ⟨s, Nat.le_refl _, hsince⟩
  | cons op ops ih =>
    obtain ⟨t, hle, hafter⟩ := sinceShown_perform hsince op
    obtain ⟨u, hlater, hend⟩ := ih hafter
    refine ⟨u, ?_, hend⟩
    rw [secondsOf]
    omega

/-- Within the delay of a menu for an overfull tank, the note of it outlasts a
    history without a clean evaluation: in that time no other fault is shown,
    and the tank itself not again. -/
theorem lastShown_performAll {e : Escalator} {s : Nat} (hsince : e.sinceShown = some s)
    (hlast : e.lastShown = some .levelTooHigh) {ops : List Operation}
    (hwithin : s + secondsOf ops ≤ e.delay) (hnone : ∀ op ∈ ops, ¬op.IsClear) :
    (e.performAll ops).lastShown = some .levelTooHigh := by
  induction ops generalizing e s with
  | nil => exact hlast
  | cons op ops ih =>
    rw [secondsOf] at hwithin
    obtain ⟨t, hle, hafter⟩ := sinceShown_perform hsince op
    refine ih hafter ?_ ?_ fun later hmem => hnone later (List.mem_cons_of_mem _ hmem)
    · cases hshown : e.shown? op with
      | none => exact (lastShown_of_silent hshown (hnone op List.mem_cons_self)).trans hlast
      | some fault =>
        obtain ⟨_, hother, _⟩ := overfull_of_shown hsince (by omega) hshown
        exact absurd hlast hother
    · rw [delay_perform]
      omega

/-- The note of a menu comes from a menu that was shown. The history is followed
    to the last operation that left the note; before the history the note was
    another. -/
theorem shown_of_lastShown {e : Escalator} {fault : LevelFault} (ops : List Operation)
    (hlast : (e.performAll ops).lastShown = some fault) (hother : e.lastShown ≠ some fault) :
    ∃ before op after, ops = before ++ op :: after ∧
      (e.performAll before).shown? op = some fault := by
  induction ops generalizing e with
  | nil => exact absurd hlast hother
  | cons op ops ih =>
    cases hshown : e.shown? op with
    | some shown =>
      by_cases hsame : shown = fault
      · exact ⟨[], op, ops, rfl, hsame ▸ hshown⟩
      · have hnoted := (perform_of_shown hshown).2
        obtain ⟨before, later, after, rfl, hlater⟩ := ih hlast (by simpa [hnoted] using hsame)
        exact ⟨op :: before, later, after, rfl, hlater⟩
    | none =>
      have hstill : (e.perform op).lastShown ≠ some fault := by
        by_cases hclear : op.IsClear
        · simp [lastShown_of_clear hclear]
        · rwa [lastShown_of_silent hshown hclear]
      obtain ⟨before, later, after, rfl, hlater⟩ := ih hlast hstill
      exact ⟨op :: before, later, after, rfl, hlater⟩

/-- In a history, the menus of two faults are shown with at most the delay
    between them only as an overfull tank pushes the menu of another fault
    aside, exactly if within the delay of its own menu no overfull tank is
    raised again, off the panel, after a clean evaluation. Such an evaluation
    makes the escalator forget which menu it showed; nothing else breaks the
    limit. -/
theorem menus_limited_iff (e : Escalator) (ops : List Operation) :
    (∀ before first between second after, ops = before ++ first :: (between ++ second :: after) →
        ∀ earlier later, (e.performAll before).shown? first = some earlier →
          (e.performAll (before ++ first :: between)).shown? second = some later →
            secondsOf between ≤ e.delay → later = .levelTooHigh ∧ earlier ≠ .levelTooHigh) ↔
      ∀ before first between second after, ops = before ++ first :: (between ++ second :: after) →
        (e.performAll before).shown? first = some .levelTooHigh →
          (e.performAll (before ++ first :: between)).RaisesOverfull second →
            secondsOf between ≤ e.delay → ∀ op ∈ between, ¬op.IsClear := by
  have hsplit (before between : List Operation) (first : Operation) :
      e.performAll (before ++ first :: between) =
        ((e.performAll before).perform first).performAll between := performAll_append ..
  constructor
  · intro hlimited before first between second after hops hfirst hraises hwithin op hmem hclear
    obtain ⟨quiet, rest, rfl⟩ := List.append_of_mem hmem
    cases hsecond : (e.performAll (before ++ first :: (quiet ++ op :: rest))).shown? second with
    | some later =>
      exact (hlimited before first _ second after hops _ later hfirst hsecond hwithin).2 rfl
    | none =>
      -- The menu was shown again before, behind the clean evaluation.
      have hlast := lastShown_of_raisesOverfull hraises hsecond
      rw [hsplit, performAll_append] at hlast
      obtain ⟨again, shows, later, rfl, hagain⟩ := shown_of_lastShown rest hlast
        (by rw [lastShown_of_clear hclear]; simp)
      have hends : e.performAll (before ++ first :: (quiet ++ op :: again)) =
          ((((e.performAll before).perform first).performAll
            quiet).perform op).performAll again := by
        rw [hsplit, performAll_append]
        rfl
      rw [← hends] at hagain
      refine (hlimited before first (quiet ++ op :: again) shows (later ++ second :: after) ?_ _ _
        hfirst hagain ?_).2 rfl
      · simp [hops]
      · refine Nat.le_trans ?_ hwithin
        rw [secondsOf_append, secondsOf_append, secondsOf, secondsOf, secondsOf_append]
        omega
  · intro hnone before first between second after hops earlier later hfirst hsecond hwithin
    obtain ⟨hsince, hlast⟩ := perform_of_shown hfirst
    obtain ⟨t, hle, hafter⟩ := sinceShown_performAll hsince between
    rw [← hsplit] at hafter
    obtain ⟨rfl, hother, hraises⟩ := overfull_of_shown hafter (by simp; omega) hsecond
    refine ⟨rfl, ?_⟩
    rintro rfl
    have hclean := hnone before first between second after hops hfirst hraises hwithin
    rw [hsplit] at hother
    exact hother (lastShown_performAll hsince hlast (by simp; omega) hclean)

/-- A float that flutters: an overfull tank that clears for a moment has its
    menu shown twice at once. -/
theorem flapping_menu_shown_twice :
    ¬∀ (e : Escalator) (before between : List Operation) (first second : Operation)
        (earlier later : LevelFault), (e.performAll before).shown? first = some earlier →
      (e.performAll (before ++ first :: between)).shown? second = some later →
        secondsOf between ≤ e.delay → later = .levelTooHigh ∧ earlier ≠ .levelTooHigh := by
  intro hlimited
  let overfull : Operation := .raise .levelTooHigh "/sd/menu/high" ({} : StubPanel)
  have htwice := hlimited { owner := "cutting_water_tank", delay := 20 } []
    [.allClear ({} : StubPanel)] overfull overfull .levelTooHigh .levelTooHigh
    (by decide) (by decide) (by decide)
  exact htwice.2 rfl

end Escalator

end Interlock
