import Interlock.Proofs.Controller.Modules

namespace Interlock

namespace Controller

/-- What the surroundings may do with a controller, in any order. Browsing
    leaves the menus at any place; no menu line is clicked that runs a machine
    command. -/
inductive Operation : Type 1 where
  | poll {ι : Type} [PinAccess ι] (pins : ι)
  | tick {σ : Type} [SwitchAccess σ] (switches : σ)
  | drive {ι : Type} [PinAccess ι] (pins : ι)
  | line (text : String)
  | requestState (raw : Nat)
  | browse (navigator : Menu.Navigator)

/-- The controller after an operation, with what it did to the outside. -/
def perform (c : Controller) : Operation → Traced Controller
  | @Operation.poll _ _ pins => c.poll pins
  | @Operation.tick _ _ switches => do
    let (c, _) ← c.tick switches
    return c
  | @Operation.drive _ _ pins => do
    let (c, _) ← c.drive pins
    return c
  | .line text => do
    let (c, _) ← c.handleLine text
    return c
  | .requestState raw => c.requestState raw
  | .browse navigator => pure { c with navigator }

section

variable {σ ι : Type} [SwitchAccess σ] [PinAccess ι] (c : Controller)

/-- A step of which only the first result counts keeps its whole trace. -/
theorem bind_fst {α β : Type} (x : Traced (α × β)) :
    (do let (a, _) ← x; return a) = (⟨x.value.1, x.trace⟩ : Traced α) :=
  congrArg (Traced.mk x.value.1) x.trace.append_empty

@[simp] theorem perform_poll (pins : ι) : c.perform (.poll pins) = c.poll pins := rfl

@[simp] theorem perform_tick (switches : σ) :
    c.perform (.tick switches) = ⟨(c.tick switches).value.1, (c.tick switches).trace⟩ :=
  bind_fst (c.tick switches)

@[simp] theorem perform_drive (pins : ι) :
    c.perform (.drive pins) = ⟨(c.drive pins).value.1, (c.drive pins).trace⟩ :=
  bind_fst (c.drive pins)

@[simp] theorem perform_line (text : String) :
    c.perform (.line text) = ⟨(c.handleLine text).value.1, (c.handleLine text).trace⟩ :=
  bind_fst (c.handleLine text)

@[simp] theorem perform_requestState (raw : Nat) :
    c.perform (.requestState raw) = c.requestState raw := rfl

@[simp] theorem perform_browse (navigator : Menu.Navigator) :
    c.perform (.browse navigator) = ⟨{ c with navigator }, {}⟩ := rfl

end

/-- The controller after a history. -/
def performAll (c : Controller) : List Operation → Traced Controller
  | [] => pure c
  | op :: ops => do
    let c ← c.perform op
    c.performAll ops

/-- A step of the controller together with all commands that were sent so far. -/
def advance (state : Controller × List String) (op : Operation) : Controller × List String :=
  ((state.1.perform op).value, state.2 ++ (state.1.perform op).trace.sent)

/-- A history is its operations one after the other, each behind what was sent
    so far. -/
theorem foldl_advance (c : Controller) (sent : List String) (ops : List Operation) :
    ops.foldl advance (c, sent) =
      ((c.performAll ops).value, sent ++ (c.performAll ops).trace.sent) := by
  induction ops generalizing c sent with
  | nil => simp [performAll]
  | cons op ops ih =>
    rw [List.foldl_cons, advance, ih]
    simp [performAll]

/-- The cutter is settled. -/
def Settled (c : Controller) : Prop :=
  ∀ jet, c.jet = some jet → jet.Settled

/-- A step keeps the controller settled if it keeps every cutter so. -/
theorem Settled.map {c c' : Controller} (hsettled : c.Settled) {f : WaterJet → WaterJet}
    (hmap : c'.jet = c.jet.map f) (hkeeps : ∀ jet : WaterJet, jet.Settled → (f jet).Settled) :
    c'.Settled := by
  intro jet hjet
  rw [hmap, Option.map_eq_some_iff] at hjet
  obtain ⟨before, hbefore, rfl⟩ := hjet
  exact hkeeps before (hsettled before hbefore)

/-- A new cutter is settled, and a controller without one is for nothing. -/
theorem settled_build {ι : Type} [PinAccess ι] (s : Settings) (pins : ι) :
    (build s pins).value.Settled := by
  intro jet hjet
  obtain rfl := jet_eq_of_build hjet
  exact WaterJet.settled_ofSettings _ _

/-- A request for a state goes to the cutter, and not to the tank. -/
theorem value_requestState (c : Controller) (raw : Nat) :
    (c.requestState raw).value.tank = c.tank ∧
      (c.requestState raw).value.jet = c.jet.map fun j => (j.requestState raw).value := by
  unfold requestState
  cases hjet : c.jet with
  | none => exact ⟨rfl, hjet⟩
  | some jet => exact ⟨rfl, rfl⟩

theorem sent_requestState (c : Controller) (raw : Nat) : (c.requestState raw).trace.sent = [] := by
  unfold requestState
  cases c.jet <;> simp [WaterJet.requestState]

/-- Every operation of the controller comes to one of the cutter, each of which
    keeps it settled. -/
theorem Settled.perform {c : Controller} (hsettled : c.Settled) (op : Operation) :
    (c.perform op).value.Settled := by
  cases op with
  | poll pins => exact hsettled.map (c.value_poll pins).2 fun _ hjet => hjet.poll pins
  | tick switches =>
    obtain ⟨_, jetPanel, _, hjet, _⟩ := c.tick_spec switches
    rw [perform_tick]
    exact hsettled.map hjet fun _ hjet => hjet.tick jetPanel
  | drive pins =>
    obtain ⟨_, ⟨jetPins, hjet⟩, _⟩ := c.drive_spec pins
    rw [perform_drive]
    exact hsettled.map hjet fun _ hjet => hjet.drive jetPins
  | line text =>
    rw [perform_line]
    unfold handleLine
    split
    · exact hsettled.map c.value_resume.2.1 fun _ hjet => hjet.resume
    · exact hsettled.map (c.value_command _).2 fun _ hjet => hjet.command _
    · exact hsettled
  | requestState raw =>
    exact hsettled.map (c.value_requestState raw).2 fun _ hjet => hjet.goto _
  | browse navigator => exact hsettled

/-- Of itself a second sends the suspend command for each water module that
    finds a fault and was not paused. -/
theorem Settled.sent_tick {σ : Type} [SwitchAccess σ] {c : Controller} (hsettled : c.Settled)
    (switches : σ) :
    (c.tick switches).trace.sent =
      (c.tank.elim [] fun tank =>
          if tank.fault?.isSome && !tank.isPaused then [suspendCommand] else []) ++
        c.jet.elim [] fun jet =>
          if jet.fault?.isSome && !jet.isPaused then [suspendCommand] else [] := by
  obtain ⟨tankPanel, jetPanel, _, _, hsent⟩ := c.tick_spec switches
  rw [hsent]
  congr 1
  · cases c.tank with
    | none => rfl
    | some tank => exact tank.sent_tick tankPanel
  · cases hjet : c.jet with
    | none => rfl
    | some jet => exact (hsettled jet hjet).sent_second jetPanel

/-- Of itself a second sends no other command than that to suspend, which each
    of the two modules sends for its own faults. -/
theorem Settled.mem_sent_tick {σ : Type} [SwitchAccess σ] {c : Controller} (hsettled : c.Settled)
    (switches : σ) : ∀ command ∈ (c.tick switches).trace.sent, command = suspendCommand := by
  have hmodule {α : Type} (module : Option α) (alarms : α → Bool) :
      ∀ command ∈ module.elim [] fun m => if alarms m then [suspendCommand] else [],
        command = suspendCommand := by
    intro command hmem
    cases module with
    | none => cases hmem
    | some m =>
      cases halarms : alarms m <;> simp [halarms] at hmem
      exact hmem
  intro command hmem
  rw [hsettled.sent_tick, List.mem_append] at hmem
  exact hmem.elim (hmodule _ _ command) (hmodule _ _ command)

end Controller

end Interlock
