import Interlock.Proofs.Jet.Invariant

namespace Interlock

namespace WaterJet

open ProcessState

/-- The states in which the head cuts. -/
def cuttingStates : List ProcessState :=
  [running, watching, dumping, resuming]

/-- The states before a job that leave the head as it is. -/
def preparingStates : List ProcessState :=
  [prep, ready]

/-- The head is on only while cutting. -/
def HeadOnlyCuts (j : WaterJet) : Prop :=
  j.context.outputs.highPressurePump = true → j.state ∈ cuttingStates

/-- The operation that takes a running head out of the job. -/
def CarriesHeadOut (j : WaterJet) : Operation → Prop
  | .requestState raw => ofRaw raw ∈ preparingStates ∧ j.context.outputs.highPressurePump = true
  | _ => False

/-- The states that do not switch the head off are those of cutting, and two
    that come before a job. -/
theorem mem_of_entryHead_ne_false {state : ProcessState} (hleaves : state.entryHead ≠ some false) :
    state ∈ cuttingStates ∨ state ∈ preparingStates := by
  revert hleaves
  cases state <;> decide

theorem entryHead_of_preparing {state : ProcessState} (hpreparing : state ∈ preparingStates) :
    state.entryHead = none := by
  revert hpreparing
  cases state <;> decide

theorem not_cutting_of_preparing {state : ProcessState} (hpreparing : state ∈ preparingStates) :
    state ∉ cuttingStates := by
  revert hpreparing
  cases state <;> decide

/-- A second enters `prep` and `ready` from these two states only, so that a
    head that is on in one of them was on before it was left for the other. -/
theorem preparing_of_successor {state : ProcessState} {ctx : JobContext}
    (hpreparing : state.successor ctx ∈ preparingStates) : state ∈ preparingStates := by
  cases hraises : state.raises ctx.verdict with
  | some fault =>
    rw [successor_of_raises hraises] at hpreparing
    cases fault <;> simp [ofFault, preparingStates] at hpreparing
  | none =>
    rw [successor_of_quiet hraises] at hpreparing
    revert hpreparing
    cases state <;> cases ctx.paused <;> cases ctx.verdict.phase <;> decide

/-- A settled head is on in cutting and preparing states alone. Every other
    state is entered with the head switched off. -/
theorem Settled.mem_of_headOn {j : WaterJet} (hsettled : j.Settled) (hon : j.headOn = true) :
    j.state ∈ cuttingStates ∨ j.state ∈ preparingStates := by
  apply mem_of_entryHead_ne_false
  intro hentry
  have hoff := hsettled.head_eq false hentry
  rw [hon] at hoff
  cases hoff

/-- The head of a settled cutter only cuts unless it is on in a preparing state,
    since it is off in every state but those and the states of cutting. -/
theorem Settled.headOnlyCuts_iff {j : WaterJet} (hsettled : j.Settled) :
    j.HeadOnlyCuts ↔ ¬(j.state ∈ preparingStates ∧ j.headOn = true) := by
  constructor
  · rintro hcuts ⟨hpreparing, hon⟩
    exact not_cutting_of_preparing hpreparing (hcuts hon)
  · intro hnot hon
    exact (hsettled.mem_of_headOn hon).resolve_right fun hpreparing => hnot ⟨hpreparing, hon⟩

/-- After a request the head only cuts unless a running head was taken to a
    preparing state. -/
theorem Settled.headOnlyCuts_goto_iff {j : WaterJet} (hsettled : j.Settled)
    (target : ProcessState) :
    (j.goto target).value.HeadOnlyCuts ↔ ¬(target ∈ preparingStates ∧ j.headOn = true) := by
  rw [(hsettled.goto target).headOnlyCuts_iff, state_goto, hsettled.headOn_goto]
  refine not_congr (and_congr_right fun hpreparing => ?_)
  rw [entryHead_of_preparing hpreparing, Option.getD_none]

/-- A second keeps the head to cutting: a preparing state is entered from a
    preparing one, in which the head was off. -/
theorem Settled.headOnlyCuts_tick {j : WaterJet} (hsettled : j.Settled) (hcuts : j.HeadOnlyCuts)
    {π : Type} [Panel π] (panel : π) : (j.tick panel).value.1.HeadOnlyCuts := by
  cases hactive : j.active with
  | false => rwa [tick_of_inactive hactive]
  | true =>
    rw [(hsettled.tick panel).headOnlyCuts_iff, hsettled.headOn_tick hactive,
      hsettled.state_tick hactive]
    rintro ⟨hpreparing, hon⟩
    rw [entryHead_of_preparing hpreparing, Option.getD_none] at hon
    exact hsettled.headOnlyCuts_iff.1 hcuts ⟨preparing_of_successor hpreparing, hon⟩

theorem HeadOnlyCuts.frame {j j' : WaterJet} (hcuts : j.HeadOnlyCuts)
    (hprocess : j'.process = j.process) (houtputs : j'.context.outputs = j.context.outputs) :
    j'.HeadOnlyCuts := by
  unfold HeadOnlyCuts state at *
  rwa [hprocess, houtputs]

/-- No command asks for a preparing state. -/
theorem Settled.headOnlyCuts_command {j : WaterJet} (hsettled : j.Settled) (hcuts : j.HeadOnlyCuts)
    (code : Nat) : (j.command code).value.1.HeadOnlyCuts := by
  refine hsettled.keeps_command hcuts (fun _ hcuts => hcuts.frame rfl rfl)
    (fun hcuts => hcuts.frame rfl rfl) (fun hcuts => hcuts.frame rfl rfl) ?_ code
  intro j hsettled _ target htarget
  refine (hsettled.headOnlyCuts_goto_iff target).2 ?_
  rintro ⟨hpreparing, _⟩
  revert htarget hpreparing
  cases target <;> decide

/-- The step: every operation but a request for a preparing state keeps a
    running head to cutting, and such a request does so if the head is off. -/
theorem Settled.headOnlyCuts_perform_iff {j : WaterJet} (hsettled : j.Settled)
    (hcuts : j.HeadOnlyCuts) (op : Operation) :
    (j.perform op).value.HeadOnlyCuts ↔ ¬j.CarriesHeadOut op := by
  cases op with
  | poll pins =>
    refine iff_of_true ?_ id
    rw [perform_poll, value_poll]
    exact hcuts.frame rfl rfl
  | tick panel =>
    refine iff_of_true ?_ id
    rw [perform_tick]
    exact hsettled.headOnlyCuts_tick hcuts panel
  | drive pins => exact iff_of_true (hcuts.frame rfl rfl) id
  | command code =>
    refine iff_of_true ?_ id
    rw [perform_command]
    exact hsettled.headOnlyCuts_command hcuts code
  | requestState raw => exact hsettled.headOnlyCuts_goto_iff (.ofRaw raw)
  | resume =>
    refine iff_of_true ?_ id
    rw [perform_resume, value_resume]
    exact hcuts.frame rfl rfl

/-- Throughout a run of a new cutter the head is on in cutting states only,
    exactly if neither `prep` nor `ready` is ever requested while it is on.
    These two states leave the head as they find it. In any run, and in all
    states but these two, the head is off outside of cutting, so that all other
    ways out of a job switch it off. -/
theorem head_only_cuts_iff {ι : Type} [PinAccess ι] {s : JetSettings} {delay : Nat} {pins : ι}
    {new : WaterJet} (hbuild : (build s delay pins).value = .ok new) (ops : List Operation) :
    ((∀ before, before <+: ops →
        let j := (new.performAll before).value
        j.context.outputs.highPressurePump = true →
          j.state ∈ [running, watching, dumping, resuming]) ↔
      ∀ before raw after, ops = before ++ .requestState raw :: after →
        ofRaw raw = prep ∨ ofRaw raw = ready →
        (new.performAll before).value.context.outputs.highPressurePump = false) ∧
    let j := (new.performAll ops).value
    j.state ∉ [running, watching, dumping, resuming] → j.state ≠ prep → j.state ≠ ready →
      j.context.outputs.highPressurePump = false := by
  obtain ⟨rfl, _⟩ := build_ok hbuild
  have hsettled := settled_ofSettings s delay
  have hnew : (ofSettings s delay).HeadOnlyCuts := fun hon => nomatch hon
  refine ⟨(hsettled.throughout_iff
    (fun hsettled hcuts op => hsettled.headOnlyCuts_perform_iff hcuts op) hnew ops).trans ?_, ?_⟩
  · have hpreparing (raw : Nat) :
        ofRaw raw ∈ preparingStates ↔ ofRaw raw = prep ∨ ofRaw raw = ready := by
      simp [preparingStates]
    constructor
    · intro hnone before raw after hsplit hraw
      exact Bool.eq_false_iff.2 fun hon =>
        hnone before _ after hsplit ⟨(hpreparing raw).2 hraw, hon⟩
    · intro hoff before op after hsplit hcarries
      cases op with
      | requestState raw =>
        have hraw := hoff before raw after hsplit ((hpreparing raw).1 hcarries.1)
        exact absurd hcarries.2 (Bool.eq_false_iff.1 hraw)
      | poll pins | tick panel | drive pins | command code | resume => exact hcarries
  · intro j hnotCutting hnotPrep hnotReady
    have hsettledAfter : j.Settled := hsettled.performAll ops
    refine Bool.eq_false_iff.2 fun hon => ?_
    have hmem := (hsettledAfter.mem_of_headOn hon).resolve_left hnotCutting
    simp only [preparingStates, List.mem_cons, List.not_mem_nil, or_false] at hmem
    exact hmem.elim hnotPrep hnotReady

/-- A new cutter that is sent cutting and then to `ready`, which leaves the head
    on. -/
theorem head_carried_out_by_request :
    ¬∀ before, before <+: [.requestState 5, .requestState 4] →
      let j := ((ofSettings plainSettings 20).performAll before).value
      j.context.outputs.highPressurePump = true →
        j.state ∈ [running, watching, dumping, resuming] := by
  have hbuild : (WaterJet.build plainSettings 20 (plainPins [])).value =
      .ok (ofSettings plainSettings 20) := rfl
  intro hcuts
  have hoff := (head_only_cuts_iff hbuild _).1.1 hcuts [.requestState 5] 4 [] rfl (.inr rfl)
  exact absurd hoff (by decide)

/-- Outside of any job, in `ready`, the head of a cutter is found on. -/
theorem head_on_outside_of_job :
    ¬∀ (j : WaterJet) (past : Trace), Reached j past →
      j.context.outputs.highPressurePump = true →
        j.state ∈ [running, watching, dumping, resuming] := by
  intro hcuts
  have hmem := hcuts (plain [.requestState 5, .requestState 4]) _ (reached_plain _) (by decide)
  exact absurd hmem (by decide)

end WaterJet

end Interlock
