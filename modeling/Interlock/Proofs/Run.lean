namespace Interlock

/-- If, under an invariant, each operation either keeps a property or meets a
    known condition, the property holds all through a run exactly if no
    operation of the run meets the condition. -/
theorem foldl_throughout_iff {σ ω : Type _} (step : σ → ω → σ) {Inv P : σ → Prop}
    {Breaks : σ → ω → Prop} (hinv : ∀ {s : σ}, Inv s → ∀ op, Inv (step s op))
    (hstep : ∀ {s : σ}, Inv s → P s → ∀ op, P (step s op) ↔ ¬Breaks s op) {s : σ} (hs : Inv s)
    (hstart : P s) (ops : List ω) :
    (∀ before, before <+: ops → P (before.foldl step s)) ↔
      ∀ before op after, ops = before ++ op :: after → ¬Breaks (before.foldl step s) op := by
  induction ops generalizing s with
  | nil =>
    constructor
    · intro _ before op after hsplit
      simp at hsplit
    · intro _ before hbefore
      rw [List.prefix_nil.1 hbefore]
      exact hstart
  | cons first ops ih =>
    constructor
    · intro hholds before op after hsplit
      have hkept := hholds [first] (by simp)
      have hrest := (ih (hinv hs first) hkept).1
        fun before hbefore => hholds (first :: before) (List.cons_prefix_cons.2 ⟨rfl, hbefore⟩)
      rcases List.cons_eq_append_iff.1 hsplit with ⟨rfl, hhead⟩ | ⟨before, rfl, hops⟩
      · cases hhead
        exact (hstep hs hstart first).1 hkept
      · exact hrest before op after hops
    · intro hnone before hbefore
      have hkept := (hstep hs hstart first).2 (hnone [] first ops rfl)
      have hrest := (ih (hinv hs first) hkept).2
        fun before op after hops => hnone (first :: before) op after (by rw [hops]; rfl)
      rcases List.prefix_cons_iff.1 hbefore with rfl | ⟨before, rfl, hshorter⟩
      · exact hstart
      · exact hrest before hshorter

end Interlock
