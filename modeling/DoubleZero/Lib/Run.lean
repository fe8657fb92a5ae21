import Mathlib.Tactic

/-!
# Runs of a labelled transition system

A run from a start state is the list of the steps taken, newest first, each with the states before
and after it. Keeping the whole history lets a property speak about what happened on the way: how
often a kind of step was taken, what was booked in total. `Run.invariant` is the rule for properties
of states, `Run.history` the rule for properties that relate the history to the state reached, and
`Run.simulate` carries a run to a more abstract system.
-/

namespace DoubleZero.Lib

variable {σ τ ℓ : Type}

/-- One step of a run. -/
structure Entry (σ ℓ : Type) where
  before : σ
  label : ℓ
  after : σ

/-- The same step seen through an abstraction of the states. -/
def Entry.map (f : σ → τ) (e : Entry σ ℓ) : Entry τ ℓ := ⟨f e.before, e.label, f e.after⟩

/-- `Run step s₀ h s`: the steps of `h`, newest first, lead from `s₀` to `s`. -/
inductive Run (step : ℓ → σ → σ → Prop) (s₀ : σ) : List (Entry σ ℓ) → σ → Prop
  | start : Run step s₀ [] s₀
  | next {h : List (Entry σ ℓ)} {s s' : σ} {l : ℓ} :
      Run step s₀ h s → step l s s' → Run step s₀ (⟨s, l, s'⟩ :: h) s'

namespace Run

variable {step : ℓ → σ → σ → Prop} {s₀ s s' : σ} {h h' : List (Entry σ ℓ)}

/-- What holds at the start and is kept by every step holds in every state reached. -/
theorem invariant {P : σ → Prop} (hrun : Run step s₀ h s) (hstart : P s₀)
    (hstep : ∀ {l s s'}, P s → step l s s' → P s') : P s := by
  induction hrun with
  | start => exact hstart
  | next _ hs ih => exact hstep ih hs

/-- The same for a relation between the history and the state. The step may use that the run so far
is one. -/
theorem history {P : List (Entry σ ℓ) → σ → Prop} (hrun : Run step s₀ h s) (hstart : P [] s₀)
    (hstep : ∀ {h s l s'}, Run step s₀ h s → P h s → step l s s' → P (⟨s, l, s'⟩ :: h) s') :
    P h s := by
  induction hrun with
  | start => exact hstart
  | next hr hs ih => exact hstep hr ih hs

/-- Runs compose. -/
theorem append (h₁ : Run step s₀ h s) (h₂ : Run step s h' s') : Run step s₀ (h' ++ h) s' := by
  induction h₂ with
  | start => exact h₁
  | next _ hs ih => exact .next ih hs

/-- Every step of a run is taken from a state the run reached before. -/
theorem of_mem {e : Entry σ ℓ} (hrun : Run step s₀ h s) (he : e ∈ h) :
    ∃ h₁, h₁ ⊆ h ∧ Run step s₀ h₁ e.before ∧ step e.label e.before e.after := by
  induction hrun with
  | start => cases he
  | next hr hs ih =>
    rcases List.mem_cons.1 he with rfl | he
    · exact ⟨_, List.subset_cons_self _ _, hr, hs⟩
    · obtain ⟨h₁, hsub, hrun₁, hs₁⟩ := ih he
      exact ⟨h₁, List.subset_cons_of_subset _ hsub, hrun₁, hs₁⟩

/-- A run of a concrete system is a run of every system it refines, as long as the concrete states
satisfy what the refinement needs. -/
theorem simulate {step' : ℓ → τ → τ → Prop} {f : σ → τ} {R : σ → Prop} (hrun : Run step s₀ h s)
    (hstart : R s₀) (hstep : ∀ {l s s'}, R s → step l s s' → R s' ∧ step' l (f s) (f s')) :
    R s ∧ Run step' (f s₀) (h.map (Entry.map f)) (f s) := by
  induction hrun with
  | start => exact ⟨hstart, .start⟩
  | next _ hs ih =>
    obtain ⟨hR, hrun'⟩ := ih
    obtain ⟨hR', hs'⟩ := hstep hR hs
    exact ⟨hR', .next hrun' hs'⟩

end Run

/-- From a state of the invariant some goal can be reached, when every state of the invariant that
is not a goal has a step that keeps the invariant and comes closer. -/
theorem exists_reach {r : σ → σ → Prop} {I Goal : σ → Prop} (distance : σ → Nat)
    (hcloser : ∀ {s}, I s → ¬Goal s → ∃ s', r s s' ∧ I s' ∧ distance s' < distance s) {s : σ}
    (hs : I s) : ∃ s', Relation.ReflTransGen r s s' ∧ Goal s' := by
  by_cases hgoal : Goal s
  · exact ⟨s, .refl, hgoal⟩
  · obtain ⟨s₁, hstep, hs₁, hlt⟩ := hcloser hs hgoal
    obtain ⟨s', hreach, hgoal'⟩ := exists_reach distance hcloser hs₁
    exact ⟨s', .head hstep hreach, hgoal'⟩
termination_by distance s

end DoubleZero.Lib
