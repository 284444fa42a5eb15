import SurfaceSam.Devlib.Machine

/-!
# Simulations

One machine simulates another if each of its actions shows some actions of the other, none
where it makes a step of its own, and these are possible there and lead to related states.
What a run shows is in the order of its actions, so that what is over before something else
begins is before it in the run of the other machine too.
-/

namespace Devlib.Machine

variable {σ τ α β : Type}

/-- What the actions of a run show. -/
def shown (step : Machine σ α) (label : σ → α → List β) : σ → List α → List β
  | _, [] => []
  | s, a :: as => label s a ++ match step s a with
    | none => []
    | some t => shown step label t as

/-- Each step is simulated by what it shows, as long as an invariant holds. -/
def Simulates (step : Machine σ α) (spec : Machine τ β) (label : σ → α → List β)
    (I : σ → Prop) (R : σ → τ → Prop) : Prop :=
  ∀ s a t u, I s → R s u → step s a = some t → I t ∧ ∃ v, run spec u (label s a) = some v ∧ R t v

variable {step : Machine σ α} {spec : Machine τ β} {label : σ → α → List β} {I : σ → Prop}
  {R : σ → τ → Prop} {s t : σ} {u : τ} {as : List α}

lemma shown_cons {a : α} (h : step s a = some t) :
    shown step label s (a :: as) = label s a ++ shown step label t as := by
  rw [shown, h]

/-- What is simulated step by step is simulated as a run. -/
theorem Simulates.run (h : Simulates step spec label I R) (hI : I s) (hR : R s u)
    (hrun : run step s as = some t) :
    I t ∧ ∃ v, Machine.run spec u (shown step label s as) = some v ∧ R t v := by
  induction as generalizing s u with
  | nil =>
    cases hrun
    exact ⟨hI, u, rfl, hR⟩
  | cons a as ih =>
    obtain ⟨s', hstep, hrest⟩ := Option.bind_eq_some_iff.mp hrun
    obtain ⟨hI', u', hu', hR'⟩ := h s a s' u hI hR hstep
    obtain ⟨hIt, v, hv, hRv⟩ := ih hI' hR' hrest
    refine ⟨hIt, v, ?_, hRv⟩
    rw [shown_cons hstep, run_append, hu']
    exact hv

end Devlib.Machine
