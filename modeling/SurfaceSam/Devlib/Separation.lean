import Mathlib.Data.List.Basic
import Mathlib.Tactic.Common

/-!
# Views moved by some messages only

A system handles messages one by one. A view of its state is moved by the messages of a
class when these act on the view alone and all others leave it as it is. Over a whole list
of messages the view then depends on the messages of the class, whatever stands between
them.
-/

namespace Devlib

variable {σ μ γ : Type}

/-- `view` is moved by the messages in `p` as `move` says, and kept by all others. -/
structure MovedBy (handle : σ → μ → σ) (view : σ → γ) (p : μ → Bool) (move : γ → μ → γ) :
    Prop where
  moved : ∀ s m, p m = true → view (handle s m) = move (view s) m
  kept : ∀ s m, p m = false → view (handle s m) = view s

namespace MovedBy

variable {handle : σ → μ → σ} {view : σ → γ} {p : μ → Bool} {move : γ → μ → γ}

/-- The view of a whole run is the run of the view on the messages of the class. -/
lemma foldl (h : MovedBy handle view p move) (ms : List μ) (s : σ) :
    view (ms.foldl handle s) = (ms.filter p).foldl move (view s) := by
  induction ms generalizing s with
  | nil => rfl
  | cons m ms ih =>
    rw [List.foldl_cons, ih]
    cases hm : p m with
    | true => rw [h.moved s m hm, List.filter_cons_of_pos hm, List.foldl_cons]
    | false => rw [h.kept s m hm, List.filter_cons_of_neg (by rw [hm]; decide)]

/-- Two runs that agree on the view and on the messages of the class end with the same
view. -/
theorem separates (h : MovedBy handle view p move) {s t : σ} {ms ns : List μ}
    (hview : view s = view t) (hms : ms.filter p = ns.filter p) :
    view (ms.foldl handle s) = view (ns.foldl handle t) := by
  rw [h.foldl, h.foldl, hview, hms]

end MovedBy

end Devlib
