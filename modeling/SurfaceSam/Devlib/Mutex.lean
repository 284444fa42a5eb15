import Mathlib.Tactic.Common

/-!
# Mutexes

A mutex is the party that holds it. `Owned lock holds` says that exactly this party is in a
section that the mutex guards. It is kept by the moves of a party: it stays inside or
outside, takes the free mutex as it enters, or gives it back as it leaves.
-/

namespace Devlib.Mutex

variable {π : Type} {lock lock' : Option π} {holds holds' : π → Bool} {p q : π}

def Owned (lock : Option π) (holds : π → Bool) : Prop :=
  ∀ p, holds p = true ↔ lock = some p

/-- The mutex, and whether `p` is in its section, before and after a step of `p`. -/
inductive Move (p : π) : Option π → Bool → Option π → Bool → Prop
  | keep (lock : Option π) (inside : Bool) : Move p lock inside lock inside
  | acquire : Move p none false (some p) true
  | release (lock : Option π) : Move p lock true none false

lemma Owned.unique (h : Owned lock holds) (hp : holds p = true) (hq : holds q = true) : p = q := by
  have hlock := (h p).mp hp
  rw [(h q).mp hq] at hlock
  exact (Option.some.inj hlock).symm

/-- Two parties are never inside at once. -/
lemma Owned.not_holds (h : Owned lock holds) (hp : holds p = true) (hne : q ≠ p) :
    holds q = false := by
  cases hq : holds q with
  | false => rfl
  | true => exact absurd (h.unique hq hp) hne

lemma Owned.congr (h : Owned lock holds) (heq : ∀ q, holds' q = holds q) :
    Owned lock holds' := by
  intro q
  rw [heq]
  exact h q

lemma Owned.move (h : Owned lock holds) (hm : Move p lock (holds p) lock' (holds' p))
    (hother : ∀ q, q ≠ p → holds' q = holds q) : Owned lock' holds' := by
  intro q
  generalize hb : holds p = b at hm
  generalize hb' : holds' p = b' at hm
  by_cases hq : q = p
  · subst hq
    rw [hb']
    cases hm with
    | keep =>
      rw [← hb]
      exact h q
    | acquire => exact iff_of_true rfl rfl
    | release => exact iff_of_false nofun nofun
  · rw [hother q hq]
    cases hm with
    | keep => exact h q
    | acquire =>
      rw [h q]
      exact iff_of_false nofun fun h => hq (Option.some.inj h).symm
    | release =>
      rw [h.not_holds hb hq]
      exact iff_of_false nofun nofun

end Devlib.Mutex
