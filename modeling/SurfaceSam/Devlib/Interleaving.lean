import Mathlib.Data.Int.Notation
import Mathlib.Data.List.Basic
import Mathlib.Tactic.Common

/-!
# Programs under interference

A `Prog σ α` is a sequential program of atomic steps on a shared state `σ` that ends with
an `α`. Between its steps an environment changes the state by events `ε`. A run is a list
of actions: events, steps of the program, and timeouts of a wait. Partial correctness is
by weakest preconditions; an assertion at a program point has to be stable, that is kept
by every event.
-/

namespace Devlib

variable {σ ε α β : Type}

/-- In `atomic`, the continuation gets the state before the update. A `choose` step takes a
value from outside. A `wait` goes on with `true` when it finds the state ready, and with
`false` when it runs into its timeout. -/
inductive Prog (σ α : Type) where
  | done (a : α)
  | atomic (upd : σ → σ) (k : σ → Prog σ α)
  | choose (upd : ℤ → σ → σ) (k : ℤ → Prog σ α)
  | wait (ready : σ → Bool) (upd : σ → σ) (k : Bool → Prog σ α)

/-- Actions of a run; a `choose` step takes the value of its `step` action. -/
inductive Act (ε : Type) where
  | event (e : ε)
  | step (v : ℤ)
  | timeout

namespace Prog

def bind : Prog σ α → (α → Prog σ β) → Prog σ β
  | done a, f => f a
  | atomic upd k, f => atomic upd (fun s => bind (k s) f)
  | choose upd k, f => choose upd (fun v => bind (k v) f)
  | wait ready upd k, f => wait ready upd (fun b => bind (k b) f)

instance : Monad (Prog σ) where
  pure := done
  bind := bind

def modify (upd : σ → σ) : Prog σ Unit := atomic upd (fun _ => done ())

variable (env : ε → σ → σ)

/-- One action; `none` if it is not possible. -/
def act : Prog σ α × σ → Act ε → Option (Prog σ α × σ)
  | (p, s), .event e => some (p, env e s)
  | (atomic upd k, s), .step _ => some (k s, upd s)
  | (choose upd k, s), .step v => some (k v, upd v s)
  | (wait ready upd k, s), .step _ => if ready s then some (k true, upd s) else none
  | (wait ready _ k, s), .timeout => if ready s then none else some (k false, s)
  | _, _ => none

/-- A whole run. -/
def exec : List (Act ε) → Prog σ α × σ → Option (Prog σ α × σ)
  | [], c => some c
  | a :: acts, c => (act env c a).bind (exec acts)

/-- The value and state a run ends with, if the program is done by then. -/
def run (acts : List (Act ε)) (p : Prog σ α) (s : σ) : Option (α × σ) :=
  match exec env acts (p, s) with
  | some (done a, s') => some (a, s')
  | _ => none

def events (es : List ε) (s : σ) : σ := es.foldl (fun s e => env e s) s

/-- Kept by every event. -/
def Stable (P : σ → Prop) : Prop := ∀ e s, P s → P (env e s)

/-- From `s`, every run that ends does so with a value and state in `Q`, also after further
events. -/
def wp : Prog σ α → (α → σ → Prop) → σ → Prop
  | done a, Q, s => ∀ es, Q a (events env es s)
  | atomic upd k, Q, s => ∀ es, wp (k (events env es s)) Q (upd (events env es s))
  | choose upd k, Q, s => ∀ es v, wp (k v) Q (upd v (events env es s))
  | wait ready upd k, Q, s => ∀ es,
    (ready (events env es s) = true → wp (k true) Q (upd (events env es s))) ∧
    (ready (events env es s) = false → wp (k false) Q (events env es s))

variable {env}

lemma Stable.events {P : σ → Prop} (hstable : Stable env P) (es : List ε) {s : σ} (hs : P s) :
    P (events env es s) := by
  induction es generalizing s with
  | nil => exact hs
  | cons e es ih => exact ih (hstable e s hs)

lemma Stable.and {P Q : σ → Prop} (hP : Stable env P) (hQ : Stable env Q) :
    Stable env (fun s => P s ∧ Q s) := by
  intro e s h
  exact ⟨hP e s h.1, hQ e s h.2⟩

lemma Stable.exists {ι : Sort*} {P : ι → σ → Prop} (hP : ∀ i, Stable env (P i)) :
    Stable env (fun s => ∃ i, P i s) := by
  rintro e s ⟨i, h⟩
  exact ⟨i, hP i e s h⟩

lemma Stable.const_and {P : σ → Prop} (c : Prop) (hP : Stable env P) :
    Stable env (fun s => c ∧ P s) := by
  rintro e s ⟨hc, h⟩
  exact ⟨hc, hP e s h⟩

lemma Stable.imp {P : σ → Prop} {c : Prop} (hP : c → Stable env P) :
    Stable env (fun s => c → P s) := by
  intro e s h hc
  exact hP hc e s (h hc)

lemma Stable.forall {ι : Sort*} {P : ι → σ → Prop} (hP : ∀ i, Stable env (P i)) :
    Stable env (fun s => ∀ i, P i s) := by
  intro e s h i
  exact hP i e s (h i)

/-! ### Rules -/

section Rules

variable {Q : α → σ → Prop} {s : σ}

/-- Events keep a weakest precondition. -/
lemma wp_event (p : Prog σ α) (e : ε) (h : wp env p Q s) : wp env p Q (env e s) := by
  cases p with
  | done a => exact fun es => h (e :: es)
  | atomic upd k => exact fun es => h (e :: es)
  | choose upd k => exact fun es => h (e :: es)
  | wait ready upd k => exact fun es => h (e :: es)

lemma wp_mono {p : Prog σ α} {Q' : α → σ → Prop} (hQ : ∀ a t, Q a t → Q' a t)
    (h : wp env p Q s) : wp env p Q' s := by
  induction p generalizing s with
  | done a => exact fun es => hQ a _ (h es)
  | atomic upd k ih => exact fun es => ih _ (h es)
  | choose upd k ih => exact fun es v => ih v (h es v)
  | wait ready upd k ih =>
    intro es
    exact ⟨fun hr => ih true ((h es).1 hr), fun hr => ih false ((h es).2 hr)⟩

lemma wp_bind {p : Prog σ α} {f : α → Prog σ β} {R : β → σ → Prop}
    (h : wp env p (fun a t => wp env (f a) R t) s) : wp env (p >>= f) R s := by
  change wp env (p.bind f) R s
  induction p generalizing s with
  | done a => exact h []
  | atomic upd k ih => exact fun es => ih _ (h es)
  | choose upd k ih => exact fun es v => ih v (h es v)
  | wait ready upd k ih =>
    intro es
    exact ⟨fun hr => ih true ((h es).1 hr), fun hr => ih false ((h es).2 hr)⟩

lemma wp_pure {a : α} (hstable : Stable env (Q a)) (hs : Q a s) :
    wp env (pure a : Prog σ α) Q s := fun es => hstable.events es hs

lemma wp_atomic {P : σ → Prop} {upd : σ → σ} {k : σ → Prog σ α} (hP : Stable env P) (hs : P s)
    (h : ∀ t, P t → wp env (k t) Q (upd t)) : wp env (atomic upd k) Q s :=
  fun es => h _ (hP.events es hs)

lemma wp_choose {P : σ → Prop} {upd : ℤ → σ → σ} {k : ℤ → Prog σ α} (hP : Stable env P) (hs : P s)
    (h : ∀ v t, P t → wp env (k v) Q (upd v t)) : wp env (choose upd k) Q s :=
  fun es v => h v _ (hP.events es hs)

lemma wp_wait {P : σ → Prop} {ready : σ → Bool} {upd : σ → σ} {k : Bool → Prog σ α}
    (hP : Stable env P) (hs : P s)
    (hready : ∀ t, P t → ready t = true → wp env (k true) Q (upd t))
    (htimeout : ∀ t, P t → ready t = false → wp env (k false) Q t) :
    wp env (wait ready upd k) Q s :=
  fun es => ⟨hready _ (hP.events es hs), htimeout _ (hP.events es hs)⟩

lemma wp_act {p p' : Prog σ α} {s' : σ} (a : Act ε) (h : wp env p Q s)
    (hact : act env (p, s) a = some (p', s')) : wp env p' Q s' := by
  cases a with
  | event e =>
    cases hact
    exact wp_event p e h
  | step v =>
    cases p with
    | done a => cases hact
    | atomic upd k =>
      cases hact
      exact h []
    | choose upd k =>
      cases hact
      exact h [] v
    | wait ready upd k =>
      simp only [act] at hact
      split_ifs at hact with hr
      cases hact
      exact (h []).1 hr
  | timeout =>
    cases p with
    | done a => cases hact
    | atomic upd k => cases hact
    | choose upd k => cases hact
    | wait ready upd k =>
      simp only [act] at hact
      split_ifs at hact with hr
      cases hact
      exact (h []).2 (Bool.eq_false_iff.mpr hr)

lemma run_eq_some_iff {acts : List (Act ε)} {p : Prog σ α} {a : α} {s' : σ} :
    run env acts p s = some (a, s') ↔ exec env acts (p, s) = some (.done a, s') := by
  unfold run
  split
  · rename_i a' t h
    rw [h]
    constructor
    · intro heq
      cases heq
      rfl
    · intro heq
      cases heq
      rfl
  · rename_i h
    constructor
    · intro heq
      cases heq
    · intro heq
      exact absurd heq (h a s')

lemma wp_exec {acts : List (Act ε)} {p p' : Prog σ α} {s' : σ} (h : wp env p Q s)
    (hexec : exec env acts (p, s) = some (p', s')) : wp env p' Q s' := by
  induction acts generalizing p s with
  | nil =>
    cases hexec
    exact h
  | cons b acts ih =>
    obtain ⟨c, hact, hrest⟩ := Option.bind_eq_some_iff.mp hexec
    exact ih (wp_act b h hact) hrest

/-- Weakest preconditions are sound for runs. -/
theorem run_wp {acts : List (Act ε)} {p : Prog σ α} {a : α} {s' : σ} (h : wp env p Q s)
    (hrun : run env acts p s = some (a, s')) : Q a s' :=
  wp_exec h (run_eq_some_iff.mp hrun) []

end Rules

/-! ### Invariants -/

/-- Every step of the program keeps `I`. -/
def Keeps (I : σ → Prop) : Prog σ α → Prop
  | done _ => True
  | atomic upd k => (∀ s, I s → I (upd s)) ∧ ∀ s, Keeps I (k s)
  | choose upd k => (∀ v s, I s → I (upd v s)) ∧ ∀ v, Keeps I (k v)
  | wait _ upd k => (∀ s, I s → I (upd s)) ∧ ∀ b, Keeps I (k b)

section Keeps

variable {I : σ → Prop}

lemma Keeps.bind {p : Prog σ α} {f : α → Prog σ β} (hp : p.Keeps I) (hf : ∀ a, (f a).Keeps I) :
    (p >>= f).Keeps I := by
  change (p.bind f).Keeps I
  induction p with
  | done a => exact hf a
  | atomic upd k ih => exact ⟨hp.1, fun s => ih s (hp.2 s)⟩
  | choose upd k ih => exact ⟨hp.1, fun v => ih v (hp.2 v)⟩
  | wait ready upd k ih => exact ⟨hp.1, fun b => ih b (hp.2 b)⟩

/-- What every step and every event keeps holds at the end. -/
lemma Keeps.wp {p : Prog σ α} {s : σ} (hp : p.Keeps I) (hI : Stable env I) (hs : I s) :
    wp env p (fun _ => I) s := by
  induction p generalizing s with
  | done a => exact fun es => hI.events es hs
  | atomic upd k ih => exact fun es => ih _ (hp.2 _) (hp.1 _ (hI.events es hs))
  | choose upd k ih => exact fun es v => ih v (hp.2 v) (hp.1 v _ (hI.events es hs))
  | wait ready upd k ih =>
    intro es
    have hes := hI.events es hs
    exact ⟨fun _ => ih true (hp.2 true) (hp.1 _ hes), fun _ => ih false (hp.2 false) hes⟩

end Keeps

/-! ### Values -/

/-- Every value the program can end with meets `Q`, whatever it finds in the state. -/
def Returns (Q : α → Prop) : Prog σ α → Prop
  | done a => Q a
  | atomic _ k => ∀ s, Returns Q (k s)
  | choose _ k => ∀ v, Returns Q (k v)
  | wait _ _ k => ∀ b, Returns Q (k b)

section Returns

variable {Q : α → Prop} {p : Prog σ α}

lemma returns_true : p.Returns (fun _ => True) := by
  induction p with
  | done a => trivial
  | atomic upd k ih => exact ih
  | choose upd k ih => exact ih
  | wait ready upd k ih => exact ih

lemma Returns.bind {f : α → Prog σ β} {R : β → Prop} (hp : p.Returns Q)
    (hf : ∀ a, Q a → (f a).Returns R) : (p >>= f).Returns R := by
  change (p.bind f).Returns R
  induction p with
  | done a => exact hf a hp
  | atomic upd k ih => exact fun s => ih s (hp s)
  | choose upd k ih => exact fun v => ih v (hp v)
  | wait ready upd k ih => exact fun b => ih b (hp b)

lemma Returns.wp {s : σ} (hp : p.Returns Q) : wp env p (fun a _ => Q a) s := by
  induction p generalizing s with
  | done a => exact fun _ => hp
  | atomic upd k ih => exact fun _ => ih _ (hp _)
  | choose upd k ih => exact fun _ v => ih v (hp v)
  | wait ready upd k ih => exact fun _ => ⟨fun _ => ih true (hp true), fun _ => ih false (hp false)⟩

end Returns

end Prog

end Devlib
