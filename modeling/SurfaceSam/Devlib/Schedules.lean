import SurfaceSam.Devlib.Interleaving

/-!
# Programs under a schedule

A schedule says what happens before each step of a program and which value a `choose` step
takes. A wait ends with a timeout when it does not find the state ready at its turn, so that
a program always comes to its end. The schedules give exactly the finished runs.
-/

namespace Devlib

variable {σ ε α : Type}

structure Turn (ε : Type) where
  events : List ε
  value : ℤ

abbrev Schedule (ε : Type) := ℕ → Turn ε

namespace Schedule

def rest (o : Schedule ε) : Schedule ε := fun n => o (n + 1)

def cons (t : Turn ε) (o : Schedule ε) : Schedule ε
  | 0 => t
  | n + 1 => o n

/-- One event more before the first turn. -/
def before (e : ε) (o : Schedule ε) : Schedule ε :=
  cons ⟨e :: (o 0).events, (o 0).value⟩ o.rest

end Schedule

namespace Prog

variable (env : ε → σ → σ)

/-- The value and state the program ends with. -/
def complete : Prog σ α → Schedule ε → σ → α × σ
  | done a, o, s => (a, events env (o 0).events s)
  | atomic upd k, o, s =>
    let t := events env (o 0).events s
    complete (k t) o.rest (upd t)
  | choose upd k, o, s =>
    complete (k (o 0).value) o.rest (upd (o 0).value (events env (o 0).events s))
  | wait ready upd k, o, s =>
    let t := events env (o 0).events s
    if ready t then complete (k true) o.rest (upd t) else complete (k false) o.rest t

variable {env}

lemma exec_events (es : List ε) (acts : List (Act ε)) (p : Prog σ α) (s : σ) :
    exec env (es.map Act.event ++ acts) (p, s) = exec env acts (p, events env es s) := by
  induction es generalizing s with
  | nil => rfl
  | cons e es ih => exact ih (env e s)

lemma exec_act {a : Act ε} {acts : List (Act ε)} {p p' : Prog σ α} {s s' : σ}
    (h : act env (p, s) a = some (p', s')) :
    exec env (a :: acts) (p, s) = exec env acts (p', s') := by
  change (act env (p, s) a).bind (exec env acts) = _
  rw [h, Option.bind_some]

/-- What a schedule leads to is the end of a run. -/
theorem complete_run (p : Prog σ α) (o : Schedule ε) (s : σ) :
    ∃ acts, run env acts p s = some (complete env p o s) := by
  have hrun (p : Prog σ α) (o : Schedule ε) (s : σ) : ∃ acts,
      exec env acts (p, s) = some (.done (complete env p o s).1, (complete env p o s).2) := by
    induction p generalizing o s with
    | done a =>
      refine ⟨(o 0).events.map Act.event ++ [], ?_⟩
      rw [exec_events]
      rfl
    | atomic upd k ih =>
      obtain ⟨acts, hacts⟩ := ih (events env (o 0).events s) o.rest (upd (events env (o 0).events s))
      refine ⟨(o 0).events.map Act.event ++ .step 0 :: acts, ?_⟩
      rw [exec_events, exec_act rfl]
      exact hacts
    | choose upd k ih =>
      obtain ⟨acts, hacts⟩ := ih (o 0).value o.rest
        (upd (o 0).value (events env (o 0).events s))
      refine ⟨(o 0).events.map Act.event ++ .step (o 0).value :: acts, ?_⟩
      rw [exec_events, exec_act rfl]
      exact hacts
    | wait ready upd k ih =>
      simp only [complete]
      split_ifs with hready
      · obtain ⟨acts, hacts⟩ := ih true o.rest (upd (events env (o 0).events s))
        have hact : act env (wait ready upd k, events env (o 0).events s) (.step 0) =
            some (k true, upd (events env (o 0).events s)) := if_pos hready
        refine ⟨(o 0).events.map Act.event ++ .step 0 :: acts, ?_⟩
        rw [exec_events, exec_act hact]
        exact hacts
      · obtain ⟨acts, hacts⟩ := ih false o.rest (events env (o 0).events s)
        have hact : act env (wait ready upd k, events env (o 0).events s) .timeout =
            some (k false, events env (o 0).events s) := if_neg hready
        refine ⟨(o 0).events.map Act.event ++ .timeout :: acts, ?_⟩
        rw [exec_events, exec_act hact]
        exact hacts
  obtain ⟨acts, h⟩ := hrun p o s
  exact ⟨acts, run_eq_some_iff.mpr h⟩

lemma complete_before (p : Prog σ α) (o : Schedule ε) (e : ε) (s : σ) :
    complete env p (o.before e) s = complete env p o (env e s) := by
  cases p with
  | done a => rfl
  | atomic upd k => rfl
  | choose upd k => rfl
  | wait ready upd k => rfl

/-- Every finished run is the run of a schedule. -/
theorem run_complete {acts : List (Act ε)} {p : Prog σ α} {s : σ} {r : α × σ}
    (h : run env acts p s = some r) : ∃ o, complete env p o s = r := by
  have hexec := run_eq_some_iff.mp h
  clear h
  induction acts generalizing p s with
  | nil =>
    cases hexec
    exact ⟨fun _ => ⟨[], 0⟩, rfl⟩
  | cons a acts ih =>
    obtain ⟨⟨p', s'⟩, hact, hrest⟩ := Option.bind_eq_some_iff.mp hexec
    obtain ⟨o, ho⟩ := ih hrest
    cases a with
    | event e =>
      cases hact
      exact ⟨o.before e, (complete_before p o e s).trans ho⟩
    | step v =>
      refine ⟨o.cons ⟨[], v⟩, ?_⟩
      cases p with
      | done a => cases hact
      | atomic upd k =>
        cases hact
        exact ho
      | choose upd k =>
        cases hact
        exact ho
      | wait ready upd k =>
        simp only [act] at hact
        split_ifs at hact with hready
        cases hact
        exact (if_pos hready).trans ho
    | timeout =>
      refine ⟨o.cons ⟨[], 0⟩, ?_⟩
      cases p with
      | done a => cases hact
      | atomic upd k => cases hact
      | choose upd k => cases hact
      | wait ready upd k =>
        simp only [act] at hact
        split_ifs at hact with hready
        cases hact
        exact (if_neg hready).trans ho

end Prog

end Devlib
