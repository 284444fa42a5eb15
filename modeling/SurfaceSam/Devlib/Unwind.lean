import Mathlib.Data.Int.Notation
import Mathlib.Data.List.Basic
import Mathlib.Logic.Function.Basic
import Mathlib.Tactic.Common

/-!
# Setups that are undone

A setup is a list of calls. When one of them fails, the calls that undo those before it are made,
the last first; when none fails, a teardown does that later. `Holdings` says what a call demands,
acquires and gives back, and what has to be held as long as something else is. A script that
passes the check keeps to this wherever its calls fail, and holds nothing when it is over. Several
threads do so beside each other, as what they hold belongs to one of them.
-/

namespace Devlib

variable {ι γ τ : Type}

/-- A call of a setup, with what its failure is reported as and the calls that undo it. -/
structure SetupCall (γ : Type) where
  call : γ
  error : ℤ → ℤ
  undo : List γ

structure Script (γ : Type) where
  setup : List (SetupCall γ)
  teardown : List γ

/-- Where a thread is in a script: `undo` undoes what has been set up so far. -/
inductive Place (γ : Type) where
  | idle (status : ℤ)
  | setup (next : SetupCall γ) (todo : List (SetupCall γ)) (undo : List γ)
  | cleanup (status : ℤ) (next : γ) (todo : List γ)
  | done

namespace Place

def ofSetup : List (SetupCall γ) → List γ → Place γ
  | [], _ => .done
  | c :: todo, undo => .setup c todo undo

def ofCleanup (status : ℤ) : List γ → Place γ
  | [] => .idle status
  | c :: todo => .cleanup status c todo

/-- The call that is made next. -/
def next : Place γ → Option γ
  | .idle _ => none
  | .setup c _ _ => some c.call
  | .cleanup _ c _ => some c
  | .done => none

/-- The place after that call has returned `v`. -/
def after (v : ℤ) : Place γ → Place γ
  | .idle status => .idle status
  | .setup c todo undo =>
    if v ≠ 0 then ofCleanup (c.error v) undo else ofSetup todo (c.undo ++ undo)
  | .cleanup status _ todo => ofCleanup status todo
  | .done => .done

def isIdle : Place γ → Bool
  | .idle _ => true
  | _ => false

def isDone : Place γ → Bool
  | .done => true
  | _ => false

/-- The place after some calls have been made, if these are the calls it makes. -/
def follow [DecidableEq γ] : Place γ → List (γ × ℤ) → Option (Place γ)
  | p, [] => some p
  | p, (c, v) :: calls => if p.next = some c then follow (p.after v) calls else none

lemma isIdle_iff {p : Place γ} : p.isIdle = true ↔ ∃ status, p = .idle status := by
  cases p with
  | idle status => exact ⟨fun _ => ⟨status, rfl⟩, fun _ => rfl⟩
  | setup _ _ _ => simp [isIdle]
  | cleanup _ _ _ => simp [isIdle]
  | done => simp [isIdle]

lemma isDone_iff {p : Place γ} : p.isDone = true ↔ p = .done := by
  cases p with
  | idle _ => simp [isDone]
  | setup _ _ _ => simp [isDone]
  | cleanup _ _ _ => simp [isDone]
  | done => exact ⟨fun _ => rfl, fun _ => rfl⟩

end Place

/-- What has to be held when a call is made and what must not, what the call acquires and what it
gives back; whose the things held are, and what is needed as long as one is held. -/
structure Holdings (ι γ τ : Type) where
  owner : τ → ι
  demands : γ → List τ
  excludes : γ → List τ
  gives : γ → List τ
  takes : γ → List τ
  needs : τ → List τ

namespace Holdings

variable [DecidableEq τ] (H : Holdings ι γ τ) (i : ι)

/-- What is left after a call that gives something back. -/
def left (held : List τ) (c : γ) : List τ := held.filter fun t => t ∉ H.takes c

/-- A call of a setup of thread `i`. -/
def MayGive (held : List τ) (c : γ) : Prop :=
  H.takes c = [] ∧ (∀ t ∈ H.demands c, t ∈ held) ∧
    (∀ t ∈ H.gives c ++ H.excludes c, H.owner t = i ∧ t ∉ held) ∧
      ∀ t ∈ H.gives c, ∀ u ∈ H.needs t, u ∈ H.gives c ++ held

/-- A call of thread `i` that undoes something. -/
def MayTake (held : List τ) (c : γ) : Prop :=
  H.gives c = [] ∧ H.excludes c = [] ∧ (∀ t ∈ H.demands c, t ∈ held) ∧
    (∀ t ∈ H.takes c, H.owner t = i) ∧ ∀ t ∈ H.left held c, ∀ u ∈ H.needs t, u ∉ H.takes c

/-- The calls give back all that is held. -/
def Cleans : List τ → List γ → Prop
  | held, [] => held = []
  | held, c :: todo => H.MayTake i held c ∧ Cleans (H.left held c) todo

/-- Wherever the rest of the setup fails, and if it does not, all that is held is given back. -/
def Checked (teardown : List γ) : List τ → List γ → List (SetupCall γ) → Prop
  | held, _, [] => H.Cleans i held teardown
  | held, undo, c :: todo => H.Cleans i held undo ∧ H.MayGive i held c.call ∧
    Checked teardown (H.gives c.call ++ held) (c.undo ++ undo) todo

def Sound (s : Script γ) : Prop := H.Checked i s.teardown [] [] s.setup

section Decidable

variable [DecidableEq ι]

instance decidableMayGive (held : List τ) (c : γ) : Decidable (H.MayGive i held c) :=
  inferInstanceAs (Decidable (H.takes c = [] ∧ (∀ t ∈ H.demands c, t ∈ held) ∧
    (∀ t ∈ H.gives c ++ H.excludes c, H.owner t = i ∧ t ∉ held) ∧
      ∀ t ∈ H.gives c, ∀ u ∈ H.needs t, u ∈ H.gives c ++ held))

instance decidableMayTake (held : List τ) (c : γ) : Decidable (H.MayTake i held c) :=
  inferInstanceAs (Decidable (H.gives c = [] ∧ H.excludes c = [] ∧ (∀ t ∈ H.demands c, t ∈ held) ∧
    (∀ t ∈ H.takes c, H.owner t = i) ∧ ∀ t ∈ H.left held c, ∀ u ∈ H.needs t, u ∉ H.takes c))

instance decidableCleans : (held : List τ) → (calls : List γ) → Decidable (H.Cleans i held calls)
  | held, [] => inferInstanceAs (Decidable (held = []))
  | held, c :: todo =>
    have := decidableCleans (H.left held c) todo
    inferInstanceAs (Decidable (H.MayTake i held c ∧ H.Cleans i (H.left held c) todo))

instance decidableChecked (teardown : List γ) :
    (held : List τ) → (undo : List γ) → (todo : List (SetupCall γ)) →
      Decidable (H.Checked i teardown held undo todo)
  | held, _, [] => inferInstanceAs (Decidable (H.Cleans i held teardown))
  | held, undo, c :: todo =>
    have := decidableChecked teardown (H.gives c.call ++ held) (c.undo ++ undo) todo
    inferInstanceAs (Decidable (H.Cleans i held undo ∧ H.MayGive i held c.call ∧
      H.Checked i teardown (H.gives c.call ++ held) (c.undo ++ undo) todo))

instance decidableSound (s : Script γ) : Decidable (H.Sound i s) :=
  inferInstanceAs (Decidable (H.Checked i s.teardown [] [] s.setup))

end Decidable

/-- With everything, what it needs is held. -/
def Closed (held : List τ) : Prop := ∀ t ∈ held, ∀ u ∈ H.needs t, u ∈ held

/-- What a thread holds fits to where it is. -/
def Fits (s : Script γ) : Place γ → List τ → Prop
  | .idle _, held => held = []
  | .setup c todo undo, held => H.Checked i s.teardown held undo (c :: todo)
  | .cleanup _ c todo, held => H.Cleans i held (c :: todo)
  | .done, held => H.Cleans i held s.teardown

/-- What is held after the next call has returned `v`. -/
def after (v : ℤ) : Place γ → List τ → List τ
  | .idle _, held => held
  | .setup c _ _, held => if v ≠ 0 then held else H.gives c.call ++ held
  | .cleanup _ c _, held => H.left held c
  | .done, held => held

variable {H i} {s : Script γ} {p : Place γ} {held : List τ} {c : γ} {v : ℤ}

lemma mem_left {t : τ} : t ∈ H.left held c ↔ t ∈ held ∧ t ∉ H.takes c := by
  rw [left, List.mem_filter, decide_eq_true_iff]

lemma fits_ofSetup {todo : List (SetupCall γ)} {undo : List γ}
    (h : H.Checked i s.teardown held undo todo) : H.Fits i s (.ofSetup todo undo) held := by
  cases todo with
  | nil => exact h
  | cons c todo => exact h

lemma fits_ofCleanup {todo : List γ} (status : ℤ) (h : H.Cleans i held todo) :
    H.Fits i s (.ofCleanup status todo) held := by
  cases todo with
  | nil => exact h
  | cons c todo => exact h

/-- The check is kept by every call, whatever it returns. -/
lemma Fits.after (h : H.Fits i s p held) (v : ℤ) : H.Fits i s (p.after v) (H.after v p held) := by
  cases p with
  | idle status => exact h
  | setup c todo undo =>
    obtain ⟨hcleans, -, hrest⟩ := h
    unfold Place.after Holdings.after
    split_ifs with hv
    · exact fits_ofCleanup _ hcleans
    · exact fits_ofSetup hrest
  | cleanup status c todo => exact fits_ofCleanup _ h.2
  | done => exact h

lemma Fits.closed_after (h : H.Fits i s p held) (hclosed : H.Closed held) (v : ℤ) :
    H.Closed (H.after v p held) := by
  cases p with
  | idle status => exact hclosed
  | setup c todo undo =>
    obtain ⟨-, ⟨-, -, -, hneeds⟩, -⟩ := h
    unfold Holdings.after
    split_ifs with hv
    · exact hclosed
    · intro t ht u hu
      cases List.mem_append.mp ht with
      | inl hnew => exact hneeds t hnew u hu
      | inr hold => exact List.mem_append_right _ (hclosed t hold u hu)
  | cleanup status c todo =>
    obtain ⟨⟨-, -, -, -, hneeds⟩, -⟩ := h
    intro t ht u hu
    have hheld := hclosed t (mem_left.mp ht).1 u hu
    exact mem_left.mpr ⟨hheld, hneeds t ht u hu⟩
  | done => exact hclosed

/-! ### One call -/

/-- A call that returns `v`, with what is held before and after it. -/
structure Moves (H : Holdings ι γ τ) (c : γ) (v : ℤ) (has has' : τ → Prop) : Prop where
  demands : ∀ t ∈ H.demands c, has t
  absent : ∀ t ∈ H.gives c ++ H.excludes c, ¬has t
  iff : ∀ t, has' t ↔ has t ∧ t ∉ H.takes c ∨ t ∈ H.gives c ∧ v = 0

lemma Fits.moves (h : H.Fits i s p held) (hnext : p.next = some c) (v : ℤ) :
    H.Moves c v (· ∈ held) (· ∈ H.after v p held) ∧
      ∀ t, t ∈ H.gives c ++ H.excludes c ∨ t ∈ H.takes c → H.owner t = i := by
  cases p with
  | idle status => cases hnext
  | setup c' todo undo =>
    cases hnext
    obtain ⟨-, ⟨htakes, hdemands, habsent, -⟩, -⟩ := h
    refine ⟨⟨hdemands, fun t ht => (habsent t ht).2, fun t => ?_⟩, fun t ht => ?_⟩
    · unfold Holdings.after
      rw [htakes]
      split_ifs with hv
      · simp [hv]
      · rw [List.mem_append]
        simp only [List.not_mem_nil, not_false_eq_true, and_true, not_not.mp hv]
        exact or_comm
    · rw [htakes] at ht
      exact (habsent t (ht.resolve_right List.not_mem_nil)).1
  | cleanup status c' todo =>
    cases hnext
    obtain ⟨⟨hgives, hexcludes, hdemands, howner, -⟩, -⟩ := h
    have hnone : H.gives c ++ H.excludes c = [] := by rw [hgives, hexcludes, List.append_nil]
    refine ⟨⟨hdemands, fun t ht => ?_, fun t => ?_⟩, fun t ht => ?_⟩
    · rw [hnone] at ht
      exact absurd ht List.not_mem_nil
    · rw [hgives]
      simp only [List.not_mem_nil, false_and, or_false]
      exact mem_left
    · rw [hnone] at ht
      exact howner t (ht.resolve_left List.not_mem_nil)
  | done => cases hnext

section Moves

variable {has has' : τ → Prop}

omit [DecidableEq τ] in
lemma Moves.same (h : H.Moves c v has has') (htakes : H.takes c = [])
    (hgives : H.gives c = [] ∨ v ≠ 0) : has' = has := by
  funext t
  rw [h.iff, htakes]
  cases hgives with
  | inl hnil => simp [hnil]
  | inr hv => simp [hv]

lemma Moves.given (h : H.Moves c v has has') (htakes : H.takes c = []) (hv : v = 0) :
    has' = (H.gives c).foldr (fun t p => Function.update p t True) has := by
  have hiff : ∀ t, has' t ↔ has t ∨ t ∈ H.gives c := by
    intro t
    rw [h.iff, htakes]
    simp [hv]
  funext t
  rw [hiff]
  induction H.gives c with
  | nil => simp
  | cons u us ih =>
    rw [List.foldr_cons, Function.update_apply, ← ih, List.mem_cons]
    split_ifs with heq
    · simp [heq]
    · simp [heq]

lemma Moves.taken (h : H.Moves c v has has') (hgives : H.gives c = []) :
    has' = (H.takes c).foldr (fun t p => Function.update p t False) has := by
  have hiff : ∀ t, has' t ↔ has t ∧ t ∉ H.takes c := by
    intro t
    rw [h.iff, hgives]
    simp
  funext t
  rw [hiff]
  induction H.takes c with
  | nil => simp
  | cons u us ih =>
    rw [List.foldr_cons, Function.update_apply, ← ih, List.mem_cons]
    split_ifs with heq
    · simp [heq]
    · simp [heq]

end Moves

/-! ### Several threads -/

/-- Something is held: by the thread that it belongs to. -/
def Has (H : Holdings ι γ τ) (held : ι → List τ) (t : τ) : Prop := t ∈ held (H.owner t)

/-- Every thread holds what fits to where it is. -/
structure Crew (H : Holdings ι γ τ) (script : ι → Script γ) (place : ι → Place γ)
    (held : ι → List τ) : Prop where
  fits : ∀ i, H.Fits i (script i) (place i) (held i)
  closed : ∀ i, H.Closed (held i)
  owner : ∀ i, ∀ t ∈ held i, H.owner t = i

section Crew

variable {script : ι → Script γ} {place : ι → Place γ} {held : ι → List τ} {t u : τ}

lemma crew_idle (script : ι → Script γ) {status : ι → ℤ} :
    H.Crew script (fun i => .idle (status i)) (fun _ => []) where
  fits _ := rfl
  closed _ _ ht := absurd ht List.not_mem_nil
  owner _ _ ht := absurd ht List.not_mem_nil

/-- What is needed belongs to the same thread. -/
lemma Crew.needs (h : H.Crew script place held) (ht : H.Has held t) (hu : u ∈ H.needs t) :
    H.Has held u := by
  have hmem := h.closed _ t ht u hu
  unfold Has
  rw [h.owner _ u hmem]
  exact hmem

/-- A thread that is idle holds nothing. -/
lemma Crew.idle (h : H.Crew script place held) (hidle : (place i).isIdle = true) : held i = [] := by
  obtain ⟨status, hplace⟩ := Place.isIdle_iff.mp hidle
  have hfits := h.fits i
  rw [hplace] at hfits
  exact hfits

lemma Crew.not_has (h : H.Crew script place held) (hidle : (place (H.owner t)).isIdle = true) :
    ¬H.Has held t := by
  unfold Has
  rw [h.idle hidle]
  exact List.not_mem_nil

/-- What a thread holds that is set up is given back by its teardown. -/
lemma Crew.cleans (h : H.Crew script place held) (hdone : (place i).isDone = true) :
    H.Cleans i (held i) (script i).teardown := by
  have hfits := h.fits i
  rw [Place.isDone_iff.mp hdone] at hfits
  exact hfits

variable [DecidableEq ι]

/-- A thread goes elsewhere without a call. -/
lemma Crew.goTo (h : H.Crew script place held) {p : Place γ} (hp : H.Fits i (script i) p (held i)) :
    H.Crew script (Function.update place i p) held where
  fits j := by
    by_cases hj : j = i
    · subst hj
      rw [Function.update_self]
      exact hp
    · rw [Function.update_of_ne hj]
      exact h.fits j
  closed := h.closed
  owner := h.owner

lemma Crew.setUp (h : H.Crew script place held) (hsound : H.Sound i (script i))
    (hidle : (place i).isIdle = true) :
    H.Crew script (Function.update place i (.ofSetup (script i).setup [])) held := by
  apply h.goTo
  rw [h.idle hidle]
  exact fits_ofSetup hsound

lemma Crew.takeDown (h : H.Crew script place held) (hdone : (place i).isDone = true) (status : ℤ) :
    H.Crew script (Function.update place i (.ofCleanup status (script i).teardown)) held :=
  h.goTo (fits_ofCleanup status (h.cleans hdone))

lemma Crew.call (h : H.Crew script place held) (hnext : (place i).next = some c) (v : ℤ) :
    ∃ held', H.Crew script (Function.update place i ((place i).after v)) held' ∧
      H.Moves c v (H.Has held) (H.Has held') := by
  obtain ⟨hmoves, howner⟩ := (h.fits i).moves hnext v
  let held' := Function.update held i (H.after v (place i) (held i))
  have hself : held' i = H.after v (place i) (held i) := Function.update_self ..
  have hother : ∀ j, j ≠ i → held' j = held j := fun j hj => Function.update_of_ne hj _ _
  -- what a thread has belongs to it before and after
  have howned : ∀ t ∈ held' i, H.owner t = i := by
    intro t ht
    rw [hself] at ht
    cases (hmoves.iff t).mp ht with
    | inl hold => exact h.owner i t hold.1
    | inr hnew => exact howner t (.inl (List.mem_append_left _ hnew.1))
  have hhas : ∀ t ∈ held i, H.Has held t := by
    intro t ht
    unfold Has
    rw [h.owner i t ht]
    exact ht
  refine ⟨held', ⟨fun j => ?_, fun j => ?_, fun j => ?_⟩, ⟨fun t ht => ?_, fun t ht hhas => ?_,
    fun t => ?_⟩⟩
  · by_cases hj : j = i
    · subst hj
      rw [Function.update_self, hself]
      exact (h.fits j).after v
    · rw [Function.update_of_ne hj, hother j hj]
      exact h.fits j
  · by_cases hj : j = i
    · subst hj
      rw [hself]
      exact (h.fits j).closed_after (h.closed j) v
    · rw [hother j hj]
      exact h.closed j
  · by_cases hj : j = i
    · subst hj
      exact howned
    · rw [hother j hj]
      exact h.owner j
  · exact hhas t (hmoves.demands t ht)
  · rw [Has, howner t (.inl ht)] at hhas
    exact hmoves.absent t ht hhas
  · unfold Has
    by_cases hj : H.owner t = i
    · rw [hj, hself]
      exact hmoves.iff t
    · rw [hother _ hj]
      have hgives : t ∉ H.gives c := fun ht => hj (howner t (.inl (List.mem_append_left _ ht)))
      have htakes : t ∉ H.takes c := fun ht => hj (howner t (.inr ht))
      simp [hgives, htakes]

end Crew

end Holdings

end Devlib
