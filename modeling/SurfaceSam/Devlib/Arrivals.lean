import SurfaceSam.Devlib.Simulation

/-!
# In the order of arrival

Items arrive and are numbered, and later some of them depart. Departures are in the order of
arrival if no item departs that comes before one which has departed: a bound below which nothing
departs any more moves past every item that does.
-/

namespace Devlib.Machine

variable {σ α β γ : Type} {step : Machine σ α} {label : σ → α → List β} {s t : σ} {as : List α}

lemma Meets.of_forall {C : σ → α → Prop} (h : ∀ s, ∀ a ∈ as, C s a) : Meets step C s as := by
  induction as generalizing s with
  | nil => trivial
  | cons a as ih =>
    exact ⟨h s a List.mem_cons_self, fun u _ => ih fun s b hb => h s b (List.mem_cons_of_mem a hb)⟩

lemma shown_map (f : β → γ) :
    shown step (fun s a => (label s a).map f) s as = (shown step label s as).map f := by
  induction as generalizing s with
  | nil => rfl
  | cons a as ih =>
    rw [shown, shown, List.map_append]
    cases step s a with
    | none => rfl
    | some t => exact congrArg _ ih

lemma shown_filter (p : β → Bool) :
    shown step (fun s a => (label s a).filter p) s as = (shown step label s as).filter p := by
  induction as generalizing s with
  | nil => rfl
  | cons a as ih =>
    rw [shown, shown, List.filter_append]
    cases step s a with
    | none => rfl
    | some t => exact congrArg _ ih

/-- What an invariant says of what single steps show. -/
lemma forall_shown {C : σ → α → Prop} {I : σ → Prop} {P : β → Prop} (hI : I s)
    (hstep : ∀ t a u, I t → C t a → step t a = some u → I u)
    (hlabel : ∀ t a, I t → ∀ b ∈ label t a, P b) (hC : Meets step C s as) :
    ∀ b ∈ shown step label s as, P b := by
  induction as generalizing s with
  | nil => exact fun b hb => absurd hb List.not_mem_nil
  | cons a as ih =>
    intro b hb
    rw [shown, List.mem_append] at hb
    cases hb with
    | inl hb => exact hlabel s a hI b hb
    | inr hb =>
      cases ht : step s a with
      | none =>
        rw [ht] at hb
        cases hb
      | some t =>
        rw [ht] at hb
        exact ih (hstep s a t hI hC.1 ht) (hC.2 t ht) b hb

/-- In a state with `I s k`, none of the first `k` items departs any more. -/
structure Orderly (step : Machine σ α) (C : σ → α → Prop) (items : σ → List β)
    (arrivals departures : σ → α → List β) (I : σ → ℕ → Prop) : Prop where
  arrive : ∀ {s a t}, step s a = some t → items t = items s ++ arrivals s a
  depart : ∀ {s a t k}, I s k → C s a → step s a = some t → ∃ k', k ≤ k' ∧
    k' ≤ (items s).length ∧ I t k' ∧ (departures s a).Sublist (((items s).take k').drop k)

/-- The item that departs next. -/
lemma singleton_sublist_window {l : List β} {b : β} {i k : ℕ} (hi : l[i]? = some b) (hk : k ≤ i) :
    [b].Sublist ((l.take (i + 1)).drop k) := by
  rw [List.singleton_sublist, List.mem_iff_getElem?]
  refine ⟨i - k, ?_⟩
  rw [List.getElem?_drop, Nat.add_sub_cancel' hk, List.getElem?_take_of_lt (Nat.lt_succ_self i)]
  exact hi

variable {C : σ → α → Prop} {items : σ → List β} {arrivals departures : σ → α → List β}
  {I : σ → ℕ → Prop} {k : ℕ}

lemma Orderly.items_run (h : Orderly step C items arrivals departures I)
    (hrun : run step s as = some t) : items t = items s ++ shown step arrivals s as := by
  induction as generalizing s with
  | nil =>
    cases hrun
    exact (List.append_nil _).symm
  | cons a as ih =>
    obtain ⟨u, hu, hrest⟩ := Option.bind_eq_some_iff.mp hrun
    rw [ih hrest, h.arrive hu, shown_cons hu, List.append_assoc]

/-- What departs in a run is a part of the items that are there in the end, in their order. -/
lemma Orderly.drop_sublist (h : Orderly step C items arrivals departures I) (hI : I s k)
    (hrun : run step s as = some t) (hC : Meets step C s as) :
    (shown step departures s as).Sublist ((items t).drop k) := by
  induction as generalizing s k with
  | nil => exact List.nil_sublist _
  | cons a as ih =>
    obtain ⟨u, hu, hrest⟩ := Option.bind_eq_some_iff.mp hrun
    obtain ⟨k', hk, hlen, hI', hdepart⟩ := h.depart hI hC.1 hu
    have hprefix : (items s).take k' = (items t).take k' := by
      rw [h.items_run hrun, List.take_append_of_le_length hlen]
    have hsplit : (items t).drop k = ((items t).take k').drop k ++ (items t).drop k' := by
      conv_lhs => rw [← List.take_append_drop k' (items t)]
      apply List.drop_append_of_le_length
      rw [← hprefix, List.length_take, Nat.min_eq_left hlen]
      exact hk
    rw [shown_cons hu, hsplit, ← hprefix]
    exact hdepart.append (ih hI' hrest (hC.2 u hu))

/-- If nothing departs that is there from the start, departures are in the order of arrival. -/
theorem Orderly.sublist (h : Orderly step C items arrivals departures I)
    (hI : I s (items s).length) (hrun : run step s as = some t) (hC : Meets step C s as) :
    (shown step departures s as).Sublist (shown step arrivals s as) := by
  have hsub := h.drop_sublist hI hrun hC
  rw [h.items_run hrun, List.drop_left] at hsub
  exact hsub

end Devlib.Machine
