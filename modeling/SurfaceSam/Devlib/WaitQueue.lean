import SurfaceSam.Devlib.CircularList

/-!
# Wait queues

A task that waits for a condition puts its entry on a queue, which is a circular list, and marks
itself as not running, tests the condition once more, and only then leaves the processor until
it is marked as running again. A wake-up goes along the list, and does so for the tasks it comes
to. No wake-up is lost while the list is sound: a task that sleeps while its condition holds is
still due to be woken. A task whose entry no pointer leads to is not woken at all.
-/

namespace Devlib

/-- Where a task is in its wait: outside of it, before it puts itself on the queue, before its
test of the condition, which is the last one if it has been interrupted, or off the processor. -/
inductive WaitStage where
  | out
  | entering
  | prepared (interrupted : Bool)
  | asleep
  deriving DecidableEq, Repr

structure Waiter where
  stage : WaitStage
  running : Bool
  deriving DecidableEq, Repr

namespace Waiter

def idle : Waiter := ⟨.out, true⟩

/-- The condition has been found false. -/
def enter (x : Waiter) : Waiter := { x with stage := .entering }

/-- A task that has been interrupted is not to sleep. -/
def prepare (interrupted : Bool) : Waiter := ⟨.prepared interrupted, interrupted⟩

/-- The test has failed. -/
def sleep (x : Waiter) : Waiter := { x with stage := .asleep }

/-- By a wake-up, a signal or a timeout. -/
def wake (x : Waiter) : Waiter := { x with running := true }

/-- The task is off the processor, and nothing has woken it. -/
def parked (x : Waiter) : Bool := x.stage == .asleep && !x.running

/-- A task that is not to run is between its preparation and its wake-up. -/
def Ok (x : Waiter) : Prop := x.running = false → x.stage = .prepared false ∨ x.stage = .asleep

variable {x : Waiter}

lemma parked_iff : x.parked = true ↔ x.stage = .asleep ∧ x.running = false := by
  simp [parked]

lemma ok_of_running (h : x.running = true) : x.Ok := by
  intro hparked
  rw [h] at hparked
  cases hparked

/-- A task that is about to enter its wait, or comes out of it, is to run. -/
lemma Ok.running (h : x.Ok) (hout : x.stage = .out ∨ x.stage = .entering) : x.running = true := by
  by_contra hparked
  have hwaits := h (Bool.eq_false_iff.mpr hparked)
  rcases hout with hout | hout
  · simp [hout] at hwaits
  · simp [hout] at hwaits

lemma ok_prepare (interrupted : Bool) : (prepare interrupted).Ok := by
  intro hparked
  simp_all [prepare]

lemma ok_sleep (x : Waiter) : x.sleep.Ok := fun _ => .inr rfl

end Waiter

/-- The tasks and the list of their entries; `none` is its head. -/
structure WaitQueue (ω : Type) where
  task : ω → Waiter
  links : Links (Option ω)

namespace WaitQueue

variable {ω : Type}

instance : CoeFun (WaitQueue ω) fun _ => ω → Waiter := ⟨task⟩

def empty : WaitQueue ω := ⟨fun _ => .idle, .null⟩

/-- An entry that is not on the queue: a list of its own, or not in use. -/
def Free (q : WaitQueue ω) (w : ω) : Prop :=
  q.links.Link (some w) (some w) ∨
    (q w).stage = .out ∧ q.links.next (some w) = none ∧ q.links.prev (some w) = none

/-- The queue consists of the entries of these tasks, among them all that are not to run; before
it is set up it has none. -/
structure Holds (autoremove : ω → Bool) (q : WaitQueue ω) (qs : List ω) : Prop where
  list : q.links.Represents none (qs.map some) ∨ qs = [] ∧ q.links.next none = none
  free : ∀ w ∉ qs, q.Free w
  inWait : ∀ w ∈ qs, (q w).stage ≠ .out
  off : ∀ w ∈ qs, autoremove w = true → (q w).stage ≠ .prepared true
  stays : ∀ w, autoremove w = false → (q w).stage ≠ .out → w ∈ qs
  parked : ∀ w, (q w).running = false → w ∈ qs
  tasks : ∀ w, (q w).Ok

def Ok (autoremove : ω → Bool) (q : WaitQueue ω) : Prop := ∃ qs, q.Holds autoremove qs

/-- Who sleeps while its condition holds is due to be woken. -/
def NoLost (q : WaitQueue ω) (ready : ω → Prop) (due : Prop) : Prop :=
  ∀ w, (q w).parked = true → ready w → due

/-- The entry of the task is the only one. -/
def Only (q : WaitQueue ω) (w : ω) : Prop :=
  q.links.next none = some (some w) ∧ q.links.next (some w) = some none

/-- What is done for another task neither changes a task nor leads to its entry. -/
structure Spares (w : ω) (q q' : WaitQueue ω) : Prop where
  task : q' w = q w
  unlinked : q.links.Unlinked (some w) → q'.links.Unlinked (some w)

variable {autoremove : ω → Bool} {q q' : WaitQueue ω} {qs qs' : List ω} {v w : ω} {x : Waiter}
  {l l' : Links (Option ω)} {ready ready' : ω → Prop} {due due' : Prop} {rounds : ℕ}

lemma holds_empty : (empty : WaitQueue ω).Holds autoremove [] where
  list := .inr ⟨rfl, rfl⟩
  free _ _ := .inr ⟨rfl, rfl, rfl⟩
  inWait := List.forall_mem_nil _
  off := List.forall_mem_nil _
  stays _ _ h := absurd rfl h
  parked := nofun
  tasks _ := Waiter.ok_of_running rfl

lemma ok_empty : (empty : WaitQueue ω).Ok autoremove := ⟨[], holds_empty⟩

/-- A step loses no wake-up if it parks nobody whose condition holds, and makes a condition
hold only where a wake-up is due afterwards. -/
lemma NoLost.step (h : NoLost q ready due)
    (hparked : ∀ w, (q' w).parked = true → ready' w → due' ∨ (q w).parked = true ∧ ready w)
    (hdue : due → due') : NoLost q' ready' due' := by
  intro w hw hready
  obtain hnow | ⟨hbefore, hwas⟩ := hparked w hw hready
  · exact hnow
  · exact hdue (h w hbefore hwas)

lemma Spares.refl (w : ω) (q : WaitQueue ω) : Spares w q q := ⟨rfl, id⟩

namespace Holds

lemma nodup (h : q.Holds autoremove qs) : qs.Nodup := by
  rcases h.list with hlist | ⟨rfl, -⟩
  · exact (List.nodup_cons.mp hlist.nodup).2.of_map some
  · exact List.nodup_nil

lemma represents (h : q.Holds autoremove qs) (hw : w ∈ qs) :
    q.links.Represents none (qs.map some) := by
  rcases h.list with hlist | ⟨rfl, -⟩
  · exact hlist
  · cases hw

end Holds

/-! ### Operations -/

variable [DecidableEq ω]

/-- `init_waitqueue_head`. -/
def initHead (q : WaitQueue ω) : WaitQueue ω := { q with links := q.links.initListHead none }

def setTask (w : ω) (x : Waiter) (q : WaitQueue ω) : WaitQueue ω :=
  { q with task := Function.update q.task w x }

@[simp] lemma setTask_self (w : ω) (x : Waiter) (q : WaitQueue ω) : (q.setTask w x) w = x :=
  Function.update_self ..

/-- The task goes on, and its entry with it. -/
def move (w : ω) (x : Waiter) (links : Option (Links (Option ω))) (q : WaitQueue ω) :
    Option (WaitQueue ω) :=
  links.map fun links => ⟨Function.update q.task w x, links⟩

/-- `init_wait_entry`. -/
def initWaitEntry (w : ω) (q : WaitQueue ω) : Option (WaitQueue ω) :=
  q.move w (q w).enter (q.links.initListHead (some w))

def prepareToWaitEvent (w : ω) (interrupted : Bool) (q : WaitQueue ω) : Option (WaitQueue ω) :=
  q.move w (.prepare interrupted) <|
    if interrupted then q.links.listDelInit (some w)
    else if q.links.next (some w) = some (some w) then q.links.listAdd (some w) none
    else some q.links

def finishWait (w : ω) (q : WaitQueue ω) : Option (WaitQueue ω) :=
  q.move w .idle (q.links.listDelInit (some w))

/-- `add_wait_queue`, for a poll. -/
def addWaitQueue (w : ω) (interrupted : Bool) (q : WaitQueue ω) : Option (WaitQueue ω) :=
  q.move w (.prepare interrupted) (q.links.listAdd (some w) none)

def removeWaitQueue (w : ω) (q : WaitQueue ω) : Option (WaitQueue ω) :=
  q.move w .idle (q.links.listDel (some w))

/-- The function of the entry. Some entries leave the queue when their task is woken. -/
def wake (autoremove : ω → Bool) (w : ω) (q : WaitQueue ω) : Option (WaitQueue ω) :=
  q.move w (q w).wake <|
    if autoremove w && !(q w).running then q.links.listDelInit (some w) else some q.links

/-- The loop of `__wake_up_common` from an entry on, for a number of rounds. -/
def wakeLoop (autoremove : ω → Bool) : ℕ → Option ω → WaitQueue ω → Option (WaitQueue ω)
  | _, none, q => some q
  | 0, some _, _ => none
  | rounds + 1, some w, q => do
    let next ← q.links.next (some w)
    let q ← q.wake autoremove w
    wakeLoop autoremove rounds next q

/-- `wake_up`; there is no result before the loop has come back to the head. -/
def wakeUp (autoremove : ω → Bool) (rounds : ℕ) (q : WaitQueue ω) : Option (WaitQueue ω) := do
  let first ← q.links.next none
  q.wakeLoop autoremove rounds first

/-! ### Steps of one task -/

lemma task_of_move {links : Option (Links (Option ω))} (h : q.move w x links = some q') :
    q'.task = Function.update q.task w x ∧ links = some q'.links := by
  obtain ⟨l, hl, rfl⟩ := Option.map_eq_some_iff.mp h
  exact ⟨rfl, hl⟩

namespace Holds

/-- An entry that is in use is on the queue or a list of its own. -/
lemma mem_or_link (h : q.Holds autoremove qs) (hstage : (q w).stage ≠ .out) :
    w ∈ qs ∨ q.links.Link (some w) (some w) := by
  by_cases hw : w ∈ qs
  · exact .inl hw
  · exact .inr ((h.free w hw).resolve_right fun hout => hstage hout.1)

/-- The tasks of the other entries are not concerned. -/
lemma move (h : q.Holds autoremove qs)
    (hlist : l.Represents none (qs'.map some) ∨ qs' = [] ∧ l.next none = none)
    (hframe : ∀ v ≠ w, v ∉ qs →
      l.next (some v) = q.links.next (some v) ∧ l.prev (some v) = q.links.prev (some v))
    (hothers : ∀ v ≠ w, v ∈ qs' ↔ v ∈ qs)
    (hfree : w ∉ qs' → l.Link (some w) (some w) ∨
      x.stage = .out ∧ l.next (some w) = none ∧ l.prev (some w) = none)
    (hin : w ∈ qs' → x.stage ≠ .out ∧ (autoremove w = true → x.stage ≠ .prepared true))
    (hstays : autoremove w = false → x.stage ≠ .out → w ∈ qs')
    (hparked : x.running = false → w ∈ qs') (hx : x.Ok) :
    Holds autoremove ⟨Function.update q.task w x, l⟩ qs' where
  list := hlist
  free := by
    intro v hv
    by_cases hvw : v = w
    · subst hvw
      simpa [Free] using hfree hv
    · have hbefore : v ∉ qs := mt (hothers v hvw).mpr hv
      obtain ⟨hnext, hprev⟩ := hframe v hvw hbefore
      have hfree := h.free v hbefore
      simpa [Free, Links.Link, hvw, hnext, hprev] using hfree
  inWait := by
    intro v hv
    by_cases hvw : v = w
    · subst hvw
      simpa using (hin hv).1
    · simpa [hvw] using h.inWait v ((hothers v hvw).mp hv)
  off := by
    intro v hv
    by_cases hvw : v = w
    · subst hvw
      simpa using (hin hv).2
    · simpa [hvw] using h.off v ((hothers v hvw).mp hv)
  stays := by
    intro v hauto hstage
    by_cases hvw : v = w
    · subst hvw
      exact hstays hauto (by simpa using hstage)
    · exact (hothers v hvw).mpr (h.stays v hauto (by simpa [hvw] using hstage))
  parked := by
    intro v hv
    by_cases hvw : v = w
    · subst hvw
      exact hparked (by simpa using hv)
    · exact (hothers v hvw).mpr (h.parked v (by simpa [hvw] using hv))
  tasks := by
    intro v
    by_cases hvw : v = w
    · subst hvw
      simpa using hx
    · simpa [hvw] using h.tasks v

/-- The entry stays where it is. -/
lemma setTask (h : q.Holds autoremove qs) (hstage : x.stage = .out ∨ (q w).stage ≠ .out)
    (hin : w ∈ qs → x.stage ≠ .out ∧ (autoremove w = true → x.stage ≠ .prepared true))
    (hparked : x.running = false → w ∈ qs) (hx : x.Ok) :
    (q.setTask w x).Holds autoremove qs := by
  refine h.move h.list (fun _ _ _ => ⟨rfl, rfl⟩) (fun _ _ => Iff.rfl) (fun hw => ?_) hin
    (fun hauto hnew => ?_) hparked hx
  · rcases h.free w hw with hlink | ⟨hout, hnull⟩
    · exact .inl hlink
    · exact .inr ⟨hstage.resolve_right fun hne => hne hout, hnull⟩
  · exact h.stays w hauto (hstage.resolve_left hnew)

/-- The entry is taken off the queue, whatever becomes of its own pointers. -/
lemma unlink (h : q.Holds autoremove qs) (hw : w ∈ qs ∨ q.links.Link (some w) (some w))
    (hl : q.links.listDelEntry (some w) = some l)
    (hl' : ∀ y ≠ some w, l'.next y = l.next y ∧ l'.prev y = l.prev y) :
    (l'.Represents none ((qs.erase w).map some) ∨ qs.erase w = [] ∧ l'.next none = none) ∧
      ∀ v ≠ w, v ∉ qs →
        l'.next (some v) = q.links.next (some v) ∧ l'.prev (some v) = q.links.prev (some v) := by
  have hne (v : ω) (hv : v ≠ w) : some v ≠ some w := mt Option.some_inj.mp hv
  by_cases hmem : w ∈ qs
  · obtain ⟨front, back, rfl⟩ := List.append_of_mem hmem
    have hlist := h.represents hmem
    rw [List.map_append, List.map_cons] at hlist
    obtain ⟨l₁, hl₁, hframe, hrepresents⟩ := hlist.listDelEntry
    obtain rfl : l = l₁ := Option.some_inj.mp (hl.symm.trans hl₁)
    have hfront : w ∉ front := fun hw =>
      (List.nodup_append.mp h.nodup).2.2 w hw w List.mem_cons_self rfl
    constructor
    · rw [List.erase_append_right _ hfront, List.erase_cons_head, List.map_append]
      exact .inl (hrepresents l' hl')
    · intro v hv hnot
      obtain ⟨hnext, hprev⟩ := hl' (some v) (hne v hv)
      obtain ⟨hnext', hprev'⟩ := hframe (some v) (by simpa using hnot)
      exact ⟨hnext.trans hnext', hprev.trans hprev'⟩
  · have hself := Links.listDelEntry_self (hw.resolve_left hmem)
    obtain rfl : l = q.links := Option.some_inj.mp (hl.symm.trans hself)
    rw [List.erase_of_not_mem hmem]
    refine ⟨?_, fun v hv _ => hl' (some v) (hne v hv)⟩
    rcases h.list with hlist | ⟨hnil, hnone⟩
    · refine .inl (hlist.congr fun y hy => hl' y ?_)
      rintro rfl
      simp [hmem] at hy
    · exact .inr ⟨hnil, (hl' none (Option.some_ne_none w).symm).1.trans hnone⟩

lemma listDelInit (h : q.Holds autoremove qs) (hstage : (q w).stage ≠ .out)
    (hl : q.links.listDelInit (some w) = some l)
    (hstays : autoremove w = false → x.stage = .out) (hx : x.running = true) :
    Holds autoremove ⟨Function.update q.task w x, l⟩ (qs.erase w) := by
  obtain ⟨l₁, hl₁, rfl⟩ := Option.map_eq_some_iff.mp hl
  have hl' (y : Option ω) (hy : y ≠ some w) :
      (l₁.initListHead (some w)).next y = l₁.next y ∧
        (l₁.initListHead (some w)).prev y = l₁.prev y := Links.initListHead_of_ne hy
  obtain ⟨hlist, hframe⟩ := h.unlink (h.mem_or_link hstage) hl₁ hl'
  refine h.move hlist hframe (fun _ hv => List.mem_erase_of_ne hv) (fun _ => .inl ?_) (fun hw => ?_)
    (fun hauto hne => absurd (hstays hauto) hne) (fun hparked => ?_) (Waiter.ok_of_running hx)
  · exact l₁.link_initListHead (some w)
  · exact absurd hw h.nodup.not_mem_erase
  · rw [hx] at hparked
    cases hparked

lemma listDel (h : q.Holds autoremove qs) (hstage : (q w).stage ≠ .out)
    (hl : q.links.listDel (some w) = some l) :
    Holds autoremove ⟨Function.update q.task w .idle, l⟩ (qs.erase w) := by
  obtain ⟨l₁, hl₁, rfl⟩ := Option.map_eq_some_iff.mp hl
  have hl' (y : Option ω) (hy : y ≠ some w) : (l₁.poison (some w)).next y = l₁.next y ∧
      (l₁.poison (some w)).prev y = l₁.prev y := Links.poison_of_ne hy
  obtain ⟨hlist, hframe⟩ := h.unlink (h.mem_or_link hstage) hl₁ hl'
  refine h.move hlist hframe (fun _ hv => List.mem_erase_of_ne hv) (fun _ => .inr ?_) (fun hw => ?_)
    (fun _ hne => absurd rfl hne) nofun (Waiter.ok_of_running rfl)
  · exact ⟨rfl, Function.update_self .., Function.update_self ..⟩
  · exact absurd hw h.nodup.not_mem_erase

lemma listAdd (h : q.Holds autoremove qs) (hw : w ∉ qs) (hstage : x.stage ≠ .out)
    (hoff : autoremove w = true → x.stage ≠ .prepared true) (hx : x.Ok)
    (hl : q.links.listAdd (some w) none = some l) :
    Holds autoremove ⟨Function.update q.task w x, l⟩ (w :: qs) := by
  have hlist : q.links.Represents none (qs.map some) := by
    rcases h.list with hlist | ⟨-, hnone⟩
    · exact hlist
    · rw [Links.listAdd, hnone] at hl
      cases hl
  have hnew : some w ∉ none :: qs.map some := by simpa using hw
  obtain ⟨l₁, hl₁, hrepresents, hframe⟩ := hlist.listAdd hnew
  obtain rfl : l = l₁ := Option.some_inj.mp (hl.symm.trans hl₁)
  refine h.move (.inl hrepresents) (fun v hv hnot => hframe (some v) (by simp [hv, hnot]))
    (fun v hv => by simp [hv]) (fun hnot => ?_) (fun _ => ⟨hstage, hoff⟩)
    (fun _ _ => List.mem_cons_self) (fun _ => List.mem_cons_self) hx
  exact absurd List.mem_cons_self hnot

end Holds

namespace Ok

/-- A task goes on, and its entry stays where it is. -/
lemma setTask (h : q.Ok autoremove) (hstage : (q w).stage ≠ .out) (hnew : x.stage ≠ .out)
    (hoff : x.stage ≠ .prepared true)
    (hrunning : x.running = true ∨ x.running = (q w).running) (hx : x.Ok) :
    (q.setTask w x).Ok autoremove := by
  obtain ⟨qs, hqs⟩ := h
  refine ⟨qs, hqs.setTask (.inr hstage) (fun _ => ⟨hnew, fun _ => hoff⟩) (fun hparked => ?_) hx⟩
  rcases hrunning with hrunning | hrunning
  · rw [hrunning] at hparked
    cases hparked
  · exact hqs.parked w (hrunning ▸ hparked)

/-- An entry that stays on the queue is prepared again. -/
lemma prepare (h : q.Ok autoremove) (hstays : autoremove w = false)
    (hstage : (q w).stage ≠ .out) (interrupted : Bool) :
    (q.setTask w (.prepare interrupted)).Ok autoremove := by
  obtain ⟨qs, hqs⟩ := h
  have hmem := hqs.stays w hstays hstage
  refine ⟨qs, hqs.setTask (.inr hstage) (fun _ => ⟨WaitStage.noConfusion, fun hauto => ?_⟩)
    (fun _ => hmem) (Waiter.ok_prepare interrupted)⟩
  rw [hstays] at hauto
  cases hauto

/-- A task that has been interrupted is off the queue already. -/
lemma leave (h : q.Ok autoremove) (hauto : autoremove w = true)
    (hstage : (q w).stage = .prepared true) : (q.setTask w .idle).Ok autoremove := by
  obtain ⟨qs, hqs⟩ := h
  exact ⟨qs, hqs.setTask (.inl rfl) (fun hw => absurd hstage (hqs.off w hw hauto)) nofun
    (Waiter.ok_of_running rfl)⟩

lemma initWaitEntry (h : q.Ok autoremove) (hauto : autoremove w = true)
    (hstage : (q w).stage = .out) (hq' : q.initWaitEntry w = some q') : q'.Ok autoremove := by
  obtain ⟨qs, hqs⟩ := h
  cases hq'
  have hw : w ∉ qs := fun hw => hqs.inWait w hw hstage
  have hrunning : (q w).running = true := (hqs.tasks w).running (.inl hstage)
  refine ⟨qs, hqs.move ?_ (fun v hv _ => ?_) (fun _ _ => Iff.rfl) (fun _ => .inl ?_)
    (fun hmem => absurd hmem hw) (fun hstays => ?_) (fun hparked => ?_)
    (Waiter.ok_of_running hrunning)⟩
  · rcases hqs.list with hlist | ⟨hnil, hnone⟩
    · refine .inl (hlist.congr fun y hy => ?_)
      have hne : y ≠ some w := by
        rintro rfl
        simp [hw] at hy
      exact Links.initListHead_of_ne hne
    · refine .inr ⟨hnil, ?_⟩
      exact (Links.initListHead_of_ne (Option.some_ne_none w).symm).1.trans hnone
  · exact Links.initListHead_of_ne (mt Option.some_inj.mp hv)
  · exact q.links.link_initListHead (some w)
  · rw [hauto] at hstays
    cases hstays
  · rw [show (q w).enter.running = true from hrunning] at hparked
    cases hparked

lemma prepareToWaitEvent (h : q.Ok autoremove) (hauto : autoremove w = true)
    (hstage : (q w).stage = .entering) {interrupted : Bool}
    (hq' : q.prepareToWaitEvent w interrupted = some q') : q'.Ok autoremove := by
  obtain ⟨qs, hqs⟩ := h
  obtain ⟨l, hl, rfl⟩ := Option.map_eq_some_iff.mp hq'
  have hentered : (q w).stage ≠ .out := by
    rw [hstage]
    exact WaitStage.noConfusion
  cases interrupted with
  | true =>
    rw [if_pos rfl] at hl
    refine ⟨qs.erase w, hqs.listDelInit hentered hl (fun hstays => ?_) rfl⟩
    rw [hauto] at hstays
    cases hstays
  | false =>
    have hoff (_ : autoremove w = true) : (Waiter.prepare false).stage ≠ .prepared true := by
      simp [Waiter.prepare]
    rw [if_neg Bool.false_ne_true] at hl
    by_cases hw : w ∈ qs
    · -- the entry has stayed on the queue, and is not added again
      obtain ⟨front, back, rfl⟩ := List.append_of_mem hw
      have hlist := hqs.represents hw
      rw [List.map_append, List.map_cons] at hlist
      have hnext : q.links.next (some w) ≠ some (some w) := by
        rw [hlist.next_mem]
        have hnodup := (List.nodup_append.mp hqs.nodup).2.1
        cases back with
        | nil => simp
        | cons y back =>
          simp only [List.nodup_cons, List.mem_cons, not_or] at hnodup
          simpa using Ne.symm hnodup.1.1
      rw [if_neg hnext] at hl
      cases hl
      exact ⟨_, hqs.setTask (.inr hentered) (fun _ => ⟨WaitStage.noConfusion, hoff⟩) (fun _ => hw)
        (Waiter.ok_prepare false)⟩
    · have hlink := (hqs.mem_or_link hentered).resolve_left hw
      rw [if_pos hlink.1] at hl
      exact ⟨w :: qs, hqs.listAdd hw WaitStage.noConfusion hoff (Waiter.ok_prepare false) hl⟩

lemma finishWait (h : q.Ok autoremove) (hstage : (q w).stage ≠ .out)
    (hq' : q.finishWait w = some q') : q'.Ok autoremove := by
  obtain ⟨qs, hqs⟩ := h
  obtain ⟨l, hl, rfl⟩ := Option.map_eq_some_iff.mp hq'
  exact ⟨qs.erase w, hqs.listDelInit hstage hl (fun _ => rfl) rfl⟩

lemma addWaitQueue (h : q.Ok autoremove) (hauto : autoremove w = false)
    (hstage : (q w).stage = .out) {interrupted : Bool}
    (hq' : q.addWaitQueue w interrupted = some q') : q'.Ok autoremove := by
  obtain ⟨qs, hqs⟩ := h
  obtain ⟨l, hl, rfl⟩ := Option.map_eq_some_iff.mp hq'
  refine ⟨w :: qs, hqs.listAdd (fun hw => hqs.inWait w hw hstage) WaitStage.noConfusion
    (fun hremove => ?_) (Waiter.ok_prepare interrupted) hl⟩
  rw [hauto] at hremove
  cases hremove

lemma removeWaitQueue (h : q.Ok autoremove) (hstage : (q w).stage ≠ .out)
    (hq' : q.removeWaitQueue w = some q') : q'.Ok autoremove := by
  obtain ⟨qs, hqs⟩ := h
  obtain ⟨l, hl, rfl⟩ := Option.map_eq_some_iff.mp hq'
  exact ⟨qs.erase w, hqs.listDel hstage hl⟩

/-- Setting up the queue anew is no matter while all tasks are outside of their wait. -/
lemma initHead (h : q.Ok autoremove) (hout : ∀ w, (q w).stage = .out) :
    q.initHead.Ok autoremove := by
  obtain ⟨qs, hqs⟩ := h
  have hnone (w : ω) : w ∉ qs := fun hw => hqs.inWait w hw (hout w)
  refine ⟨[], .inl (Links.Represents.init q.links none), fun w _ => ?_, List.forall_mem_nil _,
    List.forall_mem_nil _, fun w _ hw => absurd (hout w) hw, fun w hw => ?_, hqs.tasks⟩
  · have hw : some w ≠ none := Option.some_ne_none w
    have hfree := hqs.free w (hnone w)
    simpa [Free, Links.Link, WaitQueue.initHead, Links.initListHead, hw] using hfree
  · exact absurd (hqs.parked w hw) (hnone w)

end Ok

/-! ### Wake-ups -/

/-- A wake-up changes nobody's stage, and puts nobody to sleep. -/
lemma task_of_wakeLoop {curr : Option ω} (h : q.wakeLoop autoremove rounds curr = some q') (v : ω) :
    (q' v).stage = (q v).stage ∧ ((q v).running = true → (q' v).running = true) := by
  induction rounds generalizing q curr with
  | zero =>
    cases curr with
    | none =>
      cases h
      exact ⟨rfl, id⟩
    | some w => cases h
  | succ rounds ih =>
    cases curr with
    | none =>
      cases h
      exact ⟨rfl, id⟩
    | some w =>
      obtain ⟨next, -, h⟩ := Option.bind_eq_some_iff.mp h
      obtain ⟨q₁, hq₁, h⟩ := Option.bind_eq_some_iff.mp h
      obtain ⟨htask, -⟩ := task_of_move hq₁
      obtain ⟨hstage, hrunning⟩ := ih h
      by_cases hvw : v = w
      · subst hvw
        rw [htask, Function.update_self] at hstage hrunning
        exact ⟨hstage, fun _ => hrunning rfl⟩
      · rw [htask, Function.update_of_ne hvw] at hstage hrunning
        exact ⟨hstage, hrunning⟩

lemma task_of_wakeUp (h : q.wakeUp autoremove rounds = some q') (v : ω) :
    (q' v).stage = (q v).stage ∧ ((q v).running = true → (q' v).running = true) := by
  obtain ⟨first, -, h⟩ := Option.bind_eq_some_iff.mp h
  exact task_of_wakeLoop h v

namespace Holds

/-- Waking a task of the queue takes at most its own entry off. -/
lemma wake {front rest : List ω} (h : q.Holds autoremove (front ++ w :: rest))
    (hq' : q.wake autoremove w = some q') :
    ∃ front', q'.Holds autoremove (front' ++ rest) := by
  obtain ⟨l, hl, rfl⟩ := Option.map_eq_some_iff.mp hq'
  have hmem : w ∈ front ++ w :: rest := List.mem_append_right front List.mem_cons_self
  have hstage := h.inWait w hmem
  split_ifs at hl with hremove
  · rw [Bool.and_eq_true] at hremove
    have hnot : w ∉ front := fun hw =>
      (List.nodup_append.mp h.nodup).2.2 w hw w List.mem_cons_self rfl
    have herase : (front ++ w :: rest).erase w = front ++ rest := by
      rw [List.erase_append_right _ hnot, List.erase_cons_head]
    refine ⟨front, herase ▸ h.listDelInit hstage hl (fun hstays => ?_) rfl⟩
    rw [hremove.1] at hstays
    cases hstays
  · cases hl
    have hset : (q.setTask w (q w).wake).Holds autoremove (front ++ w :: rest) :=
      h.setTask (.inr hstage) (fun hw => ⟨hstage, h.off w hw⟩) nofun (Waiter.ok_of_running rfl)
    rw [List.append_cons] at hset
    exact ⟨front ++ [w], hset⟩

/-- The loop of a wake-up comes to all that are still ahead. -/
lemma wakeLoop {front rest : List ω} (h : q.Holds autoremove (front ++ rest))
    (hq' : q.wakeLoop autoremove rounds rest.head? = some q') :
    q'.Ok autoremove ∧ ∀ w ∈ rest, (q' w).running = true := by
  induction rest generalizing q front rounds with
  | nil =>
    cases rounds with
    | zero =>
      cases hq'
      exact ⟨⟨_, h⟩, List.forall_mem_nil _⟩
    | succ rounds =>
      cases hq'
      exact ⟨⟨_, h⟩, List.forall_mem_nil _⟩
  | cons w rest ih =>
    cases rounds with
    | zero => cases hq'
    | succ rounds =>
      obtain ⟨next, hnext, hq'⟩ := Option.bind_eq_some_iff.mp hq'
      obtain ⟨q₁, hq₁, hq'⟩ := Option.bind_eq_some_iff.mp hq'
      have hlist := h.represents (List.mem_append_right front List.mem_cons_self)
      rw [List.map_append, List.map_cons] at hlist
      have hhead : next = rest.head? := by
        rw [hlist.next_mem, Option.some_inj] at hnext
        rw [← hnext]
        cases rest with
        | nil => rfl
        | cons y rest => rfl
      subst hhead
      obtain ⟨front', h₁⟩ := h.wake hq₁
      obtain ⟨hok, hrest⟩ := ih h₁ hq'
      refine ⟨hok, List.forall_mem_cons.mpr ⟨(task_of_wakeLoop hq' w).2 ?_, hrest⟩⟩
      rw [(task_of_move hq₁).1, Function.update_self]
      rfl

end Holds

lemma Ok.wakeUp (h : q.Ok autoremove) (hq' : q.wakeUp autoremove rounds = some q') :
    q'.Ok autoremove ∧ ∀ w, (q' w).running = true := by
  obtain ⟨qs, hqs⟩ := h
  have htask := task_of_wakeUp hq'
  obtain ⟨first, hfirst, hq'⟩ := Option.bind_eq_some_iff.mp hq'
  have hhead : first = qs.head? := by
    rcases hqs.list with hlist | ⟨-, hnone⟩
    · rw [hlist.next_head, Option.some_inj] at hfirst
      rw [← hfirst]
      cases qs with
      | nil => rfl
      | cons w qs => rfl
    · rw [hnone] at hfirst
      cases hfirst
  subst hhead
  have hall : q.Holds autoremove ([] ++ qs) := hqs
  obtain ⟨hok, hrunning⟩ := hall.wakeLoop hq'
  refine ⟨hok, fun w => ?_⟩
  cases hw : (q w).running with
  | true => exact (htask w).2 hw
  | false => exact hrunning w (hqs.parked w hw)

/-- A wake-up leaves nobody parked. -/
lemma Ok.noLost_wakeUp (h : q.Ok autoremove) (hq' : q.wakeUp autoremove rounds = some q') :
    NoLost q' ready due := by
  intro w hw
  obtain ⟨-, hparked⟩ := Waiter.parked_iff.mp hw
  rw [(h.wakeUp hq').2 w] at hparked
  cases hparked

/-! ### Entries that are cut off -/

lemma spares_initHead (w : ω) (q : WaitQueue ω) : Spares w q q.initHead :=
  ⟨rfl, fun h => h.initListHead (Option.some_ne_none w).symm⟩

lemma spares_setTask (hv : v ≠ w) : Spares w q (q.setTask v x) :=
  ⟨Function.update_of_ne hv.symm _ _, id⟩

lemma spares_move {links : Option (Links (Option ω))} (hv : v ≠ w)
    (h : q.move v x links = some q')
    (hlinks : ∀ l, links = some l → q.links.Unlinked (some w) → l.Unlinked (some w)) :
    Spares w q q' := by
  obtain ⟨htask, hl⟩ := task_of_move h
  exact ⟨by rw [htask, Function.update_of_ne hv.symm], hlinks q'.links hl⟩

section Others

variable (hv : v ≠ w)
include hv

lemma spares_initWaitEntry (h : q.initWaitEntry v = some q') : Spares w q q' :=
  spares_move hv h fun l hl hq => by
    cases hl
    exact hq.initListHead (mt Option.some_inj.mp hv)

lemma spares_finishWait (h : q.finishWait v = some q') : Spares w q q' :=
  spares_move hv h fun _ hl hq => hq.listDelInit (mt Option.some_inj.mp hv) hl

lemma spares_addWaitQueue {interrupted : Bool} (h : q.addWaitQueue v interrupted = some q') :
    Spares w q q' :=
  spares_move hv h fun _ hl hq =>
    hq.listAdd (mt Option.some_inj.mp hv) (Option.some_ne_none w).symm hl

lemma spares_removeWaitQueue (h : q.removeWaitQueue v = some q') : Spares w q q' :=
  spares_move hv h fun _ hl hq => hq.listDel (mt Option.some_inj.mp hv) hl

lemma spares_prepareToWaitEvent {interrupted : Bool}
    (h : q.prepareToWaitEvent v interrupted = some q') : Spares w q q' := by
  have hne : some v ≠ some w := mt Option.some_inj.mp hv
  refine spares_move hv h fun l hl hq => ?_
  split_ifs at hl
  · exact hq.listDelInit hne hl
  · exact hq.listAdd hne (Option.some_ne_none w).symm hl
  · cases hl
    exact hq

lemma spares_wake (h : q.wake autoremove v = some q') : Spares w q q' := by
  refine spares_move hv h fun l hl hq => ?_
  split_ifs at hl
  · exact hq.listDelInit (mt Option.some_inj.mp hv) hl
  · cases hl
    exact hq

end Others

/-- A wake-up does not come to an entry that no pointer leads to. -/
lemma spares_wakeLoop {curr : Option ω} (hq : q.links.Unlinked (some w)) (hcurr : curr ≠ some w)
    (h : q.wakeLoop autoremove rounds curr = some q') : Spares w q q' := by
  induction rounds generalizing q curr with
  | zero =>
    cases curr with
    | none =>
      cases h
      exact .refl w _
    | some v => cases h
  | succ rounds ih =>
    cases curr with
    | none =>
      cases h
      exact .refl w _
    | some v =>
      obtain ⟨next, hnext, h⟩ := Option.bind_eq_some_iff.mp h
      obtain ⟨q₁, hq₁, h⟩ := Option.bind_eq_some_iff.mp h
      have hv : v ≠ w := fun heq => hcurr (congrArg some heq)
      have hne : next ≠ some w := by
        rintro rfl
        exact (hq (some v) hcurr).1 hnext
      have hfirst := spares_wake hv hq₁
      have hrest := ih (hfirst.unlinked hq) hne h
      exact ⟨hrest.task.trans hfirst.task, fun hq => hrest.unlinked (hfirst.unlinked hq)⟩

lemma spares_wakeUp (hq : q.links.Unlinked (some w))
    (h : q.wakeUp autoremove rounds = some q') : Spares w q q' := by
  obtain ⟨first, hfirst, h⟩ := Option.bind_eq_some_iff.mp h
  refine spares_wakeLoop hq ?_ h
  rintro rfl
  exact (hq none (Option.some_ne_none w).symm).1 hfirst

/-- Where the queue is set up anew while one entry is on it, nothing leads to that entry. -/
lemma Ok.unlinked_initHead (h : q.Ok autoremove) (honly : q.Only w) :
    q.initHead.links.Unlinked (some w) := by
  obtain ⟨qs, hqs⟩ := h
  have hlist : q.links.Represents none (qs.map some) := by
    rcases hqs.list with hlist | ⟨-, hnone⟩
    · exact hlist
    · have hfirst := honly.1
      rw [hnone] at hfirst
      cases hfirst
  obtain rfl : qs = [w] := by
    have hfirst := honly.1
    have hlast := honly.2
    rw [hlist.next_head] at hfirst
    cases qs with
    | nil => cases hfirst
    | cons x qs =>
      obtain rfl : x = w := by simpa using hfirst
      have hwhole : q.links.Represents none ([] ++ some x :: qs.map some) := hlist
      rw [hwhole.next_mem] at hlast
      cases qs with
      | nil => rfl
      | cons y qs => cases hlast
  intro y hy
  cases y with
  | none =>
    have hhead : q.initHead.links.Link none none := q.links.link_initListHead none
    rw [hhead.1, hhead.2]
    exact ⟨mt Option.some_inj.mp hy, mt Option.some_inj.mp hy⟩
  | some v =>
    have hvw : some v ≠ some w := hy
    have hsame : q.initHead.links.next (some v) = q.links.next (some v) ∧
        q.initHead.links.prev (some v) = q.links.prev (some v) :=
      Links.initListHead_of_ne (Option.some_ne_none v)
    rw [hsame.1, hsame.2]
    rcases hqs.free v (by simpa using hvw) with ⟨hnext, hprev⟩ | ⟨-, hnext, hprev⟩
    · simpa [hnext, hprev] using hvw
    · simp [hnext, hprev]

end WaitQueue

end Devlib
