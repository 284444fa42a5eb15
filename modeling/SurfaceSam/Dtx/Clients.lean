import SurfaceSam.Devlib.Machine
import SurfaceSam.Devlib.Memory
import SurfaceSam.Dtx.Device

/-!
# Clients of the detachment device

Open files, calls that push events to all of them, and calls that read from one. A push
walks the client list without the lock that opening and releasing a file take: its loop and
every operation on a ring are steps of their own.
-/

namespace SurfaceSam

open Devlib

/-- A call of `surface_dtx_push_event`. The loop is at the node `cursor`, and over at the list
head; `delivered` tells whether its body has been run there. `start` is for specifications. -/
structure PushCall where
  event : SurfaceDtxEvent
  start : ℕ
  cursor : DtxNode
  delivered : Bool

/-- Where a read is: at its start, at "check availability", in its wait, behind it, in the loop
with `read` bytes copied, or at its end. -/
inductive ReadStage where
  | entered
  | checking
  | waiting
  | woken
  | copying (read : ℕ)
  | returned (status : ℤ)
  deriving DecidableEq, Repr

def ReadStage.isReturned : ReadStage → Bool
  | returned _ => true
  | _ => false

/-- A call of `surface_dtx_read`; `buf` is the memory of the user from the given address on. -/
structure ReadCall where
  client : ℕ
  count : ℕ
  nonblock : Bool
  stage : ReadStage
  buf : Memory UInt8

/-- The device with its open files, in the order they have been opened. For specifications,
`clock` counts the opens, releases and pushes, and `log` holds the operations on a ring, with
the calls that pushed. -/
structure DtxSystem where
  dev : SurfaceDtxDev
  clients : List ℕ
  nextClient : ℕ
  ring : ℕ → DtxRing
  freed : ℕ → Bool
  pushes : ℕ → Option PushCall
  nextPush : ℕ
  reads : ℕ → Option ReadCall
  nextRead : ℕ
  clock : ℕ
  openedAt : ℕ → ℕ
  closedAt : ℕ → Option ℕ
  log : ℕ → List (QueueOp (ℕ × SurfaceDtxEvent))

inductive DtxAction where
  | open (kzalloc : Bool)
  | release (c : ℕ)
  | free (c : ℕ)
  | push (event : SurfaceDtxEvent)
  | pushStep (p : ℕ)
  | read (c count : ℕ) (nonblock : Bool) (buf : Memory UInt8)
  | readStep (r : ℕ) (interrupted : ℤ) (copied : Bool)
  | probe (env : SurfaceDtxDev.ProbeEnv)
  | remove

namespace DtxSystem

/-- The buffer of a client that `kzalloc` has returned. -/
def zeroRing : DtxRing := ⟨0, 0, fun _ => ⟨0, 0, 0, 0⟩⟩

def static : DtxSystem where
  dev := .static
  clients := []
  nextClient := 0
  ring := fun _ => zeroRing
  freed := fun _ => false
  pushes := fun _ => none
  nextPush := 0
  reads := fun _ => none
  nextRead := 0
  clock := 0
  openedAt := fun _ => 0
  closedAt := fun _ => none
  log := fun _ => []

/-! ### Opening and releasing files -/

def surfaceDtxOpen (kzalloc : Bool) (s : DtxSystem) : Option (ℤ × DtxSystem) :=
  if !kzalloc then some (-enomem, s)
  else do
    let client := s.nextClient
    -- attach client
    let clientList ← s.dev.clientList.listAddTailRcu (some client) none
    return (0, { s with
      dev := { s.dev with clientList := clientList }
      clients := s.clients ++ [client]
      nextClient := client + 1
      ring := Function.update s.ring client zeroRing
      clock := s.clock + 1
      openedAt := Function.update s.openedAt client s.clock
      log := Function.update s.log client [] })

/-- Up to `synchronize_rcu`. -/
def surfaceDtxRelease (client : ℕ) (s : DtxSystem) : Option DtxSystem := do
  -- detach client
  let clientList ← s.dev.clientList.listDelRcu (some client)
  return { s with
    dev := { s.dev with clientList := clientList }
    clients := s.clients.erase client
    clock := s.clock + 1
    closedAt := Function.update s.closedAt client (some s.clock) }

/-- The call is still in its loop, and has begun before the time given. -/
def isReader (s : DtxSystem) (time p : ℕ) : Bool :=
  (s.pushes p).any fun call => call.cursor.isSome && decide (call.start ≤ time)

/-- The rest of `surface_dtx_release`: `synchronize_rcu` waits for every loop that has begun
before the client was detached. -/
def kfreeClient (client : ℕ) (s : DtxSystem) : Option DtxSystem := do
  let time ← s.closedAt client
  if s.freed client || (List.range s.nextPush).any (s.isReader time) then none
  else some { s with freed := Function.update s.freed client true }

/-! ### Pushing events -/

def surfaceDtxPushEvent (event : SurfaceDtxEvent) (s : DtxSystem) : Option DtxSystem := do
  let first ← s.dev.clientList.next none
  return { s with
    pushes := Function.update s.pushes s.nextPush (some ⟨event, s.clock, first, false⟩)
    nextPush := s.nextPush + 1
    clock := s.clock + 1 }

/-- The loop body under `buffer_lock`. -/
def pushBuffer (p client : ℕ) (event : SurfaceDtxEvent) (s : DtxSystem) : DtxSystem :=
  { s with
    ring := Function.update s.ring client ((s.ring client).push event)
    log := Function.update s.log client (s.log client ++ [.push (p, event)]) }

/-- The loop body, or the step to the next client. -/
def pushStep (p : ℕ) (s : DtxSystem) : Option DtxSystem := do
  let call ← s.pushes p
  let client ← call.cursor
  if call.delivered then
    let next ← s.dev.clientList.next (some client)
    return { s with
      pushes := Function.update s.pushes p (some { call with cursor := next, delivered := false }) }
  else
    return { s.pushBuffer p client call.event with
      pushes := Function.update s.pushes p (some { call with delivered := true }) }

/-! ### Reading events -/

/-- The call gets to another stage. -/
def setRead (r : ℕ) (call : ReadCall) (s : DtxSystem) : DtxSystem :=
  { s with reads := Function.update s.reads r (some call) }

/-- "get one event" under `buffer_lock`. -/
def popBuffer (client : ℕ) (s : DtxSystem) : DtxSystem :=
  { s with
    ring := Function.update s.ring client (s.ring client).pop
    log := Function.update s.log client (s.log client ++ [.pop]) }

/-- `interrupted` is the status of an interrupted wait, 0 if it is not; `copied` tells whether
the copy to the user succeeds. It always goes to the address given. -/
def readStep (r : ℕ) (interrupted : ℤ) (copied : Bool) (s : DtxSystem) : Option DtxSystem := do
  let call ← s.reads r
  let ring := s.ring call.client
  match call.stage with
  | .entered =>
    if call.count ≠ 0 ∧ call.count < 4 then
      return s.setRead r { call with stage := .returned (-einval) }
    else if !s.dev.active then return s.setRead r { call with stage := .returned (-enodev) }
    else return s.setRead r { call with stage := .checking }
  | .checking =>
    if ring.isEmpty then
      if call.nonblock then return s.setRead r { call with stage := .returned (-eagain) }
      else return s.setRead r { call with stage := .waiting }
    else return s.setRead r { call with stage := .copying 0 }
  | .waiting =>
    if !ring.isEmpty || !s.dev.active then return s.setRead r { call with stage := .woken }
    else if interrupted ≠ 0 then return s.setRead r { call with stage := .returned interrupted }
    else none
  | .woken =>
    if !s.dev.active then return s.setRead r { call with stage := .returned (-enodev) }
    else return s.setRead r { call with stage := .copying 0 }
  | .copying read =>
    if read + 4 ≤ call.count then
      if ring.isEmpty then return s.setRead r { call with stage := .returned read }
      else
        let s := s.popBuffer call.client
        -- copy to userspace
        if copied then
          return s.setRead r { call with
            stage := .copying (read + 4), buf := call.buf.memcpy 0 ring.front.bytes }
        else return s.setRead r { call with stage := .returned (-efault) }
    else return s.setRead r { call with stage := .returned read }
  | .returned _ => none

/-- A read of the client is under way. -/
def isReading (s : DtxSystem) (client r : ℕ) : Bool :=
  (s.reads r).any fun call => call.client == client && !call.stage.isReturned

/-- Files can be opened while the misc device is registered, and are released when no call
uses them any more. -/
def step (s : DtxSystem) : DtxAction → Option DtxSystem
  | .open kzalloc => if s.dev.mdev then (s.surfaceDtxOpen kzalloc).map Prod.snd else none
  | .release c =>
    if c ∈ s.clients ∧ (List.range s.nextRead).any (s.isReading c) = false then
      s.surfaceDtxRelease c
    else none
  | .free c => s.kfreeClient c
  | .push event => s.surfaceDtxPushEvent event
  | .pushStep p => s.pushStep p
  | .read c count nonblock buf =>
    if c ∈ s.clients then some { s.setRead s.nextRead ⟨c, count, nonblock, .entered, buf⟩ with
      nextRead := s.nextRead + 1 }
    else none
  | .readStep r interrupted copied => s.readStep r interrupted copied
  | .probe env => some { s with dev := (s.dev.surfaceSamDtxProbe env).2 }
  | .remove => some { s with dev := s.dev.surfaceSamDtxRemove }

/-! ### What the steps do -/

variable {s t : DtxSystem}

lemma open_cases {kzalloc : Bool} (h : s.step (.open kzalloc) = some t) :
    t = s ∨ ∃ clientList,
      s.dev.clientList.listAddTailRcu (some s.nextClient) none = some clientList ∧ t = { s with
        dev := { s.dev with clientList := clientList }
        clients := s.clients ++ [s.nextClient]
        nextClient := s.nextClient + 1
        ring := Function.update s.ring s.nextClient zeroRing
        clock := s.clock + 1
        openedAt := Function.update s.openedAt s.nextClient s.clock
        log := Function.update s.log s.nextClient [] } := by
  simp only [step] at h
  split_ifs at h
  obtain ⟨r, hr, rfl⟩ := Option.map_eq_some_iff.mp h
  unfold surfaceDtxOpen at hr
  split_ifs at hr
  · cases hr
    exact .inl rfl
  · obtain ⟨clientList, hadd, hr⟩ := Option.bind_eq_some_iff.mp hr
    cases hr
    exact .inr ⟨clientList, hadd, rfl⟩

lemma release_cases {c : ℕ} (h : s.step (.release c) = some t) :
    c ∈ s.clients ∧ ∃ clientList, s.dev.clientList.listDelRcu (some c) = some clientList ∧
      t = { s with
        dev := { s.dev with clientList := clientList }
        clients := s.clients.erase c
        clock := s.clock + 1
        closedAt := Function.update s.closedAt c (some s.clock) } := by
  simp only [step] at h
  split_ifs at h with hguard
  obtain ⟨clientList, hdel, h⟩ := Option.bind_eq_some_iff.mp h
  cases h
  exact ⟨hguard.1, clientList, hdel, rfl⟩

lemma read_cases {c count : ℕ} {nonblock : Bool} {buf : Memory UInt8}
    (h : s.step (.read c count nonblock buf) = some t) :
    c ∈ s.clients ∧ t = { s.setRead s.nextRead ⟨c, count, nonblock, .entered, buf⟩ with
      nextRead := s.nextRead + 1 } := by
  simp only [step] at h
  split_ifs at h with hc
  cases h
  exact ⟨hc, rfl⟩

lemma surfaceDtxPushEvent_eq {event : SurfaceDtxEvent}
    (h : s.surfaceDtxPushEvent event = some t) :
    ∃ first, s.dev.clientList.next none = some first ∧ t = { s with
      pushes := Function.update s.pushes s.nextPush (some ⟨event, s.clock, first, false⟩)
      nextPush := s.nextPush + 1
      clock := s.clock + 1 } := by
  obtain ⟨first, hfirst, heq⟩ := Option.bind_eq_some_iff.mp h
  cases heq
  exact ⟨first, hfirst, rfl⟩

/-- A step of a push: to the next client, or onto the ring of this one. -/
lemma pushStep_cases {p : ℕ} (h : s.pushStep p = some t) :
    ∃ call client, s.pushes p = some call ∧ call.cursor = some client ∧
      ((call.delivered = true ∧ ∃ next, s.dev.clientList.next (some client) = some next ∧
        t = { s with
          pushes := Function.update s.pushes p
            (some { call with cursor := next, delivered := false }) }) ∨
      (call.delivered = false ∧ t = { s.pushBuffer p client call.event with
        pushes := Function.update s.pushes p (some { call with delivered := true }) })) := by
  obtain ⟨call, hcall, h⟩ := Option.bind_eq_some_iff.mp h
  obtain ⟨client, hclient, h⟩ := Option.bind_eq_some_iff.mp h
  refine ⟨call, client, hcall, hclient, ?_⟩
  split_ifs at h with hdelivered
  · obtain ⟨next, hnext, h⟩ := Option.bind_eq_some_iff.mp h
    cases h
    exact .inl ⟨hdelivered, next, hnext, rfl⟩
  · cases h
    exact .inr ⟨Bool.eq_false_iff.mpr hdelivered, rfl⟩

/-- A step of a read, with the stage it gets to and whether it takes an event from the ring. -/
inductive ReadMove (active isEmpty : Bool) (interrupted : ℤ) (copied : Bool) (call : ReadCall) :
    Bool → ReadStage → Prop
  | tooSmall (stage : call.stage = .entered) (count : call.count ≠ 0 ∧ call.count < 4) :
    ReadMove active isEmpty interrupted copied call false (.returned (-einval))
  | inactive (stage : call.stage = .entered) (unbound : active = false) :
    ReadMove active isEmpty interrupted copied call false (.returned (-enodev))
  | enters (stage : call.stage = .entered) (count : ¬(call.count ≠ 0 ∧ call.count < 4))
    (bound : active = true) : ReadMove active isEmpty interrupted copied call false .checking
  | again (stage : call.stage = .checking) (empty : isEmpty = true)
    (nonblock : call.nonblock = true) :
    ReadMove active isEmpty interrupted copied call false (.returned (-eagain))
  | waits (stage : call.stage = .checking) (empty : isEmpty = true)
    (blocking : call.nonblock = false) :
    ReadMove active isEmpty interrupted copied call false .waiting
  | available (stage : call.stage = .checking) (nonempty : isEmpty = false) :
    ReadMove active isEmpty interrupted copied call false (.copying 0)
  | wakes (stage : call.stage = .waiting) (ready : isEmpty = false ∨ active = false) :
    ReadMove active isEmpty interrupted copied call false .woken
  | interrupted (stage : call.stage = .waiting) (nonzero : interrupted ≠ 0) :
    ReadMove active isEmpty interrupted copied call false (.returned interrupted)
  | removed (stage : call.stage = .woken) (unbound : active = false) :
    ReadMove active isEmpty interrupted copied call false (.returned (-enodev))
  | resumes (stage : call.stage = .woken) (bound : active = true) :
    ReadMove active isEmpty interrupted copied call false (.copying 0)
  | full {read : ℕ} (stage : call.stage = .copying read) (full : call.count < read + 4) :
    ReadMove active isEmpty interrupted copied call false (.returned read)
  | drained {read : ℕ} (stage : call.stage = .copying read) (empty : isEmpty = true) :
    ReadMove active isEmpty interrupted copied call false (.returned read)
  | copies {read : ℕ} (stage : call.stage = .copying read) (fits : read + 4 ≤ call.count)
    (nonempty : isEmpty = false) (success : copied = true) :
    ReadMove active isEmpty interrupted copied call true (.copying (read + 4))
  | faults {read : ℕ} (stage : call.stage = .copying read) (fits : read + 4 ≤ call.count)
    (nonempty : isEmpty = false) (failed : copied = false) :
    ReadMove active isEmpty interrupted copied call true (.returned (-efault))

lemma ReadMove.nonempty {active isEmpty copied : Bool} {interrupted : ℤ} {call : ReadCall}
    {stage : ReadStage} (h : ReadMove active isEmpty interrupted copied call true stage) :
    isEmpty = false := by
  cases h with
  | copies _ _ hnonempty _ => exact hnonempty
  | faults _ _ hnonempty _ => exact hnonempty

/-- What a step of a read is; but for its own stage and buffer, it can only take an event. -/
lemma readStep_move {r : ℕ} {interrupted : ℤ} {copied : Bool}
    (h : s.readStep r interrupted copied = some t) :
    ∃ call popped stage buf, s.reads r = some call ∧
      ReadMove s.dev.active (s.ring call.client).isEmpty interrupted copied call popped stage ∧
      t = (if popped then s.popBuffer call.client else s).setRead r
        { call with stage := stage, buf := buf } := by
  obtain ⟨call, hcall, h⟩ := Option.bind_eq_some_iff.mp h
  have hset {stage : ReadStage}
      (hmove : ReadMove s.dev.active (s.ring call.client).isEmpty interrupted copied call false stage)
      (ht : some (s.setRead r { call with stage := stage }) = some t) :
      ∃ call popped stage buf, s.reads r = some call ∧
        ReadMove s.dev.active (s.ring call.client).isEmpty interrupted copied call popped stage ∧
        t = (if popped then s.popBuffer call.client else s).setRead r
          { call with stage := stage, buf := buf } :=
    ⟨call, false, stage, call.buf, hcall, hmove, (Option.some_inj.mp ht).symm⟩
  dsimp only at h
  split at h
  · rename_i hstage
    split_ifs at h with hcount hactive
    · exact hset (.tooSmall hstage hcount) h
    · exact hset (.inactive hstage (by simpa using hactive)) h
    · exact hset (.enters hstage hcount (by simpa using hactive)) h
  · rename_i hstage
    split_ifs at h with hempty hnonblock
    · exact hset (.again hstage hempty hnonblock) h
    · exact hset (.waits hstage hempty (Bool.eq_false_iff.mpr hnonblock)) h
    · exact hset (.available hstage (Bool.eq_false_iff.mpr hempty)) h
  · rename_i hstage
    split_ifs at h with hready hinterrupted
    · exact hset (.wakes hstage (by simpa using hready)) h
    · exact hset (.interrupted hstage hinterrupted) h
  · rename_i hstage
    split_ifs at h with hactive
    · exact hset (.removed hstage (by simpa using hactive)) h
    · exact hset (.resumes hstage (by simpa using hactive)) h
  · rename_i read hstage
    split_ifs at h with hfits hempty hcopied
    · exact hset (.drained hstage hempty) h
    · exact ⟨call, true, _, _, hcall, .copies hstage hfits (Bool.eq_false_iff.mpr hempty) hcopied,
        (Option.some_inj.mp h).symm⟩
    · exact ⟨call, true, _, call.buf, hcall,
        .faults hstage hfits (Bool.eq_false_iff.mpr hempty) (Bool.eq_false_iff.mpr hcopied),
        (Option.some_inj.mp h).symm⟩
    · exact hset (.full hstage (Nat.lt_of_not_le hfits)) h
  · cases h

/-- The loop of a read ends. -/
lemma readStep_ends {r k : ℕ} {interrupted : ℤ} {copied : Bool} {call : ReadCall}
    (hcall : s.reads r = some call) (hstage : call.stage = .copying k)
    (hend : call.count < k + 4 ∨ (s.ring call.client).isEmpty = true) :
    s.readStep r interrupted copied =
      some (s.setRead r { call with stage := .returned k }) := by
  simp only [readStep, hcall, Option.bind_eq_bind, Option.bind_some, hstage]
  by_cases hfit : k + 4 ≤ call.count
  · rw [if_pos hfit, if_pos (hend.resolve_left (Nat.not_lt_of_le hfit))]
    rfl
  · rw [if_neg hfit]
    rfl

/-- A step of a read leaves the ring alone, or takes one event from it. -/
lemma readStep_cases {r : ℕ} {interrupted : ℤ} {copied : Bool}
    (h : s.readStep r interrupted copied = some t) :
    ∃ call call', s.reads r = some call ∧ call'.client = call.client ∧
      (t = s.setRead r call' ∨ (s.ring call.client).isEmpty = false ∧
        t = (s.popBuffer call.client).setRead r call') := by
  obtain ⟨call, popped, stage, buf, hcall, hmove, rfl⟩ := readStep_move h
  refine ⟨call, { call with stage := stage, buf := buf }, hcall, rfl, ?_⟩
  cases popped with
  | false => exact .inl rfl
  | true => exact .inr ⟨hmove.nonempty, rfl⟩

lemma kfreeClient_cases {c : ℕ} (h : s.kfreeClient c = some t) :
    ∃ time, s.closedAt c = some time ∧ (∀ p < s.nextPush, s.isReader time p = false) ∧
      t = { s with freed := Function.update s.freed c true } := by
  obtain ⟨time, htime, h⟩ := Option.bind_eq_some_iff.mp h
  split_ifs at h with hguard
  cases h
  rw [Bool.or_eq_true, not_or, List.any_eq_true] at hguard
  refine ⟨time, htime, fun p hp => ?_, rfl⟩
  by_contra hreader
  exact hguard.2 ⟨p, List.mem_range.mpr hp, Bool.of_not_eq_false hreader⟩

/-- What a step does to files, pushes and rings. -/
inductive Change (s : DtxSystem) : DtxAction → DtxSystem → Prop
  | quiet {a : DtxAction} (dev : SurfaceDtxDev) (reads : ℕ → Option ReadCall) (nextRead : ℕ) :
    Change s a { s with dev := dev, reads := reads, nextRead := nextRead }
  | opened {kzalloc : Bool} (clientList : Links DtxNode) : Change s (.open kzalloc) { s with
      dev := { s.dev with clientList := clientList }
      clients := s.clients ++ [s.nextClient]
      nextClient := s.nextClient + 1
      ring := Function.update s.ring s.nextClient zeroRing
      clock := s.clock + 1
      openedAt := Function.update s.openedAt s.nextClient s.clock
      log := Function.update s.log s.nextClient [] }
  | released {c : ℕ} (mem : c ∈ s.clients) (clientList : Links DtxNode) :
    Change s (.release c) { s with
      dev := { s.dev with clientList := clientList }
      clients := s.clients.erase c
      clock := s.clock + 1
      closedAt := Function.update s.closedAt c (some s.clock) }
  | freed {c time : ℕ} (closed : s.closedAt c = some time)
    (readers : ∀ p < s.nextPush, s.isReader time p = false) :
    Change s (.free c) { s with freed := Function.update s.freed c true }
  | begun {event : SurfaceDtxEvent} {first : DtxNode}
    (next : s.dev.clientList.next none = some first) : Change s (.push event) { s with
      pushes := Function.update s.pushes s.nextPush (some ⟨event, s.clock, first, false⟩)
      nextPush := s.nextPush + 1
      clock := s.clock + 1 }
  | advanced {p c : ℕ} {call : PushCall} {node : DtxNode} (pushes : s.pushes p = some call)
    (cursor : call.cursor = some c) (delivered : call.delivered = true)
    (next : s.dev.clientList.next (some c) = some node) : Change s (.pushStep p) { s with
      pushes := Function.update s.pushes p (some { call with cursor := node, delivered := false }) }
  | delivered {p c : ℕ} {call : PushCall} (pushes : s.pushes p = some call)
    (cursor : call.cursor = some c) (undelivered : call.delivered = false) :
    Change s (.pushStep p) { s.pushBuffer p c call.event with
      pushes := Function.update s.pushes p (some { call with delivered := true }) }
  | popped {r : ℕ} {interrupted : ℤ} {copied : Bool} {call : ReadCall} (call' : ReadCall)
    (reads : s.reads r = some call) (nonempty : (s.ring call.client).isEmpty = false) :
    Change s (.readStep r interrupted copied) ((s.popBuffer call.client).setRead r call')

lemma step_change {a : DtxAction} (h : s.step a = some t) : Change s a t := by
  cases a with
  | «open» kzalloc =>
    obtain rfl | ⟨clientList, -, rfl⟩ := open_cases h
    · exact .quiet t.dev t.reads t.nextRead
    · exact .opened clientList
  | release c =>
    obtain ⟨hc, clientList, -, rfl⟩ := release_cases h
    exact .released hc clientList
  | free c =>
    obtain ⟨time, htime, hreaders, rfl⟩ := kfreeClient_cases h
    exact .freed htime hreaders
  | push event =>
    obtain ⟨first, hfirst, rfl⟩ := surfaceDtxPushEvent_eq h
    exact .begun hfirst
  | pushStep p =>
    obtain ⟨call, c, hcall, hc, ⟨hdelivered, node, hnext, rfl⟩ | ⟨hundelivered, rfl⟩⟩ :=
      pushStep_cases h
    · exact .advanced hcall hc hdelivered hnext
    · exact .delivered hcall hc hundelivered
  | read c count nonblock buf =>
    obtain ⟨-, rfl⟩ := read_cases h
    exact .quiet s.dev _ (s.nextRead + 1)
  | readStep r interrupted copied =>
    obtain ⟨call, call', hcall, -, rfl | ⟨hnonempty, rfl⟩⟩ := readStep_cases h
    · exact .quiet s.dev _ s.nextRead
    · exact .popped call' hcall hnonempty
  | probe env =>
    cases h
    exact .quiet _ s.reads s.nextRead
  | remove =>
    cases h
    exact .quiet _ s.reads s.nextRead

end DtxSystem

/-- The action begins a read, or is a step of one. -/
def DtxAction.isRead : DtxAction → Bool
  | .read .. => true
  | .readStep .. => true
  | _ => false

namespace DtxSystem

variable {s t : DtxSystem}

lemma nextClient_le {a : DtxAction} (h : s.step a = some t) : s.nextClient ≤ t.nextClient := by
  cases step_change h with
  | opened _ => exact Nat.le_succ _
  | _ => exact Nat.le_refl _

/-- Nothing else changes the reads. -/
lemma reads_same {a : DtxAction} (h : s.step a = some t) (ha : a.isRead = false) :
    t.reads = s.reads ∧ t.nextRead = s.nextRead := by
  cases a with
  | «open» kzalloc =>
    obtain rfl | ⟨clientList, -, rfl⟩ := open_cases h
    · exact ⟨rfl, rfl⟩
    · exact ⟨rfl, rfl⟩
  | release c =>
    obtain ⟨-, clientList, -, rfl⟩ := release_cases h
    exact ⟨rfl, rfl⟩
  | free c =>
    obtain ⟨time, -, -, rfl⟩ := kfreeClient_cases h
    exact ⟨rfl, rfl⟩
  | push event =>
    obtain ⟨first, -, rfl⟩ := surfaceDtxPushEvent_eq h
    exact ⟨rfl, rfl⟩
  | pushStep p =>
    obtain ⟨call, c, -, -, ⟨-, node, -, rfl⟩ | ⟨-, rfl⟩⟩ := pushStep_cases h
    · exact ⟨rfl, rfl⟩
    · exact ⟨rfl, rfl⟩
  | read c count nonblock buf => cases ha
  | readStep r interrupted copied => cases ha
  | probe env =>
    cases h
    exact ⟨rfl, rfl⟩
  | remove =>
    cases h
    exact ⟨rfl, rfl⟩

/-- How a read has come to where it is after a step. -/
inductive ReadChange (s t : DtxSystem) (r : ℕ) (call' : ReadCall) : DtxAction → Prop
  | kept {a : DtxAction} (reads : s.reads r = some call')
    (other : ∀ interrupted copied, a ≠ .readStep r interrupted copied) : ReadChange s t r call' a
  | begun {c count : ℕ} {nonblock : Bool} {buf : Memory UInt8} (mem : c ∈ s.clients)
    (new : r = s.nextRead) (result : call' = ⟨c, count, nonblock, .entered, buf⟩) :
    ReadChange s t r call' (.read c count nonblock buf)
  | moved {interrupted : ℤ} {copied popped : Bool} {call : ReadCall} {stage : ReadStage}
    {buf : Memory UInt8} (reads : s.reads r = some call)
    (move : ReadMove s.dev.active (s.ring call.client).isEmpty interrupted copied call popped stage)
    (result : call' = { call with stage := stage, buf := buf })
    (ring : popped = false → t.ring = s.ring) :
    ReadChange s t r call' (.readStep r interrupted copied)

lemma readChange {a : DtxAction} {r : ℕ} {call' : ReadCall} (h : s.step a = some t)
    (hcall' : t.reads r = some call') : ReadChange s t r call' a := by
  cases ha : a.isRead with
  | false =>
    refine .kept ((reads_same h ha).1 ▸ hcall') ?_
    rintro interrupted copied rfl
    cases ha
  | true =>
    cases a with
    | read c count nonblock buf =>
      obtain ⟨hc, rfl⟩ := read_cases h
      by_cases hr : r = s.nextRead
      · subst hr
        exact .begun hc rfl (Option.some_inj.mp (hcall'.symm.trans (Function.update_self ..)))
      · refine .kept ((Function.update_of_ne hr _ _).symm.trans hcall') ?_
        intro interrupted copied heq
        cases heq
    | readStep r' interrupted copied =>
      obtain ⟨call, popped, stage, buf, hcall, hmove, rfl⟩ := readStep_move h
      by_cases hr : r = r'
      · subst hr
        refine .moved hcall hmove
          (Option.some_inj.mp (hcall'.symm.trans (Function.update_self ..))) ?_
        rintro rfl
        rfl
      · have hsame : (if popped then s.popBuffer call.client else s).reads = s.reads := by
          cases popped with
          | false => rfl
          | true => rfl
        refine .kept (hsame ▸ (Function.update_of_ne hr _ _).symm.trans hcall') ?_
        intro interrupted' copied' heq
        cases heq
        exact hr rfl
    | _ => cases ha

/-- A read that takes a step has not returned. -/
lemma ReadMove.not_returned {active isEmpty copied popped : Bool} {interrupted : ℤ}
    {call : ReadCall} {stage : ReadStage}
    (h : ReadMove active isEmpty interrupted copied call popped stage) :
    call.stage.isReturned = false := by
  cases h <;> simp_all [ReadStage.isReturned]

end DtxSystem

end SurfaceSam
