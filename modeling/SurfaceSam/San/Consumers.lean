import SurfaceSam.Ec.Device

/-!
# Consumers of the SAN device

Devices that ACPI declares as consumers are linked to the SAN device, so that they are
suspended before it. The links are created one by one from a list, in which entries may be
optional, and kept in an array.
-/

namespace SurfaceSam

open Devlib

/-- `AE_NOT_FOUND`. -/
def aeNotFound : ℕ := 0x0005

/-- `DL_FLAG_STATELESS`. -/
def dlFlagStateless : UInt32 := 0x01

structure SanAcpiConsumer where
  path : String
  required : Bool
  flags : UInt32

structure SanConsumerLink where
  properties : SanAcpiConsumer
  link : ℕ

def SanConsumerLink.isStateless (link : SanConsumerLink) : Bool :=
  link.properties.flags &&& dlFlagStateless != 0

/-- `links` is the number of the array among all allocations. -/
structure SanConsumers where
  num : UInt32
  links : KPtr

/-- What the functions return that are called for an entry; `deviceLinkAdd` is the link that is
created. -/
structure LinkOutcome where
  acpiGetHandle : ℕ
  acpiBusGetDevice : ℤ
  deviceLinkAdd : KPtr

/-- The array of links, with the number of them it has been allocated for. -/
structure LinkArray where
  capacity : ℕ
  links : List SanConsumerLink

/-- Allocations with the arrays of links among them, and the device links that have been added
and deleted. -/
structure SanLinks where
  ledger : Ledger
  arrays : ℕ → LinkArray
  added : List ℕ
  deleted : List ℕ

namespace SanLinks

def deviceLinkDel (w : SanLinks) (link : ℕ) : SanLinks := { w with deleted := w.deleted ++ [link] }

/-- The loops that delete stateless links. -/
def deleteStateless (w : SanLinks) (links : List SanConsumerLink) : SanLinks :=
  links.foldl (fun w link => if link.isStateless then w.deviceLinkDel link.link else w) w

section Link

-- what happens in each round of the loop, depending on the entry
variable (env : ℕ → SanAcpiConsumer → LinkOutcome)

/-- "create links", from round `i` on. -/
def createLinks : ℕ → List SanAcpiConsumer → List SanConsumerLink → ℤ × List SanConsumerLink
  | _, [], links => (0, links)
  | i, con :: cons, links =>
    let o := env i con
    if o.acpiGetHandle ≠ 0 then
      if con.required ∨ o.acpiGetHandle ≠ aeNotFound then (-enxio, links)
      else createLinks (i + 1) cons links
    else if o.acpiBusGetDevice ≠ 0 then (o.acpiBusGetDevice, links)
    else match o.deviceLinkAdd with
      | none => (-efault, links)
      | some link => createLinks (i + 1) cons (links ++ [⟨con, link⟩])

/-- At its end the array is not freed. -/
def cleanup (links : List SanConsumerLink) (w : SanLinks) : SanLinks := w.deleteStateless links.reverse

def sanConsumersLink (kzalloc : Bool) (cons : Option (List SanAcpiConsumer)) (out : SanConsumers)
    (w : SanLinks) : ℤ × SanConsumers × SanLinks :=
  match cons with
  | none => (0, out, w)
  | some cons =>
    -- count links
    let maxLinks := UInt32.ofNat cons.length
    if !kzalloc then (-enomem, out, w)
    else
      let (array, ledger) := w.ledger.alloc
      let (status, links) := createLinks env 0 cons []
      let w := { w with
        ledger := ledger
        arrays := Function.update w.arrays array ⟨maxLinks.toNat, links⟩
        added := w.added ++ links.map SanConsumerLink.link }
      if status ≠ 0 then (status, out, w.cleanup links)
      else (0, ⟨UInt32.ofNat links.length, some array⟩, w)

end Link

/-- The links of an array, none for a null pointer. -/
def linksAt (w : SanLinks) : KPtr → List SanConsumerLink
  | none => []
  | some array => (w.arrays array).links

def sanConsumersUnlink (consumers : SanConsumers) (w : SanLinks) : SanConsumers × SanLinks :=
  let w := w.deleteStateless ((w.linksAt consumers.links).take consumers.num.toNat)
  (⟨0, none⟩, { w with ledger := w.ledger.releasePtr consumers.links })

/-! ### Deleting links -/

/-- The device links of those that are stateless. -/
def stateless (links : List SanConsumerLink) : List ℕ :=
  (links.filter SanConsumerLink.isStateless).map SanConsumerLink.link

lemma deleteStateless_eq (w : SanLinks) (links : List SanConsumerLink) :
    w.deleteStateless links = { w with deleted := w.deleted ++ stateless links } := by
  unfold deleteStateless stateless
  induction links generalizing w with
  | nil => simp
  | cons link links ih =>
    rw [List.foldl_cons, ih, List.filter_cons]
    cases link.isStateless with
    | false => rfl
    | true => simp [deviceLinkDel]

lemma stateless_reverse (links : List SanConsumerLink) :
    (stateless links.reverse).Perm (stateless links) := by
  unfold stateless
  rw [List.filter_reverse, List.map_reverse]
  exact List.reverse_perm _

/-! ### Creating links -/

section Create

variable (env : ℕ → SanAcpiConsumer → LinkOutcome)

/-- The link of an entry whose device exists. -/
def foundLink (entry : SanAcpiConsumer × ℕ) : Option SanConsumerLink :=
  let o := env entry.2 entry.1
  if o.acpiGetHandle = 0 then o.deviceLinkAdd.map (fun link => ⟨entry.1, link⟩) else none

/-- The links of the entries whose devices exist, in order. -/
def foundLinks (cons : List SanAcpiConsumer) : List SanConsumerLink :=
  cons.zipIdx.filterMap (foundLink env)

/-- An entry that cannot be linked and is not skipped either. -/
def linkFails (entry : SanAcpiConsumer × ℕ) : Bool :=
  let o := env entry.2 entry.1
  if o.acpiGetHandle = 0 then o.acpiBusGetDevice != 0 || o.deviceLinkAdd.isNone
  else entry.1.required || o.acpiGetHandle != aeNotFound

/-- No entry fails. -/
def allLink (cons : List SanAcpiConsumer) : Bool := cons.zipIdx.all fun entry => !linkFails env entry

variable {env}

/-- A round that does not fail adds the link of its entry, if there is one. -/
lemma createLinks_cons {i : ℕ} {con : SanAcpiConsumer} {cons : List SanAcpiConsumer}
    {links : List SanConsumerLink} (h : linkFails env (con, i) = false) :
    createLinks env i (con :: cons) links =
      createLinks env (i + 1) cons (links ++ (foundLink env (con, i)).toList) := by
  unfold linkFails at h
  unfold foundLink
  rw [createLinks]
  dsimp only at h ⊢
  by_cases hhandle : (env i con).acpiGetHandle = 0
  · rw [if_pos hhandle, Bool.or_eq_false_iff] at h
    obtain ⟨hdevice, hlink⟩ := h
    rw [if_neg (not_not.mpr hhandle), if_pos hhandle, if_neg (by simpa using hdevice)]
    cases hadd : (env i con).deviceLinkAdd with
    | none =>
      rw [hadd] at hlink
      cases hlink
    | some link => rfl
  · rw [if_neg hhandle, Bool.or_eq_false_iff] at h
    obtain ⟨hrequired, hfound⟩ := h
    rw [if_pos hhandle, if_neg hhandle, if_neg (by simpa [hrequired] using hfound)]
    simp

/-- A round that fails ends the loop. -/
lemma createLinks_cons_fails {i : ℕ} {con : SanAcpiConsumer} {cons : List SanAcpiConsumer}
    {links : List SanConsumerLink} (h : linkFails env (con, i) = true) :
    ∃ status, status ≠ 0 ∧ createLinks env i (con :: cons) links = (status, links) := by
  unfold linkFails at h
  rw [createLinks]
  dsimp only at h ⊢
  by_cases hhandle : (env i con).acpiGetHandle = 0
  · rw [if_pos hhandle] at h
    rw [if_neg (not_not.mpr hhandle)]
    by_cases hdevice : (env i con).acpiBusGetDevice = 0
    · rw [if_neg (not_not.mpr hdevice)]
      cases hadd : (env i con).deviceLinkAdd with
      | none => exact ⟨-efault, by simp, rfl⟩
      | some link => simp [hdevice, hadd] at h
    · rw [if_pos hdevice]
      exact ⟨_, hdevice, rfl⟩
  · rw [if_neg hhandle] at h
    rw [if_pos hhandle, if_pos (by simpa using h)]
    exact ⟨-enxio, by simp, rfl⟩

lemma createLinks_eq {i : ℕ} {cons : List SanAcpiConsumer} {links : List SanConsumerLink}
    (h : (cons.zipIdx i).all (fun entry => !linkFails env entry) = true) :
    createLinks env i cons links = (0, links ++ (cons.zipIdx i).filterMap (foundLink env)) := by
  induction cons generalizing i links with
  | nil => simp [createLinks]
  | cons con cons ih =>
    rw [List.zipIdx_cons, List.all_cons, Bool.and_eq_true, Bool.not_eq_true'] at h
    rw [createLinks_cons h.1, ih h.2, List.zipIdx_cons, List.filterMap_cons]
    cases foundLink env (con, i) with
    | none => simp
    | some link => simp

/-- The first entry that fails ends the loop, with the links of the entries before it. -/
lemma createLinks_fails {i : ℕ} {cons : List SanAcpiConsumer} {links : List SanConsumerLink}
    (h : (cons.zipIdx i).all (fun entry => !linkFails env entry) = false) :
    ∃ status first, status ≠ 0 ∧ first <+: cons ∧ createLinks env i cons links =
      (status, links ++ (first.zipIdx i).filterMap (foundLink env)) := by
  induction cons generalizing i links with
  | nil => cases h
  | cons con cons ih =>
    rw [List.zipIdx_cons, List.all_cons, Bool.and_eq_false_iff] at h
    cases hfails : linkFails env (con, i) with
    | true =>
      obtain ⟨status, hne, heq⟩ : ∃ status, status ≠ 0 ∧
          createLinks env i (con :: cons) links = (status, links) := createLinks_cons_fails hfails
      exact ⟨status, [], hne, List.nil_prefix, heq.trans (by simp)⟩
    | false =>
      rw [hfails] at h
      rw [createLinks_cons hfails]
      obtain ⟨status, first, hne, hfirst, heq⟩ := ih (h.resolve_left nofun)
      refine ⟨status, con :: first, hne, List.cons_prefix_cons.mpr ⟨rfl, hfirst⟩, heq.trans ?_⟩
      rw [List.zipIdx_cons, List.filterMap_cons]
      cases foundLink env (con, i) with
      | none => simp
      | some link => simp

end Create

/-! ### All or nothing -/

variable {env : ℕ → SanAcpiConsumer → LinkOutcome} {kzalloc : Bool} {cons : List SanAcpiConsumer}
  {out : SanConsumers} {w : SanLinks} {owned : List ℕ}

/-- The consumers hold the given links, in an array that is large enough and has been allocated
since; unlinking them deletes the stateless links, each once, and frees the array. -/
structure Holds (w : SanLinks) (owned : List ℕ) (links : List SanConsumerLink)
    (consumers : SanConsumers) (w' : SanLinks) : Prop where
  array : ∃ array, consumers.links = some array ∧ (w'.arrays array).links = links ∧
    links.length ≤ (w'.arrays array).capacity
  num : consumers.num.toNat = links.length
  added : w'.added = w.added ++ links.map SanConsumerLink.link
  kept : w'.deleted = w.deleted
  deletes : (sanConsumersUnlink consumers w').2.deleted = w.deleted ++ stateless links
  frees : (sanConsumersUnlink consumers w').2.ledger.Owns owned

/-- The links of the first entries, up to one of them, have been added since; the stateless ones
among them have been deleted, each once, and no others. -/
def Deletes (env : ℕ → SanAcpiConsumer → LinkOutcome) (cons : List SanAcpiConsumer)
    (w w' : SanLinks) : Prop :=
  ∃ first, first <+: cons ∧
    w'.added = w.added ++ (foundLinks env first).map SanConsumerLink.link ∧
    ∃ deleted, w'.deleted = w.deleted ++ deleted ∧ deleted.Perm (stateless (foundLinks env first))

/-- What linking is to do: everything, or nothing that is left behind. `owned` are the
allocations before. -/
structure AllOrNothing (env : ℕ → SanAcpiConsumer → LinkOutcome) (cons : List SanAcpiConsumer)
    (out : SanConsumers) (w : SanLinks) (owned : List ℕ) (r : ℤ × SanConsumers × SanLinks) :
    Prop where
  all : r.1 = 0 → Holds w owned (foundLinks env cons) r.2.1 r.2.2
  nothing : r.1 ≠ 0 → r.2.1 = out ∧ Deletes env cons w r.2.2 ∧ r.2.2.ledger.Owns owned

/-- How a call ends: without an array, with all links, or after `cleanup`. -/
inductive LinkResult (env : ℕ → SanAcpiConsumer → LinkOutcome) (kzalloc : Bool)
    (cons : List SanAcpiConsumer) (out : SanConsumers) (w : SanLinks) :
    ℤ × SanConsumers × SanLinks → Prop
  | unallocated (alloc : kzalloc = false) : LinkResult env kzalloc cons out w (-enomem, out, w)
  | linked (alloc : kzalloc = true) (all : allLink env cons = true) :
    LinkResult env kzalloc cons out w
      (0, ⟨UInt32.ofNat (foundLinks env cons).length, some w.ledger.next⟩, { w with
        ledger := w.ledger.alloc.2
        arrays := Function.update w.arrays w.ledger.next
          ⟨(UInt32.ofNat cons.length).toNat, foundLinks env cons⟩
        added := w.added ++ (foundLinks env cons).map SanConsumerLink.link })
  | failed (alloc : kzalloc = true) (fails : allLink env cons = false) {status : ℤ}
    (nonzero : status ≠ 0) (first : List SanAcpiConsumer) (part : first <+: cons) :
    LinkResult env kzalloc cons out w (status, out, { w with
      ledger := w.ledger.alloc.2
      arrays := Function.update w.arrays w.ledger.next
        ⟨(UInt32.ofNat cons.length).toNat, foundLinks env first⟩
      added := w.added ++ (foundLinks env first).map SanConsumerLink.link
      deleted := w.deleted ++ stateless (foundLinks env first).reverse })

lemma sanConsumersLink_result : LinkResult env kzalloc cons out w
    (sanConsumersLink env kzalloc (some cons) out w) := by
  unfold sanConsumersLink
  cases halloc : kzalloc with
  | false => exact .unallocated rfl
  | true =>
    dsimp only [Bool.not_true]
    rw [if_neg nofun]
    cases hall : allLink env cons with
    | true =>
      have hlinks : createLinks env 0 cons [] = (0, foundLinks env cons) := createLinks_eq hall
      rw [hlinks]
      exact .linked rfl hall
    | false =>
      obtain ⟨status, first, hne, hfirst, hlinks⟩ :
          ∃ status first, status ≠ 0 ∧ first <+: cons ∧
            createLinks env 0 cons [] = (status, foundLinks env first) := createLinks_fails hall
      rw [hlinks]
      simp only [if_pos hne, cleanup, deleteStateless_eq]
      exact .failed rfl hall hne first hfirst

/-- An allocation that is owned next to others is not released. -/
lemma not_owns_of_owns_cons {l : Ledger} {a : ℕ} (h : l.Owns (a :: owned)) : ¬l.Owns owned := by
  intro howned
  have hcons := h a
  rw [List.count_cons_self] at hcons
  have hrest := howned a
  omega

variable {r : ℤ × SanConsumers × SanLinks}

/-- Whatever fails, the links that have been created are gone. -/
lemma LinkResult.deletes (h : LinkResult env kzalloc cons out w r) (hne : r.1 ≠ 0) :
    r.2.1 = out ∧ Deletes env cons w r.2.2 := by
  cases h with
  | unallocated _ =>
    exact ⟨rfl, [], List.nil_prefix, (List.append_nil _).symm, [], (List.append_nil _).symm, .nil⟩
  | linked _ _ => exact absurd rfl hne
  | failed _ _ _ first hfirst => exact ⟨rfl, first, hfirst, rfl, _, rfl, stateless_reverse _⟩

lemma Deletes.subset {w' : SanLinks} (h : Deletes env cons w w') : ∃ added deleted,
    w'.added = w.added ++ added ∧ w'.deleted = w.deleted ++ deleted ∧ deleted ⊆ added := by
  obtain ⟨first, -, hadded, deleted, hdeleted, hperm⟩ := h
  refine ⟨_, deleted, hadded, hdeleted, fun link hlink => ?_⟩
  exact List.map_subset _ (List.filter_subset_self _) (hperm.subset hlink)

/-- Nothing is released by linking. -/
lemma LinkResult.released (h : LinkResult env kzalloc cons out w r) :
    r.2.2.ledger.released = w.ledger.released := by
  cases h with
  | unallocated _ => rfl
  | linked _ _ => rfl
  | failed _ _ _ _ _ => rfl

/-- The array holds the links as long as their number has been counted right. -/
lemma Holds.linked (howned : w.ledger.Owns owned) (links : List SanConsumerLink) {capacity : ℕ}
    (hlt : links.length < UInt32.size) (hle : links.length ≤ capacity) :
    Holds w owned links ⟨UInt32.ofNat links.length, some w.ledger.next⟩ { w with
      ledger := w.ledger.alloc.2
      arrays := Function.update w.arrays w.ledger.next ⟨capacity, links⟩
      added := w.added ++ links.map SanConsumerLink.link } := by
  have hnum : (UInt32.ofNat links.length).toNat = links.length := UInt32.toNat_ofNat_of_lt' hlt
  refine ⟨⟨_, rfl, ?_, ?_⟩, hnum, rfl, rfl, ?_, ?_⟩
  · dsimp only
    rw [Function.update_self]
  · dsimp only
    rw [Function.update_self]
    exact hle
  · unfold sanConsumersUnlink linksAt
    rw [deleteStateless_eq]
    dsimp only
    rw [Function.update_self, hnum, List.take_length]
  · unfold sanConsumersUnlink
    rw [deleteStateless_eq]
    exact (howned.alloc).release

lemma LinkResult.allOrNothing_iff (h : LinkResult env kzalloc cons out w r)
    (howned : w.ledger.Owns owned) : AllOrNothing env cons out w owned r ↔
      kzalloc = false ∨ allLink env cons = true ∧
        (foundLinks env cons).length ≤ cons.length % UInt32.size := by
  have hdeletes := h.deletes
  cases h with
  | unallocated halloc =>
    refine iff_of_true ⟨nofun, fun hne => ?_⟩ (.inl halloc)
    exact ⟨(hdeletes hne).1, (hdeletes hne).2, howned⟩
  | linked halloc hall =>
    have hcapacity : (UInt32.ofNat cons.length).toNat = cons.length % UInt32.size :=
      UInt32.toNat_ofNat'
    constructor
    · intro hok
      obtain ⟨_, harray, -, hle⟩ := (hok.all rfl).array
      cases harray
      dsimp only at hle
      rw [Function.update_self] at hle
      exact .inr ⟨hall, Nat.le_trans hle (Nat.le_of_eq hcapacity)⟩
    · rintro (hfail | ⟨-, hle⟩)
      · rw [halloc] at hfail
        cases hfail
      · have hlt := Nat.lt_of_le_of_lt hle (Nat.mod_lt _ (by decide))
        have hfits := Nat.le_trans hle (Nat.le_of_eq hcapacity.symm)
        exact ⟨fun _ => .linked howned _ hlt hfits, fun hne => absurd rfl hne⟩
  | failed halloc hfails hne _ _ =>
    refine iff_of_false (fun hok => ?_) ?_
    · exact not_owns_of_owns_cons howned.alloc (hok.nothing hne).2.2
    · rintro (hfail | ⟨hall, -⟩)
      · rw [halloc] at hfail
        cases hfail
      · rw [hfails] at hall
        cases hall

end SanLinks

open SanLinks

/-- Linking consumers is all or nothing exactly if it does not get to `cleanup`, which leaves the
array allocated, and the entries do not wrap the 32-bit number of links. -/
theorem sanConsumersLink_allOrNothing_iff (env : ℕ → SanAcpiConsumer → LinkOutcome)
    (kzalloc : Bool) (cons : List SanAcpiConsumer) (out : SanConsumers) (w : SanLinks)
    (owned : List ℕ) (howned : w.ledger.Owns owned) :
    AllOrNothing env cons out w owned (sanConsumersLink env kzalloc (some cons) out w) ↔
      kzalloc = false ∨ allLink env cons = true ∧
        (foundLinks env cons).length ≤ cons.length % 2 ^ 32 :=
  sanConsumersLink_result.allOrNothing_iff howned

/-- `DL_FLAG_PM_RUNTIME`. -/
def dlFlagPmRuntime : UInt32 := 0x04

def sanMshw0091Consumers : List SanAcpiConsumer :=
  [⟨"\\_SB.SRTC", true, dlFlagPmRuntime ||| dlFlagStateless⟩,
    ⟨"\\ADP1", true, dlFlagPmRuntime ||| dlFlagStateless⟩,
    ⟨"\\_SB.BAT1", true, dlFlagPmRuntime ||| dlFlagStateless⟩,
    ⟨"\\_SB.BAT2", false, dlFlagPmRuntime ||| dlFlagStateless⟩]

/-- Everything exists, except for the device of round `missing`. -/
def missingDevice (missing i : ℕ) (_ : SanAcpiConsumer) : LinkOutcome :=
  ⟨if i = missing then aeNotFound else 0, 0, some i⟩

/-- Before anything has been allocated. -/
def SanLinks.empty : SanLinks := ⟨.empty, fun _ => ⟨0, []⟩, [], []⟩

/-- The second battery is optional. -/
theorem sanConsumersLink_allOrNothing_iff_battery :
    AllOrNothing (missingDevice 3) sanMshw0091Consumers ⟨0, none⟩ SanLinks.empty []
      (sanConsumersLink (missingDevice 3) true (some sanMshw0091Consumers) ⟨0, none⟩ SanLinks.empty) :=
  (sanConsumersLink_allOrNothing_iff (missingDevice 3) true sanMshw0091Consumers ⟨0, none⟩
    SanLinks.empty [] Ledger.owns_empty).mpr (.inr ⟨by decide, by decide⟩)

/-- The adapter is not. The link to the clock is deleted when it is missing, but the array stays
allocated. -/
theorem sanConsumersLink_leaks :
    let r := sanConsumersLink (missingDevice 1) true (some sanMshw0091Consumers) ⟨0, none⟩
      SanLinks.empty
    r.1 = -enxio ∧ r.2.2.deleted = [0] ∧ r.2.2.ledger.next = 1 ∧ r.2.2.ledger.released 0 = 0 ∧
      ¬AllOrNothing (missingDevice 1) sanMshw0091Consumers ⟨0, none⟩ SanLinks.empty [] r := by
  intro r
  have hnext : r.2.2.ledger.next = 1 := rfl
  have hreleased : r.2.2.ledger.released 0 = 0 := rfl
  refine ⟨rfl, rfl, hnext, hreleased, fun hok => ?_⟩
  have howns := (hok.nothing (by decide)).2.2
  have hone := howns.all_released (r := 0) (by decide)
  rw [hreleased] at hone
  cases hone

end SurfaceSam
