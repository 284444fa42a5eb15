import Mathlib.Data.List.Nodup
import Mathlib.Logic.Function.Basic
import Mathlib.Tactic.Common

/-!
# Circular doubly linked lists

Lists as the Linux kernel builds them, from next and previous pointers in every node and one
node as the head. A node that is taken out keeps its next pointer, for those who are still at
it, or is a list of its own, or has no pointers any more. `Represents l h xs` says that the list
with head `h` consists of the nodes `xs`, in order; `Unlinked l x` that no pointer leads to `x`.
-/

namespace Devlib

/-- The pointers of all nodes; `none` is NULL or a poison value. -/
structure Links (ν : Type) where
  next : ν → Option ν
  prev : ν → Option ν

namespace Links

variable {ν : Type}

/-- No node has been linked. -/
def null : Links ν := ⟨fun _ => none, fun _ => none⟩

/-- Neighbours that point to each other. -/
def Link (l : Links ν) (a b : ν) : Prop := l.next a = some b ∧ l.prev b = some a

/-- From `a` along `xs` to `b`. -/
def Segment (l : Links ν) : ν → List ν → ν → Prop
  | a, [], b => l.Link a b
  | a, x :: xs, b => l.Link a x ∧ Segment l x xs b

structure Represents (l : Links ν) (head : ν) (xs : List ν) : Prop where
  nodup : (head :: xs).Nodup
  segment : l.Segment head xs head

variable {l l' : Links ν} {a b x head : ν} {xs ys : List ν}

namespace Segment

lemma append : l.Segment a (xs ++ x :: ys) b ↔ l.Segment a xs x ∧ l.Segment x ys b := by
  induction xs generalizing a with
  | nil => rfl
  | cons y xs ih =>
    change l.Link a y ∧ l.Segment y (xs ++ x :: ys) b ↔
      (l.Link a y ∧ l.Segment y xs x) ∧ l.Segment x ys b
    rw [ih, and_assoc]

/-- A segment only depends on the pointers along it. -/
lemma congr (h : l.Segment a xs b) (hnext : ∀ y ∈ a :: xs, l'.next y = l.next y)
    (hprev : ∀ y ∈ xs ++ [b], l'.prev y = l.prev y) : l'.Segment a xs b := by
  induction xs generalizing a with
  | nil =>
    obtain ⟨hn, hp⟩ := h
    refine ⟨(hnext a List.mem_cons_self).trans hn, ?_⟩
    exact (hprev b (List.mem_singleton.mpr rfl)).trans hp
  | cons y xs ih =>
    obtain ⟨⟨hn, hp⟩, hrest⟩ := h
    refine ⟨⟨(hnext a List.mem_cons_self).trans hn, ?_⟩, ?_⟩
    · exact (hprev y List.mem_cons_self).trans hp
    · apply ih hrest
      · exact fun z hz => hnext z (List.mem_cons_of_mem a hz)
      · exact fun z hz => hprev z (List.mem_cons_of_mem y hz)

/-- The node before the end of a segment. -/
lemma prev_end (h : l.Segment a xs b) : ∃ p ∈ a :: xs, l.prev b = some p := by
  induction xs generalizing a with
  | nil => exact ⟨a, List.mem_cons_self, h.2⟩
  | cons y xs ih =>
    obtain ⟨p, hp, hprev⟩ := ih h.2
    exact ⟨p, List.mem_cons_of_mem a hp, hprev⟩

/-- The node behind the start of a segment. -/
lemma next_start (h : l.Segment a xs b) : ∃ n ∈ xs ++ [b], l.next a = some n := by
  cases xs with
  | nil => exact ⟨b, List.mem_singleton.mpr rfl, h.1⟩
  | cons y xs => exact ⟨y, List.mem_cons_self, h.1.1⟩

end Segment

namespace Represents

lemma head_notMem (h : l.Represents head xs) : head ∉ xs := (List.nodup_cons.mp h.nodup).1

/-- The list only depends on its own pointers. -/
lemma congr (h : l.Represents head xs)
    (hsame : ∀ y ∈ head :: xs, l'.next y = l.next y ∧ l'.prev y = l.prev y) :
    l'.Represents head xs := by
  refine ⟨h.nodup, h.segment.congr (fun y hy => (hsame y hy).1) fun y hy => (hsame y ?_).2⟩
  rcases List.mem_append.mp hy with hy | hy
  · exact List.mem_cons_of_mem head hy
  · exact List.mem_singleton.mp hy ▸ List.mem_cons_self

/-- Where the next pointers of the list lead. -/
lemma next_head (h : l.Represents head xs) : l.next head = some ((xs ++ [head]).head (by simp)) := by
  cases xs with
  | nil => exact h.segment.1
  | cons x xs => exact h.segment.1.1

lemma next_mem (h : l.Represents head (xs ++ x :: ys)) :
    l.next x = some ((ys ++ [head]).head (by simp)) := by
  have hback := (Segment.append.mp h.segment).2
  cases ys with
  | nil => exact hback.1
  | cons y ys => exact hback.1.1

end Represents

/-! ### Operations -/

variable [DecidableEq ν]

def initListHead (l : Links ν) (head : ν) : Links ν where
  next := Function.update l.next head (some head)
  prev := Function.update l.prev head (some head)

/-- `list_add_tail_rcu`; there is no result when a null pointer is followed. -/
def listAddTailRcu (l : Links ν) (new head : ν) : Option (Links ν) := do
  let prev ← l.prev head
  return {
    next := Function.update (Function.update l.next new (some head)) prev (some new)
    prev := Function.update (Function.update l.prev new (some prev)) head (some new) }

/-- `list_del_rcu`. -/
def listDelRcu (l : Links ν) (entry : ν) : Option (Links ν) := do
  let prev ← l.prev entry
  let next ← l.next entry
  return {
    next := Function.update l.next prev (some next)
    prev := Function.update (Function.update l.prev next (some prev)) entry none }

lemma link_initListHead (l : Links ν) (head : ν) : (l.initListHead head).Link head head :=
  ⟨Function.update_self .., Function.update_self ..⟩

lemma initListHead_of_ne (h : x ≠ head) :
    (l.initListHead head).next x = l.next x ∧ (l.initListHead head).prev x = l.prev x :=
  ⟨Function.update_of_ne h _ _, Function.update_of_ne h _ _⟩

/-- `list_add`. -/
def listAdd (l : Links ν) (new head : ν) : Option (Links ν) := do
  let next ← l.next head
  return {
    next := Function.update (Function.update l.next new (some next)) head (some new)
    prev := Function.update (Function.update l.prev next (some new)) new (some head) }

/-- `__list_del_entry`. -/
def listDelEntry (l : Links ν) (entry : ν) : Option (Links ν) := do
  let prev ← l.prev entry
  let next ← l.next entry
  return {
    next := Function.update l.next prev (some next)
    prev := Function.update l.prev next (some prev) }

def poison (l : Links ν) (entry : ν) : Links ν where
  next := Function.update l.next entry none
  prev := Function.update l.prev entry none

lemma poison_of_ne {entry : ν} (h : x ≠ entry) :
    (l.poison entry).next x = l.next x ∧ (l.poison entry).prev x = l.prev x :=
  ⟨Function.update_of_ne h _ _, Function.update_of_ne h _ _⟩

/-- `list_del`. -/
def listDel (l : Links ν) (entry : ν) : Option (Links ν) :=
  (l.listDelEntry entry).map fun l => l.poison entry

/-- `list_del_init`. -/
def listDelInit (l : Links ν) (entry : ν) : Option (Links ν) :=
  (l.listDelEntry entry).map fun l => l.initListHead entry

namespace Segment

/-- A new node between the last one and the end. -/
lemma addTail {p new : ν} (h : l.Segment a xs b) (hp : l.prev b = some p)
    (hnodup : (a :: xs).Nodup) (hb : b ∉ xs) (hnew : new ∉ a :: xs) (hne : new ≠ b)
    (hnext : l'.next = Function.update (Function.update l.next new (some b)) p (some new))
    (hprev : l'.prev = Function.update (Function.update l.prev new (some p)) b (some new)) :
    l'.Segment a (xs ++ [new]) b := by
  induction xs generalizing a with
  | nil =>
    obtain rfl : a = p := Option.some_inj.mp (h.2.symm.trans hp)
    have hna : new ≠ a := fun heq => hnew (heq ▸ List.mem_cons_self)
    refine ⟨⟨?_, ?_⟩, ?_, ?_⟩
    · rw [hnext, Function.update_self]
    · rw [hprev, Function.update_of_ne hne, Function.update_self]
    · rw [hnext, Function.update_of_ne hna, Function.update_self]
    · rw [hprev, Function.update_self]
  | cons y xs ih =>
    obtain ⟨⟨hn, hpy⟩, hrest⟩ := h
    obtain ⟨q, hq, hbq⟩ := hrest.prev_end
    obtain rfl : p = q := Option.some_inj.mp (hp.symm.trans hbq)
    have hap : a ≠ p := fun heq => (List.nodup_cons.mp hnodup).1 (heq ▸ hq)
    have hna : a ≠ new := fun heq => hnew (heq ▸ List.mem_cons_self)
    have hyb : y ≠ b := fun heq => hb (heq ▸ List.mem_cons_self)
    have hyn : y ≠ new := fun heq => hnew (heq ▸ List.mem_cons_of_mem a List.mem_cons_self)
    refine ⟨⟨?_, ?_⟩, ?_⟩
    · rw [hnext, Function.update_of_ne hap, Function.update_of_ne hna, hn]
    · rw [hprev, Function.update_of_ne hyb, Function.update_of_ne hyn, hpy]
    · apply ih hrest (List.nodup_cons.mp hnodup).2
      · exact fun hmem => hb (List.mem_cons_of_mem y hmem)
      · exact fun hmem => hnew (List.mem_cons_of_mem a hmem)

/-- The first node less. -/
lemma del_first {n : ν} (h : l.Segment a (x :: ys) b) (hn : l.next x = some n)
    (hnodup : (a :: x :: ys).Nodup) (hb : b ∉ x :: ys)
    (hnext : l'.next = Function.update l.next a (some n))
    (hprev : l'.prev = Function.update (Function.update l.prev n (some a)) x none) :
    l'.Segment a ys b := by
  obtain ⟨ha, hxys⟩ := List.nodup_cons.mp hnodup
  obtain ⟨hx, hys⟩ := List.nodup_cons.mp hxys
  have hxb : b ≠ x := fun heq => hb (heq ▸ List.mem_cons_self)
  cases ys with
  | nil =>
    obtain rfl : b = n := Option.some_inj.mp (h.2.1.symm.trans hn)
    refine ⟨?_, ?_⟩
    · rw [hnext, Function.update_self]
    · rw [hprev, Function.update_of_ne hxb, Function.update_self]
  | cons y ys =>
    obtain ⟨⟨hxy, -⟩, hseg⟩ := h.2
    obtain rfl : y = n := Option.some_inj.mp (hxy.symm.trans hn)
    have hyx : y ≠ x := fun heq => hx (heq ▸ List.mem_cons_self)
    refine ⟨⟨?_, ?_⟩, ?_⟩
    · rw [hnext, Function.update_self]
    · rw [hprev, Function.update_of_ne hyx, Function.update_self]
    · apply hseg.congr
      · intro z hz
        have hza : z ≠ a := fun heq => ha (heq ▸ List.mem_cons_of_mem x hz)
        rw [hnext, Function.update_of_ne hza]
      · intro z hz
        have hzx : z ≠ x := by
          rintro rfl
          rcases List.mem_append.mp hz with hz | hz
          · exact hx (List.mem_cons_of_mem y hz)
          · exact hxb (List.mem_singleton.mp hz).symm
        have hzy : z ≠ y := by
          rintro rfl
          rcases List.mem_append.mp hz with hz | hz
          · exact (List.nodup_cons.mp hys).1 hz
          · obtain rfl := List.mem_singleton.mp hz
            exact hb (List.mem_cons_of_mem x List.mem_cons_self)
        rw [hprev, Function.update_of_ne hzx, Function.update_of_ne hzy]

/-- A node less. -/
lemma del {p n : ν} (h : l.Segment a (xs ++ x :: ys) b) (hp : l.prev x = some p)
    (hn : l.next x = some n) (hnodup : (a :: (xs ++ x :: ys)).Nodup) (hb : b ∉ xs ++ x :: ys)
    (hnext : l'.next = Function.update l.next p (some n))
    (hprev : l'.prev = Function.update (Function.update l.prev n (some p)) x none) :
    l'.Segment a (xs ++ ys) b := by
  induction xs generalizing a with
  | nil =>
    obtain rfl : a = p := Option.some_inj.mp (h.1.2.symm.trans hp)
    exact h.del_first hn hnodup hb hnext hprev
  | cons y xs ih =>
    obtain ⟨⟨hny, hpy⟩, hrest⟩ := h
    obtain ⟨ha, htail⟩ := List.nodup_cons.mp hnodup
    obtain ⟨hy, hnodup'⟩ := List.nodup_cons.mp htail
    obtain ⟨hfront, hback⟩ := append.mp hrest
    obtain ⟨q, hq, hxq⟩ := hfront.prev_end
    obtain rfl : p = q := Option.some_inj.mp (hp.symm.trans hxq)
    obtain ⟨m, hm, hxm⟩ := hback.next_start
    obtain rfl : n = m := Option.some_inj.mp (hn.symm.trans hxm)
    have hap : a ≠ p := by
      rintro rfl
      apply ha
      rw [List.cons_append, ← List.cons_append]
      exact List.mem_append_left _ hq
    have hyx : y ≠ x := fun heq => hy (heq ▸ List.mem_append_right xs List.mem_cons_self)
    have hyn : y ≠ n := by
      rintro rfl
      rcases List.mem_append.mp hm with hm | hm
      · exact hy (List.mem_append_right xs (List.mem_cons_of_mem x hm))
      · obtain rfl := List.mem_singleton.mp hm
        exact hb List.mem_cons_self
    refine ⟨⟨?_, ?_⟩, ?_⟩
    · rw [hnext, Function.update_of_ne hap, hny]
    · rw [hprev, Function.update_of_ne hyx, Function.update_of_ne hyn, hpy]
    · exact ih hrest htail (fun hmem => hb (List.mem_cons_of_mem y hmem))

end Segment

namespace Represents

lemma init (l : Links ν) (head : ν) : (l.initListHead head).Represents head [] :=
  ⟨List.nodup_singleton head, l.link_initListHead head⟩

/-- A node that is not in the list is added at its end. -/
theorem listAddTailRcu {new : ν} (h : l.Represents head xs) (hnew : new ∉ head :: xs) :
    ∃ l', l.listAddTailRcu new head = some l' ∧ l'.Represents head (xs ++ [new]) ∧
      ∀ y, y ∉ new :: head :: xs → l'.next y = l.next y := by
  obtain ⟨p, hp, hprev⟩ := h.segment.prev_end
  have hne : new ≠ head := fun heq => hnew (heq ▸ List.mem_cons_self)
  refine ⟨_, congrArg (Option.bind · _) hprev, ⟨?_, ?_⟩, fun y hy => ?_⟩
  · rw [← List.cons_append]
    apply List.nodup_append.mpr
    refine ⟨h.nodup, List.nodup_singleton new, fun y hy z hz => ?_⟩
    rw [List.mem_singleton.mp hz]
    exact fun heq => hnew (heq ▸ hy)
  · exact h.segment.addTail hprev h.nodup h.head_notMem hnew hne rfl rfl
  · have hyp : y ≠ p := fun heq => hy (heq ▸ List.mem_cons_of_mem new hp)
    have hyn : y ≠ new := fun heq => hy (heq ▸ List.mem_cons_self)
    change Function.update (Function.update l.next new (some head)) p (some new) y = _
    rw [Function.update_of_ne hyp, Function.update_of_ne hyn]

/-- A node of the list is taken out of it; it keeps its next pointer, as do the nodes that
are not in the list. -/
theorem listDelRcu (h : l.Represents head xs) (hx : x ∈ xs) :
    ∃ l', l.listDelRcu x = some l' ∧ l'.Represents head (xs.erase x) ∧
      ∀ y, (y = x ∨ y ∉ head :: xs) → l'.next y = l.next y := by
  obtain ⟨front, back, rfl⟩ := List.append_of_mem hx
  obtain ⟨hfront, hback⟩ := Segment.append.mp h.segment
  obtain ⟨p, hp, hprev⟩ := hfront.prev_end
  obtain ⟨n, hn, hnext⟩ := hback.next_start
  have hnodup := h.nodup
  have hdisjoint : x ∉ head :: front := by
    rw [← List.cons_append] at hnodup
    exact fun hmem => (List.nodup_append.mp hnodup).2.2 x hmem x List.mem_cons_self rfl
  have herase : (front ++ x :: back).erase x = front ++ back := by
    rw [List.erase_append_right _ (fun hmem => hdisjoint (List.mem_cons_of_mem head hmem)),
      List.erase_cons_head]
  have hdel : l.listDelRcu x = some ⟨Function.update l.next p (some n),
      Function.update (Function.update l.prev n (some p)) x none⟩ := by
    unfold Links.listDelRcu
    rw [hprev, hnext]
    rfl
  refine ⟨_, hdel, ⟨?_, ?_⟩, fun y hy => ?_⟩
  · exact hnodup.sublist ((List.erase_sublist).cons_cons head)
  · rw [herase]
    exact h.segment.del hprev hnext h.nodup h.head_notMem rfl rfl
  · have hyp : y ≠ p := by
      rintro rfl
      rcases hy with rfl | hy
      · exact hdisjoint hp
      · apply hy
        rw [← List.cons_append]
        exact List.mem_append_left _ hp
    exact Function.update_of_ne hyp _ _

/-- A node that is not in the list is added in front. -/
theorem listAdd {new : ν} (h : l.Represents head xs) (hnew : new ∉ head :: xs) :
    ∃ l', l.listAdd new head = some l' ∧ l'.Represents head (new :: xs) ∧
      ∀ y, y ∉ new :: head :: xs → l'.next y = l.next y ∧ l'.prev y = l.prev y := by
  have hne : head ≠ new := fun heq => hnew (heq ▸ List.mem_cons_self)
  have hnodup : (head :: new :: xs).Nodup :=
    (List.Perm.swap new head xs).nodup_iff.mpr (List.nodup_cons.mpr ⟨hnew, h.nodup⟩)
  cases xs with
  | nil =>
    obtain ⟨hnext, hprev⟩ := h.segment
    refine ⟨_, congrArg (Option.bind · _) hnext, ⟨hnodup, ?_⟩, fun y hy => ?_⟩
    · refine ⟨⟨Function.update_self .., Function.update_self ..⟩, ?_, ?_⟩
      · exact (Function.update_of_ne hne.symm _ _).trans (Function.update_self ..)
      · exact (Function.update_of_ne hne _ _).trans (Function.update_self ..)
    · simp only [List.mem_cons, List.not_mem_nil, or_false, not_or] at hy
      exact ⟨by simp [hy.1, hy.2], by simp [hy.1, hy.2]⟩
  | cons x xs =>
    obtain ⟨⟨hnext, hprev⟩, hsegment⟩ := h.segment
    have hxnew : x ≠ new := by
      rintro rfl
      exact hnew (List.mem_cons_of_mem head List.mem_cons_self)
    obtain ⟨hhead, hx⟩ := List.nodup_cons.mp h.nodup
    refine ⟨_, congrArg (Option.bind · _) hnext, ⟨hnodup, ?_⟩, fun y hy => ?_⟩
    · refine ⟨⟨Function.update_self .., Function.update_self ..⟩, ⟨?_, ?_⟩, ?_⟩
      · exact (Function.update_of_ne hne.symm _ _).trans (Function.update_self ..)
      · exact (Function.update_of_ne hxnew _ _).trans (Function.update_self ..)
      · apply hsegment.congr
        · intro y hy
          have hyhead : y ≠ head := fun heq => hhead (heq ▸ hy)
          have hynew : y ≠ new := fun heq => hnew (List.mem_cons_of_mem head (heq ▸ hy))
          simp [hyhead, hynew]
        · intro y hy
          have hynew : y ≠ new := by
            rintro rfl
            rcases List.mem_append.mp hy with hy | hy
            · exact hnew (List.mem_cons_of_mem head (List.mem_cons_of_mem x hy))
            · exact hne (List.mem_singleton.mp hy).symm
          have hyx : y ≠ x := by
            rintro rfl
            rcases List.mem_append.mp hy with hy | hy
            · exact (List.nodup_cons.mp hx).1 hy
            · exact hhead (List.mem_singleton.mp hy ▸ List.mem_cons_self)
          simp [hynew, hyx]
    · simp only [List.mem_cons, not_or] at hy
      exact ⟨by simp [hy.1, hy.2.1], by simp [hy.1, hy.2.2.1]⟩

/-- A node of the list is taken out of it, whatever becomes of its own pointers. -/
theorem listDelEntry (h : l.Represents head (xs ++ x :: ys)) :
    ∃ l₁, l.listDelEntry x = some l₁ ∧
      (∀ y ∉ head :: (xs ++ x :: ys), l₁.next y = l.next y ∧ l₁.prev y = l.prev y) ∧
      ∀ l' : Links ν, (∀ y ≠ x, l'.next y = l₁.next y ∧ l'.prev y = l₁.prev y) →
        l'.Represents head (xs ++ ys) := by
  obtain ⟨hfront, hback⟩ := Segment.append.mp h.segment
  obtain ⟨p, hp, hprev⟩ := hfront.prev_end
  obtain ⟨n, hn, hnext⟩ := hback.next_start
  have hdisjoint : x ∉ head :: (xs ++ ys) := by
    have hnodup := h.nodup
    rw [← List.cons_append, List.nodup_middle, List.cons_append] at hnodup
    exact (List.nodup_cons.mp hnodup).1
  have hnodup : (head :: (xs ++ ys)).Nodup :=
    h.nodup.sublist (((List.sublist_cons_self x ys).append_left xs).cons_cons head)
  have hdel : Segment ⟨Function.update l.next p (some n),
      Function.update (Function.update l.prev n (some p)) x none⟩ head (xs ++ ys) head :=
    h.segment.del hprev hnext h.nodup h.head_notMem rfl rfl
  refine ⟨⟨Function.update l.next p (some n), Function.update l.prev n (some p)⟩, ?_,
    fun y hy => ⟨Function.update_of_ne ?_ _ _, Function.update_of_ne ?_ _ _⟩,
    fun l' hl' => congr ⟨hnodup, hdel⟩ fun y hy => ?_⟩
  · unfold Links.listDelEntry
    rw [hprev, hnext]
    rfl
  · rintro rfl
    apply hy
    rw [← List.cons_append]
    exact List.mem_append_left _ hp
  · rintro rfl
    apply hy
    rcases List.mem_append.mp hn with hn | hn
    · exact List.mem_cons_of_mem head (List.mem_append_right xs (List.mem_cons_of_mem x hn))
    · exact List.mem_singleton.mp hn ▸ List.mem_cons_self
  · have hyx : y ≠ x := fun heq => hdisjoint (heq ▸ hy)
    exact ⟨(hl' y hyx).1, (hl' y hyx).2.trans (Function.update_of_ne hyx _ _).symm⟩

end Represents

lemma initListHead_self (h : l.Link x x) : l.initListHead x = l := by
  unfold initListHead
  rw [← h.1, Function.update_eq_self, h.1, ← h.2, Function.update_eq_self]

/-- Taking out a node that is a list of its own changes nothing. -/
lemma listDelEntry_self (h : l.Link x x) : l.listDelEntry x = some l := by
  unfold listDelEntry
  rw [h.1, h.2]
  exact congrArg some (initListHead_self h)

/-! ### Nodes that no pointer leads to -/

def Unlinked (l : Links ν) (x : ν) : Prop := ∀ y ≠ x, l.next y ≠ some x ∧ l.prev y ≠ some x

namespace Unlinked

lemma update (h : l.Unlinked x) {y z : ν} {p q : Option ν} (hp : p ≠ some x) (hq : q ≠ some x) :
    Unlinked ⟨Function.update l.next y p, Function.update l.prev z q⟩ x := by
  intro w hw
  constructor
  · by_cases hwy : w = y
    · subst hwy
      exact (Function.update_self ..).trans_ne hp
    · exact (Function.update_of_ne hwy _ _).trans_ne (h w hw).1
  · by_cases hwz : w = z
    · subst hwz
      exact (Function.update_self ..).trans_ne hq
    · exact (Function.update_of_ne hwz _ _).trans_ne (h w hw).2

lemma initListHead (h : l.Unlinked x) (hx : head ≠ x) : (l.initListHead head).Unlinked x :=
  h.update (mt Option.some_inj.mp hx) (mt Option.some_inj.mp hx)

lemma listAdd {new : ν} (h : l.Unlinked x) (hnew : new ≠ x) (hhead : head ≠ x)
    (hl' : l.listAdd new head = some l') : l'.Unlinked x := by
  obtain ⟨next, hnext, hl'⟩ := Option.bind_eq_some_iff.mp hl'
  cases hl'
  have hsome : some next ≠ some x := hnext ▸ (h head hhead).1
  have hfirst := h.update (y := new) (z := next) hsome (mt Option.some_inj.mp hnew)
  exact hfirst.update (mt Option.some_inj.mp hnew) (mt Option.some_inj.mp hhead)

lemma listDelEntry {entry : ν} (h : l.Unlinked x) (hentry : entry ≠ x)
    (hl' : l.listDelEntry entry = some l') : l'.Unlinked x := by
  obtain ⟨prev, hprev, hl'⟩ := Option.bind_eq_some_iff.mp hl'
  obtain ⟨next, hnext, hl'⟩ := Option.bind_eq_some_iff.mp hl'
  cases hl'
  exact h.update (hnext ▸ (h entry hentry).1) (hprev ▸ (h entry hentry).2)

lemma listDel {entry : ν} (h : l.Unlinked x) (hentry : entry ≠ x)
    (hl' : l.listDel entry = some l') : l'.Unlinked x := by
  obtain ⟨l₁, hl₁, rfl⟩ := Option.map_eq_some_iff.mp hl'
  exact (h.listDelEntry hentry hl₁).update (Option.some_ne_none x).symm (Option.some_ne_none x).symm

lemma listDelInit {entry : ν} (h : l.Unlinked x) (hentry : entry ≠ x)
    (hl' : l.listDelInit entry = some l') : l'.Unlinked x := by
  obtain ⟨l₁, hl₁, rfl⟩ := Option.map_eq_some_iff.mp hl'
  exact (h.listDelEntry hentry hl₁).initListHead hentry

end Unlinked

end Links

end Devlib
