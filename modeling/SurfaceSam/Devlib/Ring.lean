import Mathlib.Algebra.Group.Nat.Defs
import Mathlib.Data.List.DropRight
import Mathlib.Logic.Function.Basic
import Mathlib.Tactic.Common

/-!
# Ring buffers that drop the oldest

A ring of `2 ^ k` slots with masked indices, where equal indices mean that nothing is
pending; one that runs full moves its reader on by one. It refines a queue of the `2 ^ k - 1`
newest elements.
-/

namespace Devlib

variable {k : ℕ} {α : Type}

/-! ### Bounded queues -/

/-- Operations on a queue. -/
inductive QueueOp (α : Type) where
  | push (a : α)
  | pop

namespace BoundedQueue

/-- The newest `cap` elements are kept. -/
def push (cap : ℕ) (q : List α) (a : α) : List α := (q ++ [a]).rtake cap

def apply (cap : ℕ) (q : List α) : QueueOp α → List α
  | .push a => push cap q a
  | .pop => q.tail

def run (cap : ℕ) (ops : List (QueueOp α)) : List α := ops.foldl (apply cap) []

/-- What has been pushed, in order. -/
def pushed (ops : List (QueueOp α)) : List α := ops.filterMap fun
  | .push a => some a
  | .pop => none

variable {cap : ℕ} {q : List α} {ops : List (QueueOp α)}

lemma run_concat (op : QueueOp α) : run cap (ops ++ [op]) = apply cap (run cap ops) op := by
  unfold run
  rw [List.foldl_append]
  rfl

lemma length_push (a : α) : (push cap q a).length = min cap (q.length + 1) := by
  unfold push List.rtake
  rw [List.length_drop, List.length_append, List.length_singleton]
  omega

/-- While there is room, nothing is dropped. -/
lemma push_of_lt (a : α) (h : q.length < cap) : push cap q a = q ++ [a] := by
  unfold push List.rtake
  rw [List.length_append, List.length_singleton, Nat.sub_eq_zero_of_le h, List.drop_zero]

/-- On overrun exactly the oldest is dropped. -/
lemma push_of_eq (a : α) (h : q.length = cap) (hcap : 0 < cap) : push cap q a = q.tail ++ [a] := by
  unfold push List.rtake
  rw [List.length_append, List.length_singleton, h, Nat.add_sub_cancel_left, List.drop_one]
  apply List.tail_append_of_ne_nil
  intro hnil
  rw [hnil] at h
  exact hcap.ne h

lemma map_push {β : Type} (f : α → β) (a : α) :
    (push cap q a).map f = push cap (q.map f) (f a) := by
  unfold push List.rtake
  rw [List.map_drop, List.map_append, List.map_singleton, List.length_append, List.length_append,
    List.length_map, List.length_singleton, List.length_singleton]

lemma length_run_le : (run cap ops).length ≤ cap := by
  induction ops using List.reverseRecOn with
  | nil => exact Nat.zero_le cap
  | append_singleton ops op ih =>
    rw [run_concat]
    cases op with
    | push a =>
      change (push cap _ a).length ≤ cap
      rw [length_push]
      exact Nat.min_le_left _ _
    | pop =>
      change (run cap ops).tail.length ≤ cap
      rw [List.length_tail]
      exact Nat.le_trans (Nat.sub_le _ _) ih

/-- What is in the queue is the newest part of what has been pushed, in order. -/
lemma run_suffix : run cap ops <:+ pushed ops := by
  induction ops using List.reverseRecOn with
  | nil => exact List.suffix_rfl
  | append_singleton ops op ih =>
    have hpushed : pushed (ops ++ [op]) = pushed ops ++ pushed [op] := List.filterMap_append
    rw [run_concat, hpushed]
    cases op with
    | push a =>
      have hsuffix : run cap ops ++ [a] <:+ pushed ops ++ [a] := by
        obtain ⟨front, hfront⟩ := ih
        exact ⟨front, by rw [← List.append_assoc, hfront]⟩
      exact (List.drop_suffix _ _).trans hsuffix
    | pop =>
      have hnil : pushed [QueueOp.pop (α := α)] = [] := rfl
      rw [hnil, List.append_nil]
      exact (List.tail_suffix _).trans ih

end BoundedQueue

/-! ### Rings -/

structure Ring (k : ℕ) (α : Type) where
  head : ℕ
  tail : ℕ
  buffer : ℕ → α

namespace Ring

/-- The index after `i`. -/
def next (k i : ℕ) : ℕ := (i + 1) &&& (2 ^ k - 1)

def push (r : Ring k α) (a : α) : Ring k α :=
  let head := next k r.head
  { head := head
    tail := if head = r.tail then next k r.tail else r.tail
    buffer := Function.update r.buffer r.head a }

def isEmpty (r : Ring k α) : Bool := r.head == r.tail

def front (r : Ring k α) : α := r.buffer r.tail

def pop (r : Ring k α) : Ring k α := { r with tail := next k r.tail }

structure Valid (r : Ring k α) : Prop where
  head_lt : r.head < 2 ^ k
  tail_lt : r.tail < 2 ^ k

def count (r : Ring k α) : ℕ := (r.head + 2 ^ k - r.tail) % 2 ^ k

/-- The slot of the `i`th pending element. -/
def slot (r : Ring k α) (i : ℕ) : ℕ := (r.tail + i) % 2 ^ k

/-- What is pending, the oldest first. -/
def toList (r : Ring k α) : List α := (List.range r.count).map fun i => r.buffer (r.slot i)

lemma mod_of_lt {n i : ℕ} (h : i < 2 * n) : i % n = if i < n then i else i - n := by
  split_ifs with hi
  · exact Nat.mod_eq_of_lt hi
  · rw [Nat.mod_eq_sub_mod (by omega), Nat.mod_eq_of_lt (by omega)]

lemma next_eq (k i : ℕ) : next k i = (i + 1) % 2 ^ k := Nat.and_two_pow_sub_one_eq_mod _ _

lemma next_lt (k i : ℕ) : next k i < 2 ^ k := by
  rw [next_eq]
  exact Nat.mod_lt _ (Nat.two_pow_pos k)

section Valid

variable {r : Ring k α}

lemma valid_push (h : r.Valid) (a : α) : (r.push a).Valid := by
  refine ⟨next_lt k _, ?_⟩
  unfold push
  dsimp only
  split_ifs
  · exact next_lt k _
  · exact h.tail_lt

lemma valid_pop (h : r.Valid) : r.pop.Valid := ⟨h.head_lt, next_lt k _⟩

lemma length_toList : r.toList.length = r.count := by
  unfold toList
  rw [List.length_map, List.length_range]

lemma count_lt (r : Ring k α) : r.count < 2 ^ k := Nat.mod_lt _ (Nat.two_pow_pos k)

lemma count_eq (h : r.Valid) :
    r.count = if r.tail ≤ r.head then r.head - r.tail else r.head + 2 ^ k - r.tail := by
  obtain ⟨hhead, htail⟩ := h
  unfold count
  rw [mod_of_lt (by omega)]
  split_ifs <;> omega

lemma count_eq_zero (h : r.Valid) : r.count = 0 ↔ r.head = r.tail := by
  obtain ⟨hhead, htail⟩ := h
  rw [count_eq ⟨hhead, htail⟩]
  split_ifs <;> omega

/-- Equal indices mean exactly that nothing is pending. -/
lemma toList_eq_nil (h : r.Valid) : r.toList = [] ↔ r.head = r.tail := by
  rw [← count_eq_zero h, ← length_toList, List.length_eq_zero_iff]

/-- The slot behind the last pending element is the one written next. -/
lemma slot_count (h : r.Valid) : r.slot r.count = r.head := by
  obtain ⟨hhead, htail⟩ := h
  unfold slot
  rw [count_eq ⟨hhead, htail⟩, mod_of_lt (by split_ifs <;> omega)]
  split_ifs <;> omega

lemma slot_ne_head (h : r.Valid) {i : ℕ} (hi : i < r.count) : r.slot i ≠ r.head := by
  obtain ⟨hhead, htail⟩ := h
  rw [count_eq ⟨hhead, htail⟩] at hi
  unfold slot
  rw [mod_of_lt (by split_ifs at hi <;> omega)]
  split_ifs at hi ⊢ <;> omega

/-- Moving the reader on by one shifts the slots. -/
lemma slot_next (r : Ring k α) (head : ℕ) (buffer : ℕ → α) (i : ℕ) :
    slot (k := k) ⟨head, next k r.tail, buffer⟩ i = r.slot (i + 1) := by
  unfold slot
  rw [next_eq, Nat.mod_add_mod]
  congr 1
  omega

lemma next_of_lt {i : ℕ} (h : i < 2 ^ k) : next k i = if i + 1 < 2 ^ k then i + 1 else 0 := by
  rw [next_eq, mod_of_lt (by omega)]
  split_ifs <;> omega

lemma count_pop (h : r.Valid) (hne : r.head ≠ r.tail) : r.count = r.pop.count + 1 := by
  have hpop := valid_pop h
  obtain ⟨hhead, htail⟩ := h
  have hnext := next_of_lt htail
  rw [count_eq hpop, count_eq ⟨hhead, htail⟩]
  unfold pop
  dsimp only
  rw [hnext]
  split_ifs <;> omega

/-- Taking the oldest pending element. -/
theorem toList_pop (h : r.Valid) (hne : r.head ≠ r.tail) :
    r.toList = r.front :: r.pop.toList := by
  have hfront : r.slot 0 = r.tail := Nat.mod_eq_of_lt h.tail_lt
  unfold toList
  rw [count_pop h hne, List.range_succ_eq_map, List.map_cons, List.map_map, hfront]
  congr 1
  apply List.map_congr_left
  intro i _
  exact congrArg r.buffer (slot_next r r.head r.buffer i).symm

/-- The slots of the pending elements and the one behind them, once it has been written. -/
lemma map_written (h : r.Valid) (a : α) :
    (List.range (r.count + 1)).map (fun i => Function.update r.buffer r.head a (r.slot i)) =
      r.toList ++ [a] := by
  rw [List.range_succ, List.map_append, List.map_singleton, slot_count h, Function.update_self]
  congr 1
  apply List.map_congr_left
  intro i hi
  exact Function.update_of_ne (slot_ne_head h (List.mem_range.mp hi)) _ _

/-- A push is the push of a queue that holds one less than there are slots. -/
theorem toList_push (h : r.Valid) (a : α) :
    (r.push a).toList = BoundedQueue.push (2 ^ k - 1) r.toList a := by
  have hcount := count_lt r
  have hvalid := valid_push h a
  have heq := count_eq h
  have hhead := next_of_lt h.head_lt
  have htail := next_of_lt h.tail_lt
  by_cases hoverrun : next k r.head = r.tail
  · have hfull : r.count + 1 = 2 ^ k := by
      have hlt := h.head_lt
      have hlt' := h.tail_lt
      rw [hhead] at hoverrun
      split_ifs at heq hoverrun <;> omega
    have hpush : r.push a = ⟨next k r.head, next k r.tail, Function.update r.buffer r.head a⟩ := by
      unfold push
      dsimp only
      rw [if_pos hoverrun]
    have hcount' : (r.push a).count = r.count := by
      have hlt := h.tail_lt
      rw [count_eq hvalid, hpush]
      dsimp only
      rw [hoverrun, htail]
      split_ifs <;> omega
    unfold BoundedQueue.push List.rtake
    rw [List.length_append, List.length_singleton, length_toList, ← hfull, Nat.add_sub_cancel,
      Nat.add_sub_cancel_left, ← map_written h a, List.range_succ_eq_map, List.map_cons,
      List.drop_one, List.tail_cons, List.map_map]
    unfold toList
    rw [hcount', hpush]
    apply List.map_congr_left
    intro i _
    exact congrArg _ (slot_next r _ _ i)
  · have hpush : r.push a = ⟨next k r.head, r.tail, Function.update r.buffer r.head a⟩ := by
      unfold push
      dsimp only
      rw [if_neg hoverrun]
    have hcount' : (r.push a).count = r.count + 1 := by
      have hlt := h.head_lt
      have hlt' := h.tail_lt
      rw [hhead] at hoverrun
      rw [count_eq hvalid, hpush, heq]
      dsimp only
      rw [hhead]
      split_ifs at hoverrun ⊢ <;> omega
    have hroom : r.toList.length < 2 ^ k - 1 := by
      have hlt := count_lt (r.push a)
      rw [length_toList]
      omega
    rw [BoundedQueue.push_of_lt a hroom, ← map_written h a]
    unfold toList
    rw [hcount', hpush]
    rfl

lemma isEmpty_eq_true (h : r.Valid) : r.isEmpty = true ↔ r.toList = [] := by
  rw [toList_eq_nil h]
  exact beq_iff_eq

/-- A ring with room for an element is not empty behind a push. -/
lemma isEmpty_push (h : r.Valid) (hk : 0 < k) (a : α) : (r.push a).isEmpty = false := by
  have hslots : 1 < 2 ^ k := Nat.one_lt_two_pow (Nat.ne_of_gt hk)
  have hlen := congrArg List.length (toList_push h a)
  rw [BoundedQueue.length_push] at hlen
  by_contra hempty
  rw [Bool.not_eq_false, isEmpty_eq_true (valid_push h a)] at hempty
  rw [hempty, List.length_nil] at hlen
  omega

end Valid

/-- Nothing is pending in a fresh ring. -/
lemma toList_fresh (buffer : ℕ → α) : toList (k := k) ⟨0, 0, buffer⟩ = [] :=
  (toList_eq_nil ⟨Nat.two_pow_pos k, Nat.two_pow_pos k⟩).mpr rfl

end Ring

end Devlib
