import Mathlib.Data.List.Basic
import Mathlib.Tactic.Common

/-!
# Flat memories

A memory of `β` cells is a function from offsets to cells; cells outside every object a
program owns hold arbitrary values. Objects are read as slices, and the two copying
primitives of C are given by what a slice of their result holds.
-/

namespace Devlib

/-- A flat memory, addressed from the start of the object under consideration. -/
abbrev Memory (β : Type) := ℕ → β

namespace Memory

variable {β : Type}

/-- The `n` cells from offset `off` on. -/
def slice (mem : Memory β) (off n : ℕ) : List β :=
  (List.range n).map (fun i => mem (off + i))

/-- The memory seen from offset `off`: pointer arithmetic on the base. -/
def shift (mem : Memory β) (off : ℕ) : Memory β :=
  fun i => mem (off + i)

/-- Copies the list `src` to offset `dst`. -/
def memcpy (mem : Memory β) (dst : ℕ) (src : List β) : Memory β :=
  fun i => if h : dst ≤ i ∧ i - dst < src.length then src[i - dst] else mem i

/-- Copies `n` cells from offset `src` to the base; the ranges may overlap. -/
def memmove (mem : Memory β) (src n : ℕ) : Memory β :=
  fun i => if i < n then mem (src + i) else mem i

@[simp] lemma length_slice (mem : Memory β) (off n : ℕ) : (slice mem off n).length = n := by
  simp [slice]

@[simp] lemma getElem_slice (mem : Memory β) (off n i : ℕ) (h : i < (slice mem off n).length) :
    (slice mem off n)[i] = mem (off + i) := by
  simp [slice]

@[simp] lemma slice_zero (mem : Memory β) (off : ℕ) : slice mem off 0 = [] := rfl

@[simp] lemma shift_zero (mem : Memory β) : shift mem 0 = mem := by
  funext i
  simp [shift]

@[simp] lemma slice_shift (mem : Memory β) (k off n : ℕ) :
    slice (shift mem k) off n = slice mem (k + off) n := by
  simp [slice, shift, Nat.add_assoc]

lemma slice_add (mem : Memory β) (off m n : ℕ) :
    slice mem off (m + n) = slice mem off m ++ slice mem (off + m) n := by
  simp [slice, List.range_add, Nat.add_assoc]

lemma slice_succ (mem : Memory β) (off n : ℕ) :
    slice mem off (n + 1) = mem off :: slice mem (off + 1) n := by
  rw [Nat.add_comm, slice_add]
  rfl

lemma take_slice (mem : Memory β) (off n k : ℕ) :
    (slice mem off n).take k = slice mem off (min k n) := by
  simp [slice, ← List.map_take, List.take_range]

lemma drop_slice (mem : Memory β) (off n k : ℕ) :
    (slice mem off n).drop k = slice mem (off + k) (n - k) := by
  apply List.ext_getElem
  · simp
  · intro i _ _
    simp [Nat.add_assoc]

lemma slice_congr {mem mem' : Memory β} {off n : ℕ}
    (h : ∀ i, i < n → mem (off + i) = mem' (off + i)) : slice mem off n = slice mem' off n := by
  apply List.map_congr_left
  intro i hi
  exact h i (List.mem_range.mp hi)

lemma eq_of_slice_eq {mem : Memory β} {off n : ℕ} {l : List β} (h : slice mem off n = l)
    (i : ℕ) (hi : i < l.length) : mem (off + i) = l[i] := by
  subst h
  simp

/-- A slice is a concatenation when its two parts are the two lists. -/
lemma slice_eq_append {mem : Memory β} {off : ℕ} {a b : List β} :
    slice mem off (a ++ b).length = a ++ b ↔
      slice mem off a.length = a ∧ slice mem (off + a.length) b.length = b := by
  rw [List.length_append, slice_add]
  constructor
  · intro h
    exact List.append_inj h (length_slice _ _ _)
  · rintro ⟨ha, hb⟩
    rw [ha, hb]

lemma slice_memcpy_left (mem : Memory β) (dst n : ℕ) (src : List β) (h : n ≤ dst) :
    slice (memcpy mem dst src) 0 n = slice mem 0 n := by
  apply slice_congr
  intro i hi
  have hlt : ¬(dst ≤ 0 + i ∧ 0 + i - dst < src.length) := by omega
  simp only [memcpy, hlt, dite_false]

lemma slice_memcpy_same (mem : Memory β) (dst : ℕ) (src : List β) :
    slice (memcpy mem dst src) dst src.length = src := by
  apply List.ext_getElem (by simp)
  intro i _ hi
  simp [memcpy, hi]

/-- A copy to the base leaves what lies behind it. -/
lemma memcpy_zero_of_le (mem : Memory β) {src : List β} {i : ℕ} (h : src.length ≤ i) :
    memcpy mem 0 src i = mem i := by
  have hlt : ¬(0 ≤ i ∧ i - 0 < src.length) := by omega
  simp only [memcpy, hlt, dite_false]

lemma eq_memcpy_zero {mem mem' : Memory β} {src : List β}
    (hsrc : slice mem' 0 src.length = src) (h : ∀ i, src.length ≤ i → mem' i = mem i) :
    mem' = memcpy mem 0 src := by
  funext i
  by_cases hi : i < src.length
  · have hcopy := eq_of_slice_eq (slice_memcpy_same mem 0 src) i hi
    have hmem := eq_of_slice_eq hsrc i hi
    rw [Nat.zero_add] at hcopy hmem
    rw [hcopy, hmem]
  · have hle := Nat.le_of_not_lt hi
    rw [memcpy_zero_of_le mem hle, h i hle]

/-- Copying behind the first `n` cells appends to their slice. -/
lemma slice_memcpy_append (mem : Memory β) (n : ℕ) (src : List β) :
    slice (memcpy mem n src) 0 (n + src.length) = slice mem 0 n ++ src := by
  rw [slice_add, slice_memcpy_left mem n n src (Nat.le_refl n), Nat.zero_add, slice_memcpy_same]

@[simp] lemma memcpy_nil (mem : Memory β) (dst : ℕ) : memcpy mem dst [] = mem := by
  funext i
  simp [memcpy]

@[simp] lemma memmove_zero (mem : Memory β) (n : ℕ) : memmove mem 0 n = mem := by
  funext i
  simp [memmove]

/-- Moving `n` cells to the base leaves there what lay at the source. -/
lemma slice_memmove (mem : Memory β) (src n : ℕ) :
    slice (memmove mem src n) 0 n = slice mem src n := by
  simp only [slice, Nat.zero_add]
  apply List.map_congr_left
  intro i hi
  simp [memmove, List.mem_range.mp hi]

end Memory

end Devlib
