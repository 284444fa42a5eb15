import Mathlib.Data.Int.Notation
import SurfaceSam.Devlib.Memory

/-!
# Arrays and what is stored in them

Several arrays, each seen as the memory from its first cell on, with what lies behind it. A
log records which cells have been stored, so that a store outside its array can be told from
one that leaves the memory there as it was.
-/

namespace Devlib

/-! ### Characters -/

/-- The value of a plain `char` where that type is signed. -/
def schar (b : UInt8) : ℤ := b.toInt8.toInt

lemma schar_eq (b : UInt8) :
    schar b = if b.toNat < 128 then (b.toNat : ℤ) else (b.toNat : ℤ) - 256 := by
  change b.toBitVec.toInt = _
  rw [BitVec.toInt_eq_toNat_cond]
  have hlt : b.toNat < 256 := b.toNat_lt
  change (if 2 * b.toNat < 256 then _ else _) = _
  split_ifs
  · rfl
  · omega
  · omega
  · rfl

/-! ### Stores -/

variable {ι β : Type}

/-- The cells from `start` on, `length` in number, of an array. -/
structure Store (ι : Type) where
  array : ι
  start : ℕ
  length : ℕ
  deriving DecidableEq, Repr

/-- No cell lies outside its array. -/
def Store.Within (size : ι → ℕ) (st : Store ι) : Prop := st.start + st.length ≤ size st.array

instance (size : ι → ℕ) : DecidablePred (Store.Within size) :=
  fun st => inferInstanceAs (Decidable (st.start + st.length ≤ size st.array))

structure Arrays (ι β : Type) where
  mem : ι → Memory β
  stores : List (Store ι)

namespace Arrays

variable [DecidableEq ι]

def memcpy (s : Arrays ι β) (a : ι) (dst : ℕ) (src : List β) : Arrays ι β where
  mem := Function.update s.mem a ((s.mem a).memcpy dst src)
  stores := s.stores ++ [⟨a, dst, src.length⟩]

def memset (s : Arrays ι β) (a : ι) (dst : ℕ) (b : β) (n : ℕ) : Arrays ι β :=
  s.memcpy a dst (List.replicate n b)

variable {s : Arrays ι β} {a : ι} {dst : ℕ} {src : List β}

@[simp] lemma mem_memcpy_self : (s.memcpy a dst src).mem a = (s.mem a).memcpy dst src :=
  Function.update_self ..

@[simp] lemma mem_memcpy_of_ne {b : ι} (h : b ≠ a) : (s.memcpy a dst src).mem b = s.mem b :=
  Function.update_of_ne h _ _

@[simp] lemma stores_memcpy : (s.memcpy a dst src).stores = s.stores ++ [⟨a, dst, src.length⟩] :=
  rfl

@[simp] lemma stores_memset (b : β) (n : ℕ) :
    (s.memset a dst b n).stores = s.stores ++ [⟨a, dst, n⟩] := by
  simp [memset]

end Arrays

end Devlib
